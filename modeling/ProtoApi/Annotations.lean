import ProtoApi.Descriptor.Declarations
import ProtoApi.Http.Rule

namespace ProtoApi

open Decoder (string list record)
open Slot (orElse)

/-!
# Annotations

Extensions stand among the options of a declaration, under their name in brackets. What cannot be
read counts as absent, except where the annotated method has to be dropped for it.

* `extension?`, `decodeExtension?` — the value of an extension;
* `isDeprecated`, `defaultHost`, `fieldBehavior`, `isUuid4` — plain annotations;
* `operationInfo?` — the types of a long-running operation, qualified by `qualifiedType`;
* `httpRule?`, `routing` — the annotations that a method is bound by.
-/

/-- The value of an extension. -/
def extension? (options : Option Options) (name : String) : Option Json :=
  options.bind (·.get? ("[" ++ name ++ "]"))

/-- The value of an extension, decoded. -/
def decodeExtension? {α : Type} (d : Decoder α) (options : Option Options) (name : String) :
    Option (Except AnnotationError α) :=
  (extension? options name).map fun v => (d.ofValue v).mapError (.malformed name)

/-- Whether a declaration is deprecated. -/
def isDeprecated (options : Option Options) : Bool :=
  ((options.bind (·.get? "deprecated")).bind Json.boolean?).getD false

/-- The host of a service. -/
def defaultHost (options : Option Options) : String :=
  ((extension? options "google.api.default_host").bind Json.string?).getD ""

/-! ### Long-running operations -/

/-- Reads the types of an operation as they are given: the response type, then the metadata type. -/
def operationTypesDecoder : Decoder (String × String) :=
  record "OperationInfoJson"
    (.field (orElse "responseType" string "" "response_type") <|
      .field (orElse "metadataType" string "" "metadata_type") .none)
    fun (responseType, metadataType, ()) => (responseType, metadataType)

/-- The id of a type that an operation names. A name with a dot is complete but for the dot in
    front; any other name belongs to the package. -/
def qualifiedType (package name : String) : String :=
  match name.toList with
  | [] => ""
  | '.' :: _ => name
  | chars => if '.' ∈ chars ∨ package = "" then "." ++ name else "." ++ package ++ "." ++ name

/-- What a method says about the operation that it starts. -/
def operationInfo? (package : String) (options : Option Options) : Option OperationInfo :=
  match decodeExtension? operationTypesDecoder options "google.longrunning.operation_info" with
  | some (.ok (responseType, metadataType)) =>
    some { metadataType := qualifiedType package metadataType,
           responseType := qualifiedType package responseType }
  | _ => none

/-! ### Fields -/

namespace FieldBehavior

/-- The behavior of a name. -/
def ofName? (name : String) : Option FieldBehavior :=
  [("OPTIONAL", optional), ("REQUIRED", required), ("OUTPUT_ONLY", outputOnly),
    ("INPUT_ONLY", inputOnly), ("IMMUTABLE", immutable), ("UNORDERED_LIST", unorderedList),
    ("NON_EMPTY_DEFAULT", nonEmptyDefault),
    ("IDENTIFIER", identifier)].lookup name

/-- The behavior of a number. -/
def ofNumber? (n : Int) : Option FieldBehavior :=
  [(1, optional), (2, required), (3, outputOnly), (4, inputOnly), (5, immutable),
    (6, unorderedList), (7, nonEmptyDefault), (8, identifier)].lookup n

/-- The behavior that a value names. -/
def ofJson? : Json → Option FieldBehavior
  | .string s => ofName? s
  | .number (.integer n) => ofNumber? n
  | _ => none

end FieldBehavior

/-- The behaviors of a field, given one by one or in a list; those that are not known are passed
    over. -/
def fieldBehavior (options : Option Options) : List FieldBehavior :=
  match extension? options "google.api.field_behavior" with
  | none => []
  | some (.array items) => items.filterMap FieldBehavior.ofJson?
  | some v => [v].filterMap FieldBehavior.ofJson?

/-- Whether a field holds a random identifier. -/
def isUuid4 (options : Option Options) : Bool :=
  match (extension? options "google.api.field_info").bind (·.member? "format") with
  | some (.string s) => s = "UUID4"
  | some (.number (.integer n)) => n = 1
  | _ => false

/-! ### Methods -/

/-- The HTTP rule of a method. -/
def httpRule? (options : Option Options) : Option (Except AnnotationError HttpRule) :=
  decodeExtension? HttpRule.decoder options "google.api.http"

/-- Reads a routing parameter: the field and the template. -/
def routingParameterDecoder : Decoder (String × String) :=
  record "RoutingParameterJson"
    (.field (orElse "field" string "") <|
      .field (orElse "pathTemplate" string "" "path_template") .none)
    fun (field, template, ()) => (field, template)

/-- Reads the routing parameters of a method. -/
def routingRuleDecoder : Decoder (List (String × String)) :=
  record "RoutingRuleJson"
    (.field (orElse "routingParameters" (list routingParameterDecoder) [] "routing_parameters")
      .none)
    fun (parameters, ()) => parameters

/-- The routing parameters of a method, none without the annotation. -/
def routing (options : Option Options) : Except AnnotationError (List RoutingParameter) :=
  match decodeExtension? routingRuleDecoder options "google.api.routing" with
  | none => .ok []
  | some (.error e) => .error e
  | some (.ok parameters) =>
    parameters.mapM fun (field, template) =>
      (RoutingTemplate.parameter field template).mapError (.routingTemplate template)

end ProtoApi
