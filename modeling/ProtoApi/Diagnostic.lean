import ProtoApi.Decoder.Error
import ProtoApi.Http.PathTemplate
import ProtoApi.Http.RoutingTemplate
import ProtoApi.Model.Format

namespace ProtoApi

/-!
# What may go wrong

* `AnnotationError` — why an annotation of a method cannot be used;
* `SymbolKind`, `Diagnostic` — a problem that a build survives: what it concerns is left out and
  reported;
* `BuildError` — a problem that ends a build.

Each has its wording in `message`; diagnostics have a written form too.
-/

/-! ### Annotations -/

/-- Why an annotation of a method cannot be used. -/
inductive AnnotationError where
  | missingHttpRule
  /-- None of the request methods is given; a rule may name a kind of its own instead. -/
  | unsupportedVerb (kind : Option String)
  | pathTemplate (template : String) (fault : PathTemplate.Fault)
  | routingTemplate (template : String) (fault : RoutingTemplate.Fault)
  | malformed (extension : String) (error : DecodeError)
  | unresolvedType (id : String)

/-- The wording of an error. -/
def AnnotationError.message : AnnotationError → String
  | missingHttpRule => "missing google.api.http annotation"
  | unsupportedVerb (some kind) => "unsupported http method: custom(" ++ kind ++ ")"
  | unsupportedVerb none => "unsupported http method: <none>"
  | pathTemplate template fault => "malformed path template `" ++ template ++ "`: " ++ fault.text
  | routingTemplate template fault => "malformed routing path template `" ++ template ++ "`: "
    ++ fault.text
  | malformed extension error => "malformed `" ++ extension ++ "` annotation: " ++ error.message
  | unresolvedType id => "unable to lookup type `" ++ id ++ "`"

/-! ### Diagnostics -/

/-- The sort of a type. -/
inductive SymbolKind where
  | message
  | enum
deriving DecidableEq

/-- The name of a sort. -/
def SymbolKind.name : SymbolKind → String
  | message => "message"
  | enum => "enum"

/-- A problem that a build survives. -/
inductive Diagnostic where
  | methodDropped (method reason : String)
  | unknownDocumentationPath (file : String) (path : List Int32)
  | missingSymbol (kind : SymbolKind) (id : String)
  | undefinedFieldType (field rawType : String)
  | invalidOverride (selector reason : String)
  | mixinUnavailable (api : String)
deriving DecidableEq

namespace Diagnostic

/-- A path in brackets. -/
def pathText (path : List Int32) : String :=
  "[" ++ ", ".intercalate (path.map fun n => String.ofList (Json.wholeChars n.toInt)) ++ "]"

/-- The wording of a diagnostic. -/
def message : Diagnostic → String
  | methodDropped method reason => "method `" ++ method ++ "` dropped: " ++ reason
  | unknownDocumentationPath file path => file ++ ": unknown documentation path " ++ pathText path
  | missingSymbol kind id => "missing " ++ kind.name ++ " `" ++ id ++ "` in symbol table"
  | undefinedFieldType field rawType => "field `" ++ field ++ "` has undefined type `"
    ++ rawType ++ "`"
  | invalidOverride selector reason => "service config override for `" ++ selector
    ++ "` ignored: " ++ reason
  | mixinUnavailable api => "no descriptor available for mixin `" ++ api ++ "`"

/-- The written form of a diagnostic. -/
def toJson : Diagnostic → Json
  | methodDropped method reason =>
    .object [("type", .string "method_dropped"), ("method", .string method),
      ("reason", .string reason)]
  | unknownDocumentationPath file path =>
    .object [("type", .string "unknown_documentation_path"), ("file", .string file),
      ("path", .ofList (fun n : Int32 => .ofInt n.toInt) path)]
  | missingSymbol kind id =>
    .object [("type", .string "missing_symbol"), ("kind", .string kind.name), ("id", .string id)]
  | undefinedFieldType field rawType =>
    .object [("type", .string "undefined_field_type"), ("field", .string field),
      ("raw_type", .string rawType)]
  | invalidOverride selector reason =>
    .object [("type", .string "invalid_override"), ("selector", .string selector),
      ("reason", .string reason)]
  | mixinUnavailable api => .object [("type", .string "mixin_unavailable"), ("api", .string api)]

end Diagnostic

/-! ### Failed builds -/

/-- A problem that ends a build. -/
inductive BuildError where
  | descriptorJson (error : DecodeError)
  | serviceConfigJson (error : DecodeError)
  /-- A requested file is not in the descriptor set. -/
  | missingFile (path : String)
  | invalidOneofIndex (field : String) (index : Int32) (declared : Nat)
  | unresolvedType (field typeId : String)

namespace BuildError

/-- The wording of an error. -/
def message : BuildError → String
  | descriptorJson error => "failed to parse descriptor set JSON: " ++ error.message
  | serviceConfigJson error => "failed to parse service config JSON: " ++ error.message
  | missingFile path => "file to generate `" ++ path ++ "` is not in the descriptor set"
  | invalidOneofIndex field index declared =>
    "field `" ++ field ++ "` references oneof #" ++ String.ofList (Json.wholeChars index.toInt)
      ++ " but its message declares " ++ toString declared
  | unresolvedType field typeId => "field `" ++ field ++ "` references unregistered type `"
    ++ typeId ++ "`"

/-- The error that an error goes back to. -/
def cause? : BuildError → Option DecodeError
  | descriptorJson error => some error
  | serviceConfigJson error => some error
  | _ => none

end BuildError

end ProtoApi
