import ProtoApi.Decoder.Record
import ProtoApi.Json.Writer
import ProtoApi.Model.Api

namespace ProtoApi

open Decoder (string boolean int32 index list table variant tagged record)
open Slot (required possible)

/-!
# The written form of a model

A model is written as a JSON object with every field of every entity under a fixed key, nothing
being null. It is read back strictly: only fields that may be nothing may be absent.

* `toJson` of each entity — the written form, the keys in a fixed order;
* `decoder` of each entity — the reader of that form.
-/

/-! ### Parts that recur -/

/-- The written form of a list. -/
def Json.ofList {α : Type} (toJson : α → Json) (xs : List α) : Json := .array (xs.map toJson)

/-- The written form of a list of texts. -/
def Json.ofStrings (xs : List String) : Json := Json.ofList Json.string xs

/-- The written form of something that may be nothing. -/
def Json.ofOption {α : Type} (toJson : α → Json) : Option α → Json
  | none => .null
  | some a => toJson a

/-- The written form of a table. -/
def Json.ofEntries {α : Type} (toJson : α → Json) (t : Table α) : Json :=
  .object (t.entries.map fun e => (e.1, toJson e.2))

/-- A set of names, written as a list. -/
def Decoder.nameSet : Decoder NameSet
  | form, room, t => (list string form room t).map NameSet.ofNames

/-! ### Services -/

namespace PathSegment

/-- The written form of a path segment. -/
def toJson : PathSegment → Json
  | literal text => .object [("tag", .string "literal"), ("value", .string text)]
  | fieldPath path => .object [("tag", .string "field_path"), ("value", .string path)]
  | verb text => .object [("tag", .string "verb"), ("value", .string text)]

/-- A text as the content of a segment. -/
def contentDecoder (make : String → PathSegment) : Decoder PathSegment
  | form, room, t => (string form room t).map make

/-- Reads a path segment. -/
def decoder : Decoder PathSegment :=
  tagged "PathSegment" "tag" "value"
    [("literal", contentDecoder .literal), ("field_path", contentDecoder .fieldPath),
      ("verb", contentDecoder .verb)]

end PathSegment

namespace HttpBinding

/-- The written form of a binding. -/
def toJson (b : HttpBinding) : Json :=
  .object [
    ("verb", .string b.verb),
    ("path_template", .ofList PathSegment.toJson b.path),
    ("query_parameters", .ofStrings b.queryParameters.names),
    ("body_field_path", .ofOption .string b.body)]

/-- Reads a binding. -/
def decoder : Decoder HttpBinding :=
  record "PathInfo"
    (.field (required "verb" string) <|
      .field (required "path_template" (list PathSegment.decoder)) <|
      .field (required "query_parameters" Decoder.nameSet) <|
      .field (possible "body_field_path" string) .none)
    fun (verb, path, queryParameters, body, ()) => { verb, path, queryParameters, body }

end HttpBinding

namespace RoutingParameter

/-- The written form of a routing parameter. -/
def toJson (p : RoutingParameter) : Json :=
  .object [
    ("field_path", .string p.fieldPath),
    ("name", .string p.name),
    ("prefix", .string p.before),
    ("matcher", .string p.matcher),
    ("suffix", .string p.after)]

/-- Reads a routing parameter. -/
def decoder : Decoder RoutingParameter :=
  record "RoutingInfo"
    (.field (required "field_path" string) <|
      .field (required "name" string) <|
      .field (required "prefix" string) <|
      .field (required "matcher" string) <|
      .field (required "suffix" string) .none)
    fun (fieldPath, name, before, matcher, after, ()) => { fieldPath, name, before, matcher, after }

end RoutingParameter

namespace OperationInfo

/-- The written form of operation information. -/
def toJson (o : OperationInfo) : Json :=
  .object [("metadata_type_id", .string o.metadataType),
    ("response_type_id", .string o.responseType)]

/-- Reads operation information. -/
def decoder : Decoder OperationInfo :=
  record "OperationInfo"
    (.field (required "metadata_type_id" string) <|
      .field (required "response_type_id" string) .none)
    fun (metadataType, responseType, ()) => { metadataType, responseType }

end OperationInfo

namespace Method

/-- The written form of a method. -/
def toJson (m : Method) : Json :=
  .object [
    ("id", .string m.id),
    ("name", .string m.name),
    ("documentation", .string m.documentation),
    ("input_type_id", .string m.inputType),
    ("output_type_id", .string m.outputType),
    ("path_info", m.binding.toJson),
    ("routing", .ofList RoutingParameter.toJson m.routing),
    ("client_side_streaming", .boolean m.clientStreaming),
    ("server_side_streaming", .boolean m.serverStreaming),
    ("operation_info", .ofOption OperationInfo.toJson m.operationInfo),
    ("returns_empty", .boolean m.returnsEmpty),
    ("is_pageable", .boolean m.pageable),
    ("host_override", .ofOption .string m.hostOverride),
    ("deprecated", .boolean m.deprecated)]

/-- Reads a method. -/
def decoder : Decoder Method :=
  record "Method"
    (.field (required "id" string) <|
      .field (required "name" string) <|
      .field (required "documentation" string) <|
      .field (required "input_type_id" string) <|
      .field (required "output_type_id" string) <|
      .field (required "path_info" HttpBinding.decoder) <|
      .field (required "routing" (list RoutingParameter.decoder)) <|
      .field (required "client_side_streaming" boolean) <|
      .field (required "server_side_streaming" boolean) <|
      .field (possible "operation_info" OperationInfo.decoder) <|
      .field (required "returns_empty" boolean) <|
      .field (required "is_pageable" boolean) <|
      .field (possible "host_override" string) <|
      .field (required "deprecated" boolean) .none)
    fun (id, name, documentation, inputType, outputType, binding, routing, clientStreaming,
        serverStreaming, operationInfo, returnsEmpty, pageable, hostOverride, deprecated, ()) =>
      { id, name, documentation, inputType, outputType, binding, routing, clientStreaming,
        serverStreaming, operationInfo, returnsEmpty, pageable, hostOverride, deprecated }

end Method

namespace Service

/-- The written form of a service. -/
def toJson (s : Service) : Json :=
  .object [
    ("id", .string s.id),
    ("name", .string s.name),
    ("package", .string s.package),
    ("documentation", .string s.documentation),
    ("default_host", .string s.defaultHost),
    ("deprecated", .boolean s.deprecated),
    ("methods", .ofStrings s.methods)]

/-- Reads a service. -/
def decoder : Decoder Service :=
  record "Service"
    (.field (required "id" string) <|
      .field (required "name" string) <|
      .field (required "package" string) <|
      .field (required "documentation" string) <|
      .field (required "default_host" string) <|
      .field (required "deprecated" boolean) <|
      .field (required "methods" (list string)) .none)
    fun (id, name, package, documentation, defaultHost, deprecated, methods, ()) =>
      { id, name, package, documentation, defaultHost, deprecated, methods }

end Service

/-! ### Messages -/

namespace FieldKind

/-- The names of the kinds. -/
def named : List (String × FieldKind) := [
  ("undefined", undefined), ("double", double), ("float", float), ("int64", int64),
    ("uint64", uint64),
  ("int32", int32), ("fixed64", fixed64), ("fixed32", fixed32), ("bool", bool), ("string", string),
    ("group", group),
  ("message", message), ("bytes", bytes), ("uint32", uint32), ("enum", enum),
    ("sfixed32", sfixed32),
  ("sfixed64", sfixed64), ("sint32", sint32), ("sint64", sint64)]

/-- The name of a kind. -/
def name : FieldKind → String
  | undefined => "undefined"
  | double => "double"
  | float => "float"
  | int64 => "int64"
  | uint64 => "uint64"
  | int32 => "int32"
  | fixed64 => "fixed64"
  | fixed32 => "fixed32"
  | bool => "bool"
  | string => "string"
  | group => "group"
  | message => "message"
  | bytes => "bytes"
  | uint32 => "uint32"
  | enum => "enum"
  | sfixed32 => "sfixed32"
  | sfixed64 => "sfixed64"
  | sint32 => "sint32"
  | sint64 => "sint64"

/-- A kind is found under its name. -/
theorem lookup_name (k : FieldKind) : named.lookup k.name = some k := by
  cases k <;> decide

/-- The written form of a kind. -/
def toJson (k : FieldKind) : Json := .string k.name

/-- Reads a kind. -/
def decoder : Decoder FieldKind := variant named

end FieldKind

namespace FieldBehavior

/-- The names of the behaviors. -/
def named : List (String × FieldBehavior) := [
  ("optional", optional), ("required", required), ("output_only", outputOnly),
    ("input_only", inputOnly),
  ("immutable", immutable), ("unordered_list", unorderedList),
    ("non_empty_default", nonEmptyDefault),
  ("identifier", identifier)]

/-- The name of a behavior. -/
def name : FieldBehavior → String
  | optional => "optional"
  | required => "required"
  | outputOnly => "output_only"
  | inputOnly => "input_only"
  | immutable => "immutable"
  | unorderedList => "unordered_list"
  | nonEmptyDefault => "non_empty_default"
  | identifier => "identifier"

/-- A behavior is found under its name. -/
theorem lookup_name (b : FieldBehavior) : named.lookup b.name = some b := by
  cases b <;> decide

/-- The written form of a behavior. -/
def toJson (b : FieldBehavior) : Json := .string b.name

/-- Reads a behavior. -/
def decoder : Decoder FieldBehavior := variant named

end FieldBehavior

namespace Field

/-- The written form of a field. -/
def toJson (f : Field) : Json :=
  .object [
    ("id", .string f.id),
    ("name", .string f.name),
    ("json_name", .string f.jsonName),
    ("documentation", .string f.documentation),
    ("typez", f.kind.toJson),
    ("type_id", .ofOption .string f.typeId),
    ("repeated", .boolean f.repeated),
    ("optional", .boolean f.optional),
    ("map", .boolean f.map),
    ("is_one_of", .boolean f.isOneOf),
    ("auto_populated", .boolean f.autoPopulated),
    ("behavior", .ofList FieldBehavior.toJson f.behavior),
    ("deprecated", .boolean f.deprecated)]

/-- Reads a field. -/
def decoder : Decoder Field :=
  record "Field"
    (.field (required "id" string) <|
      .field (required "name" string) <|
      .field (required "json_name" string) <|
      .field (required "documentation" string) <|
      .field (required "typez" FieldKind.decoder) <|
      .field (possible "type_id" string) <|
      .field (required "repeated" boolean) <|
      .field (required "optional" boolean) <|
      .field (required "map" boolean) <|
      .field (required "is_one_of" boolean) <|
      .field (required "auto_populated" boolean) <|
      .field (required "behavior" (list FieldBehavior.decoder)) <|
      .field (required "deprecated" boolean) .none)
    fun (id, name, jsonName, documentation, kind, typeId, repeated, optional, map, isOneOf,
        autoPopulated, behavior, deprecated, ()) =>
      { id, name, jsonName, documentation, kind, typeId, repeated, optional, map, isOneOf,
        autoPopulated, behavior, deprecated }

end Field

namespace OneOf

/-- The written form of a oneof. -/
def toJson (o : OneOf) : Json :=
  .object [
    ("id", .string o.id),
    ("name", .string o.name),
    ("documentation", .string o.documentation),
    ("fields", .ofStrings o.fields)]

/-- Reads a oneof. -/
def decoder : Decoder OneOf :=
  record "OneOf"
    (.field (required "id" string) <|
      .field (required "name" string) <|
      .field (required "documentation" string) <|
      .field (required "fields" (list string)) .none)
    fun (id, name, documentation, fields, ()) => { id, name, documentation, fields }

end OneOf

namespace Message

/-- The written form of a message. -/
def toJson (m : Message) : Json :=
  .object [
    ("id", .string m.id),
    ("name", .string m.name),
    ("package", .string m.package),
    ("parent", .ofOption .string m.parent),
    ("documentation", .string m.documentation),
    ("deprecated", .boolean m.deprecated),
    ("is_map", .boolean m.isMap),
    ("is_pageable_response", .boolean m.isPageableResponse),
    ("pageable_item", .ofOption .string m.pageableItem),
    ("fields", .ofList Field.toJson m.fields),
    ("one_ofs", .ofList OneOf.toJson m.oneOfs),
    ("messages", .ofStrings m.messages),
    ("enums", .ofStrings m.enums)]

/-- Reads a message. -/
def decoder : Decoder Message :=
  record "Message"
    (.field (required "id" string) <|
      .field (required "name" string) <|
      .field (required "package" string) <|
      .field (possible "parent" string) <|
      .field (required "documentation" string) <|
      .field (required "deprecated" boolean) <|
      .field (required "is_map" boolean) <|
      .field (required "is_pageable_response" boolean) <|
      .field (possible "pageable_item" string) <|
      .field (required "fields" (list Field.decoder)) <|
      .field (required "one_ofs" (list OneOf.decoder)) <|
      .field (required "messages" (list string)) <|
      .field (required "enums" (list string)) .none)
    fun (id, name, package, parent, documentation, deprecated, isMap, isPageableResponse,
        pageableItem, fields, oneOfs, messages, enums, ()) =>
      { id, name, package, parent, documentation, deprecated, isMap, isPageableResponse,
        pageableItem, fields, oneOfs, messages, enums }

end Message

/-! ### Enums -/

namespace EnumValue

/-- The written form of an enum value. -/
def toJson (v : EnumValue) : Json :=
  .object [
    ("name", .string v.name),
    ("number", .ofInt v.number.toInt),
    ("parent", .string v.parent),
    ("documentation", .string v.documentation),
    ("deprecated", .boolean v.deprecated)]

/-- Reads an enum value. -/
def decoder : Decoder EnumValue :=
  record "EnumValue"
    (.field (required "name" string) <|
      .field (required "number" int32) <|
      .field (required "parent" string) <|
      .field (required "documentation" string) <|
      .field (required "deprecated" boolean) .none)
    fun (name, number, parent, documentation, deprecated, ()) =>
      { name, number, parent, documentation, deprecated }

end EnumValue

namespace EnumType

/-- The written form of an enum. -/
def toJson (e : EnumType) : Json :=
  .object [
    ("id", .string e.id),
    ("name", .string e.name),
    ("package", .string e.package),
    ("parent", .ofOption .string e.parent),
    ("documentation", .string e.documentation),
    ("deprecated", .boolean e.deprecated),
    ("values", .ofList EnumValue.toJson e.values),
    ("unique_number_values", .ofList (fun n : Nat => .ofInt n) e.uniqueNumberValues)]

/-- Reads an enum. -/
def decoder : Decoder EnumType :=
  record "Enum"
    (.field (required "id" string) <|
      .field (required "name" string) <|
      .field (required "package" string) <|
      .field (possible "parent" string) <|
      .field (required "documentation" string) <|
      .field (required "deprecated" boolean) <|
      .field (required "values" (list EnumValue.decoder)) <|
      .field (required "unique_number_values" (list index)) .none)
    fun (id, name, package, parent, documentation, deprecated, values, uniqueNumberValues, ()) =>
      { id, name, package, parent, documentation, deprecated, values, uniqueNumberValues }

end EnumType

/-! ### The model -/

namespace Registry

/-- The written form of a registry. -/
def toJson (r : Registry) : Json :=
  .object [
    ("service_by_id", .ofEntries Service.toJson r.services),
    ("method_by_id", .ofEntries Method.toJson r.methods),
    ("message_by_id", .ofEntries Message.toJson r.messages),
    ("enum_by_id", .ofEntries EnumType.toJson r.enums)]

/-- Reads a registry. -/
def decoder : Decoder Registry :=
  record "ApiState"
    (.field (required "service_by_id" (table Service.decoder)) <|
      .field (required "method_by_id" (table Method.decoder)) <|
      .field (required "message_by_id" (table Message.decoder)) <|
      .field (required "enum_by_id" (table EnumType.decoder)) .none)
    fun (services, methods, messages, enums, ()) => { services, methods, messages, enums }

end Registry

namespace Api

/-- The written form of a model. -/
def toJson (a : Api) : Json :=
  .object [
    ("name", .string a.name),
    ("package_name", .string a.packageName),
    ("title", .string a.title),
    ("description", .string a.description),
    ("services", .ofStrings a.services),
    ("messages", .ofStrings a.messages),
    ("enums", .ofStrings a.enums),
    ("state", a.registry.toJson)]

/-- Reads a model. -/
def decoder : Decoder Api :=
  record "Api"
    (.field (required "name" string) <|
      .field (required "package_name" string) <|
      .field (required "title" string) <|
      .field (required "description" string) <|
      .field (required "services" (list string)) <|
      .field (required "messages" (list string)) <|
      .field (required "enums" (list string)) <|
      .field (required "state" Registry.decoder) .none)
    fun (name, packageName, title, description, services, messages, enums, registry, ()) =>
      { name, packageName, title, description, services, messages, enums, registry }

end Api

/-- The written form of an entity of any sort. -/
def Symbol.toJson : Symbol → Json
  | service s => s.toJson
  | method m => m.toJson
  | message m => m.toJson
  | enum e => e.toJson

end ProtoApi
