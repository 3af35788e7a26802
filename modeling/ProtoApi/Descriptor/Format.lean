import ProtoApi.Decoder.Record
import ProtoApi.Descriptor.Declarations

namespace ProtoApi

open Json (Tree)
open Decoder (string boolean int32 list table any optional record)
open Slot (possible orElse)

/-!
# The written form of a descriptor set

A descriptor set is read from JSON in which a field goes by its JSON name or by its plain name.
Fields that a model is not made of are passed over.

* `EnumLiteral.decoder` — a text or a number of 32 bits;
* `decoder` of each declaration;
* `DescriptorSet.decoder` — the reader of a whole set.
-/

/-- Reads an enum constant. Whatever stands in its place is read in full before it is judged. -/
def EnumLiteral.decoder : Decoder EnumLiteral
  | form, room, t => do
    match ← any form room t with
    | .string s => return .name s
    | .number (.integer n) =>
      if Int32.minValue.toInt ≤ n ∧ n ≤ Int32.maxValue.toInt then return .number (Int32.ofInt n)
      else .error (.noVariantMatches "ProtoEnumJson")
    | _ => .error (.noVariantMatches "ProtoEnumJson")

/-- The options of a declaration. -/
def optionsSlot : Slot (Option Options) := orElse "options" (optional (table any)) none

/-- Reads a field. -/
def FieldDecl.decoder : Decoder FieldDecl :=
  record "FieldDescriptorProtoJson"
    (.field (possible "name" string) <|
      .field (possible "number" int32) <|
      .field (possible "label" EnumLiteral.decoder) <|
      .field (possible "type" EnumLiteral.decoder) <|
      .field (possible "typeName" string "type_name") <|
      .field (possible "jsonName" string "json_name") <|
      .field optionsSlot <|
      .field (possible "oneofIndex" int32 "oneof_index") <|
      .field (possible "proto3Optional" boolean "proto3_optional") .none)
    fun (name?, number?, label?, kind?, typeName?, jsonName?, options?, oneofIndex?,
      proto3Optional?, ()) =>
      { name?, number?, label?, kind?, typeName?, jsonName?, options?, oneofIndex?,
        proto3Optional? }

/-- Reads a oneof. -/
def OneofDecl.decoder : Decoder OneofDecl :=
  record "OneofDescriptorProtoJson" (.field (possible "name" string) .none)
    fun (name?, ()) => { name? }

/-- Reads a value of an enum. -/
def EnumValueDecl.decoder : Decoder EnumValueDecl :=
  record "EnumValueDescriptorProtoJson"
    (.field (possible "name" string) <| .field (possible "number" int32) <|
      .field optionsSlot .none)
    fun (name?, number?, options?, ()) => { name?, number?, options? }

/-- Reads an enum. -/
def EnumDecl.decoder : Decoder EnumDecl :=
  record "EnumDescriptorProtoJson"
    (.field (possible "name" string) <|
      .field (orElse "value" (list EnumValueDecl.decoder) []) <|
      .field optionsSlot .none)
    fun (name?, values, options?, ()) => { name?, values, options? }

namespace MessageDecl

/-- Reads a message whose nested messages are read by `nested`. -/
def decoderWith (nested : Decoder MessageDecl) : Decoder MessageDecl :=
  record "DescriptorProtoJson"
    (.field (possible "name" string) <|
      .field (orElse "field" (list FieldDecl.decoder) []) <|
      .field (orElse "nestedType" (list nested) [] "nested_type") <|
      .field (orElse "enumType" (list EnumDecl.decoder) [] "enum_type") <|
      .field (orElse "oneofDecl" (list OneofDecl.decoder) [] "oneof_decl") <|
      .field optionsSlot .none)
    fun (name?, fields, nested, enums, oneofs, options?, ()) =>
      { name?, fields, nested, enums, oneofs, options? }

/-- Reads a message within some room. A nested message stands inside two more containers, so that
    where there is no room for them it is never looked at. -/
def decodeWithin (form : Form) : (room : Nat) → Tree → Except DecodeError MessageDecl
  | 0, t => decoderWith (fun _ _ _ => .error (.malformed .tooDeep)) form 0 t
  | 1, t => decoderWith (fun _ _ _ => .error (.malformed .tooDeep)) form 1 t
  | room + 2, t => decoderWith (fun _ _ t => decodeWithin form room t) form (room + 2) t

/-- Reads a message. -/
def decoder : Decoder MessageDecl := decodeWithin

end MessageDecl

/-- Reads a method. -/
def MethodDecl.decoder : Decoder MethodDecl :=
  record "MethodDescriptorProtoJson"
    (.field (possible "name" string) <|
      .field (possible "inputType" string "input_type") <|
      .field (possible "outputType" string "output_type") <|
      .field (possible "clientStreaming" boolean "client_streaming") <|
      .field (possible "serverStreaming" boolean "server_streaming") <|
      .field optionsSlot .none)
    fun (name?, inputType?, outputType?, clientStreaming?, serverStreaming?, options?, ()) =>
      { name?, inputType?, outputType?, clientStreaming?, serverStreaming?, options? }

/-- Reads a service. -/
def ServiceDecl.decoder : Decoder ServiceDecl :=
  record "ServiceDescriptorProtoJson"
    (.field (possible "name" string) <|
      .field (orElse "method" (list MethodDecl.decoder) []) <|
      .field optionsSlot .none)
    fun (name?, methods, options?, ()) => { name?, methods, options? }

/-- Reads a comment. -/
def Location.decoder : Decoder Location :=
  record "LocationJson"
    (.field (orElse "path" (list int32) []) <|
      .field (possible "leadingComments" string "leading_comments") .none)
    fun (path, leadingComments?, ()) => { path, leadingComments? }

/-- Reads the comments of a file. -/
def Location.listDecoder : Decoder (List Location) :=
  record "SourceCodeInfoJson"
    (.field (orElse "location" (list Location.decoder) []) .none)
    fun (locations, ()) => locations

/-- Reads a file. -/
def FileDecl.decoder : Decoder FileDecl :=
  record "FileDescriptorProtoJson"
    (.field (possible "name" string) <|
      .field (possible "package" string) <|
      .field (orElse "messageType" (list MessageDecl.decoder) [] "message_type") <|
      .field (orElse "enumType" (list EnumDecl.decoder) [] "enum_type") <|
      .field (orElse "service" (list ServiceDecl.decoder) []) <|
      .field optionsSlot <|
      .field (orElse "sourceCodeInfo" (optional Location.listDecoder) none "source_code_info")
        .none)
    fun (name?, package?, messages, enums, services, options?, sourceInfo?, ()) =>
      { name?, package?, messages, enums, services, options?, sourceInfo? }

/-- Reads a set of files. -/
def DescriptorSet.decoder : Decoder DescriptorSet :=
  record "FileDescriptorSetJson" (.field (orElse "file" (list FileDecl.decoder) []) .none)
    fun (files, ()) => { files }

end ProtoApi
