import ProtoApi.Descriptor.Declarations
import ProtoApi.Diagnostic
import ProtoApi.Text.Uppercase

namespace ProtoApi

/-!
# Types of fields

* `FieldKind.ofName`, `FieldKind.ofNumber`, `FieldKind.ofLiteral` — the kind of a field as a
  declaration gives it;
* `jsonName` — the JSON name of a field that declares none;
* `Field.withType` — a field with the kind, the type and the presence that its declaration gives it.
-/

namespace FieldKind

/-- The kind of a name. -/
def ofName (name : String) : FieldKind :=
  [("TYPE_DOUBLE", double), ("TYPE_FLOAT", float), ("TYPE_INT64", int64), ("TYPE_UINT64", uint64),
    ("TYPE_INT32", int32), ("TYPE_FIXED64", fixed64), ("TYPE_FIXED32", fixed32),
    ("TYPE_BOOL", bool),
    ("TYPE_STRING", string), ("TYPE_GROUP", group), ("TYPE_MESSAGE", message),
      ("TYPE_BYTES", bytes),
    ("TYPE_UINT32", uint32), ("TYPE_ENUM", enum), ("TYPE_SFIXED32", sfixed32),
      ("TYPE_SFIXED64", sfixed64),
    ("TYPE_SINT32", sint32), ("TYPE_SINT64", sint64)].lookup name |>.getD undefined

/-- The kind of a number. -/
def ofNumber (n : Int32) : FieldKind :=
  [(1, double), (2, float), (3, int64), (4, uint64), (5, int32), (6, fixed64), (7, fixed32),
    (8, bool), (9, string), (10, group), (11, message), (12, bytes), (13, uint32), (14, enum),
    (15, sfixed32), (16, sfixed64), (17, sint32),
    (18, sint64)].lookup n.toInt |>.getD undefined

/-- The kind that a declaration gives, undefined if it gives none or one that is not known. -/
def ofLiteral : Option EnumLiteral → FieldKind
  | some (.name name) => ofName name
  | some (.number n) => ofNumber n
  | none => undefined

end FieldKind

/-- Drops underscores and raises the character behind each; `raise` tells whether one has just been
    dropped. -/
def jsonNameChars (raise : Bool) : List Char → List Char
  | [] => []
  | c :: cs =>
    if c = '_' then jsonNameChars true cs
    else if raise then Text.toUppercase c ++ jsonNameChars false cs
    else c :: jsonNameChars false cs

/-- The JSON name of a field: its name in lower camel case. -/
def jsonName (name : String) : String := String.ofList (jsonNameChars false name.toList)

/-- The field with the type that `decl` gives it. Messages and groups can be absent unless they are
    repeated. A message that is the entry of a map makes the field a map, so all messages must have
    been registered. A field without a known kind stays undefined and is reported. -/
def Field.withType (registry : Registry) (f : Field) (decl : FieldDecl) :
    Field × Option Diagnostic :=
  let kind := FieldKind.ofLiteral decl.kind?
  match kind with
  | .undefined =>
    ({ f with kind }, some (.undefinedFieldType f.id ((decl.kind?.map EnumLiteral.text).getD "")))
  | .message =>
    if ((decl.typeName?.bind registry.message?).map (·.isMap)).getD false then
      ({ f with kind, typeId := decl.typeName?, map := true, repeated := false, optional := false },
        none)
    else ({ f with kind, typeId := decl.typeName?, optional := !f.repeated }, none)
  | .group => ({ f with kind, typeId := decl.typeName?, optional := !f.repeated }, none)
  | .enum => ({ f with kind, typeId := decl.typeName? }, none)
  | _ => ({ f with kind }, none)

end ProtoApi
