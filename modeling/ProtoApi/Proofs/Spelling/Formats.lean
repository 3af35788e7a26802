import ProtoApi.Decoder.Basic
import Mathlib.Data.List.Sort

namespace ProtoApi

/-!
# Two ways to write the same input

A field of a record goes by its JSON name or, where it has one, by its plain name. The members of a
record may stand in any order, and members that belong to no field mean nothing.

* `RecordKind`, `Shape`, `KnownField`, `RecordKind.fields` — the records of descriptor sets and
  service configurations, and of the extensions among the options of a declaration, with the names
  of their fields;
* `KnownField.Apart`, `fields_apart` — no name belongs to two fields of a record;
* `RecordKind.ordered`, `ordered_before` — the fields of a record in an order that agrees with that
  of all their names;
* `Change`, `Respelled` — a value and the same value with some of its records written in another
  way.
-/

/-! ### Records and their fields -/

/-- The records of the two formats and of the extensions that are read. -/
inductive RecordKind where
  | descriptorSet | file | message | field | oneof | enum | enumValue | service | method
    | sourceInfo | location
  | serviceConfig | documentation | api | http | backend | backendRule | publishing | methodSettings
  | httpRule | customPattern | routingRule | routingParameter | operationInfo | fieldInfo
deriving DecidableEq

/-- What stands in a place of a format, as far as there are records in it. -/
inductive Shape where
  /-- Something that has no records in it. -/
  | leaf
  | record (k : RecordKind)
  | records (k : RecordKind)
  /-- The options of a declaration: an object whose keys are no fields. -/
  | options
deriving DecidableEq

/-- A field of a record. -/
structure KnownField where
  label : String
  /-- The plain name, where it differs from the JSON name. -/
  second? : Option String := none
  shape : Shape := .leaf
deriving DecidableEq

namespace KnownField

/-- Whether the field goes by a name. -/
def answers (f : KnownField) (key : String) : Bool := key = f.label || f.second? = some key

/-- No name belongs to both fields. -/
def Apart (f g : KnownField) : Prop := ∀ key, f.answers key = true → g.answers key = false

/-- The names of one field come before those of the other one. -/
def Before (f g : KnownField) : Prop :=
  ∀ key key', f.answers key = true → g.answers key' = true → key < key'

/-- The names of a field. -/
def names (f : KnownField) : List String := f.label :: f.second?.toList

/-- A field goes by its names and by no other one. -/
theorem answers_iff {f : KnownField} {key : String} : f.answers key = true ↔ key ∈ f.names := by
  unfold answers names
  cases f.second? with
  | none => simp
  | some second => simp [eq_comm (a := second)]

/-- Fields without a common name are told apart. -/
theorem apart_of_names {f g : KnownField} (h : ∀ key ∈ f.names, key ∉ g.names) : f.Apart g := by
  intro key hf
  rw [Bool.eq_false_iff, ne_eq, answers_iff]
  exact h key (answers_iff.1 hf)

/-- A field stands before another one if all of its names do. -/
theorem before_of_names {f g : KnownField} (h : ∀ key ∈ f.names, ∀ key' ∈ g.names, key < key') :
    f.Before g :=
  fun key key' hf hg => h key (answers_iff.1 hf) key' (answers_iff.1 hg)

end KnownField

namespace RecordKind

/-- The fields of a record, in the order of their declaration. -/
def fields : RecordKind → List KnownField
  | descriptorSet => [{ label := "file", shape := .records file }]
  | file => [
      { label := "name" }, { label := "package" },
      { label := "messageType", second? := "message_type", shape := .records message },
      { label := "enumType", second? := "enum_type", shape := .records enum },
      { label := "service", shape := .records service },
      { label := "options", shape := .options },
      { label := "sourceCodeInfo", second? := "source_code_info", shape := .record sourceInfo }]
  | message => [
      { label := "name" },
      { label := "field", shape := .records field },
      { label := "nestedType", second? := "nested_type", shape := .records message },
      { label := "enumType", second? := "enum_type", shape := .records enum },
      { label := "oneofDecl", second? := "oneof_decl", shape := .records oneof },
      { label := "options", shape := .options }]
  | field => [
      { label := "name" }, { label := "number" }, { label := "label" }, { label := "type" },
      { label := "typeName", second? := "type_name" },
      { label := "jsonName", second? := "json_name" },
      { label := "options", shape := .options },
      { label := "oneofIndex", second? := "oneof_index" },
      { label := "proto3Optional", second? := "proto3_optional" }]
  | oneof => [{ label := "name" }]
  | enum => [
      { label := "name" }, { label := "value", shape := .records enumValue },
        { label := "options", shape := .options }]
  | enumValue =>
    [{ label := "name" }, { label := "number" }, { label := "options", shape := .options }]
  | service => [
      { label := "name" }, { label := "method", shape := .records method },
        { label := "options", shape := .options }]
  | method => [
      { label := "name" },
      { label := "inputType", second? := "input_type" },
      { label := "outputType", second? := "output_type" },
      { label := "clientStreaming", second? := "client_streaming" },
      { label := "serverStreaming", second? := "server_streaming" },
      { label := "options", shape := .options }]
  | sourceInfo => [{ label := "location", shape := .records location }]
  | location => [{ label := "path" }, { label := "leadingComments", second? := "leading_comments" }]
  | serviceConfig => [
      { label := "name" }, { label := "title" },
      { label := "documentation", shape := .record documentation },
      { label := "apis", shape := .records api },
      { label := "http", shape := .record http },
      { label := "backend", shape := .record backend },
      { label := "publishing", shape := .record publishing }]
  | documentation => [{ label := "summary" }]
  | api => [{ label := "name" }]
  | http => [{ label := "rules", shape := .records httpRule }]
  | backend => [{ label := "rules", shape := .records backendRule }]
  | backendRule => [{ label := "selector" }, { label := "address" }]
  | publishing =>
    [{ label := "methodSettings", second? := "method_settings", shape := .records methodSettings }]
  | methodSettings => [
      { label := "selector" },
        { label := "autoPopulatedFields", second? := "auto_populated_fields" }]
  | httpRule => [
      { label := "selector" }, { label := "get" }, { label := "put" }, { label := "post" },
        { label := "delete" },
      { label := "patch" }, { label := "custom", shape := .record customPattern },
        { label := "body" },
      { label := "additionalBindings", second? := "additional_bindings",
        shape := .records httpRule }]
  | customPattern => [{ label := "kind" }, { label := "path" }]
  | routingRule => [
      { label := "routingParameters", second? := "routing_parameters",
        shape := .records routingParameter }]
  | routingParameter =>
    [{ label := "field" }, { label := "pathTemplate", second? := "path_template" }]
  | operationInfo => [
      { label := "responseType", second? := "response_type" },
        { label := "metadataType", second? := "metadata_type" }]
  | fieldInfo => [{ label := "format" }]

/-- Whether a name belongs to a field of the record. -/
def knows (k : RecordKind) (key : String) : Bool := k.fields.any (·.answers key)

/-- No name belongs to two fields. -/
theorem fields_apart (k : RecordKind) : k.fields.Pairwise KnownField.Apart := by
  have hnames : k.fields.Pairwise fun f g => ∀ key ∈ f.names, key ∉ g.names := by cases k <;> decide
  exact hnames.imp KnownField.apart_of_names

/-- The fields in the order of their labels. -/
def ordered (k : RecordKind) : List KnownField :=
  k.fields.insertionSort fun f g => f.label ≤ g.label

theorem mem_ordered {k : RecordKind} {f : KnownField} : f ∈ k.ordered ↔ f ∈ k.fields :=
  (List.perm_insertionSort _ _).mem_iff

/-- By whichever names they go, the fields have the order of their labels. -/
theorem ordered_before (k : RecordKind) : k.ordered.Pairwise KnownField.Before := by
  have hnames : k.ordered.Pairwise fun f g => ∀ key ∈ f.names, ∀ key' ∈ g.names, key < key' := by
    cases k <;> decide +kernel
  exact hnames.imp KnownField.before_of_names

end RecordKind

/-- The record that stands under a key among the options of a declaration. -/
def extensionShape (key : String) : Shape :=
  if key = "[google.api.http]" then .record .httpRule
  else if key = "[google.api.routing]" then .record .routingRule
  else if key = "[google.longrunning.operation_info]" then .record .operationInfo
  else if key = "[google.api.field_info]" then .record .fieldInfo
  else .leaf

/-! ### Changes of the way of writing -/

/-- A member of a record that belongs to a field, before and after a change. -/
structure Change where
  field : KnownField
  key : String
  key' : String
  value : Json
  value' : Json

namespace Change

/-- The member before the change. -/
def old (c : Change) : String × Json := (c.key, c.value)

/-- The member after the change. -/
def new (c : Change) : String × Json := (c.key', c.value')

/-- The field is one of some fields and goes by both names. -/
structure IsFor (c : Change) (fields : List KnownField) : Prop where
  mem : c.field ∈ fields
  old : c.field.answers c.key = true
  new : c.field.answers c.key' = true

end Change

/-- The same value, with some of its records written in another way: fields go by another of their
    names, members stand in another order, and members that belong to no field have come in. No
    field may be there twice in such a record. Inside an extension, which is kept as it is, what
    comes in may be no deeper than there is room for: `room` is the number of containers that may
    stand inside each other from here on, and `kept` tells whether this is inside an extension. -/
inductive Respelled : (kept : Bool) → (room : Nat) → Shape → Json → Json → Prop
  | same {kept : Bool} {room : Nat} {shape : Shape} (v : Json) : Respelled kept room shape v v
  | object {kept : Bool} {room : Nat} {k : RecordKind} {changes : List Change}
      {others added members members' : List (String × Json)}
      (hfields : ∀ c ∈ changes, c.IsFor k.fields)
      (honce : (changes.map (·.field)).Nodup)
      (hvalues : ∀ c ∈ changes, Respelled kept (room - 1) c.field.shape c.value c.value')
      (hothers : ∀ m ∈ others, k.knows m.1 = false)
      (hadded : ∀ m ∈ added, k.knows m.1 = false ∧ (kept = true → m.2.height < room))
      (hold : members.Perm (changes.map Change.old ++ others))
      (hnew : members'.Perm (changes.map Change.new ++ (others ++ added))) :
      Respelled kept room (.record k) (.object members) (.object members')
  /-- A record that is written as the list of its fields. -/
  | positional {kept : Bool} {room : Nat} {k : RecordKind} {items : List (Json × Json)}
      (hitems : ∀ i ∈ items.zip k.fields, Respelled kept (room - 1) i.2.shape i.1.1 i.1.2)
      (hsurplus : ∀ i ∈ items.drop k.fields.length, i.1 = i.2) :
      Respelled kept room (.record k) (.array (items.map Prod.fst)) (.array (items.map Prod.snd))
  | records {kept : Bool} {room : Nat} {k : RecordKind} {items : List (Json × Json)}
      (hitems : ∀ i ∈ items, Respelled kept (room - 1) (.record k) i.1 i.2) :
      Respelled kept room (.records k) (.array (items.map Prod.fst)) (.array (items.map Prod.snd))
  | options {room : Nat} {entries : List (String × Json × Json)}
      (hentries : ∀ e ∈ entries, Respelled true (room - 1) (extensionShape e.1) e.2.1 e.2.2) :
      Respelled false room .options (.object (entries.map fun e => (e.1, e.2.1)))
        (.object (entries.map fun e => (e.1, e.2.2)))

end ProtoApi
