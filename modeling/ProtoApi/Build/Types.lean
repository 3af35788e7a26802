import ProtoApi.Annotations
import ProtoApi.Build.Context
import ProtoApi.EnumAlias
import ProtoApi.FieldType
import ProtoApi.Model.Id

namespace ProtoApi

/-!
# Registering types

The types of some files are registered in two sweeps. The first one registers every message, without
its fields, and every enum. The second one gives the messages their fields, by which time each field
can see the message that it names, wherever that is declared.

* `DeclaredMessage`, `DeclaredEnum` — a declaration together with the id under which it is
  registered;
* `FileDecl.declaredMessages`, `FileDecl.declaredEnums` — all declarations of a file, at any depth;
* `DeclaredMessage.shell`, `DeclaredEnum.entity`, `registerShells` — the first sweep;
* `buildField`, `buildFields`, `survivingOneofs`, `populate`, `populateAll` — the second sweep,
  which stops at the first field that belongs to a oneof its message does not have;
* `registerTypes` — both sweeps. What they had done stays if they stop.
-/

/-! ### Declarations with their ids -/

/-- A message declaration and the id it is registered under. -/
structure DeclaredMessage where
  id : String
  package : String
  parent? : Option String
  decl : MessageDecl

/-- An enum declaration and the id it is registered under. -/
structure DeclaredEnum where
  id : String
  package : String
  parent? : Option String
  decl : EnumDecl

/-- Some enums of one parent. -/
def declareEnums (package : String) (parent? : Option String) (enums : List EnumDecl) :
    List DeclaredEnum :=
  enums.map fun decl => ⟨declaredId package parent? decl.name, package, parent?, decl⟩

mutual

/-- A message, followed by the messages inside it. -/
def MessageDecl.declaredMessages (package : String) (parent? : Option String) :
    MessageDecl → List DeclaredMessage
  | ⟨name?, fields, nested, enums, oneofs, options?⟩ =>
    let id := declaredId package parent? (name?.getD "")
    ⟨id, package, parent?, ⟨name?, fields, nested, enums, oneofs, options?⟩⟩
      :: declaredMessagesOf package (some id) nested

/-- Messages of one parent, each followed by the messages inside it. -/
def declaredMessagesOf (package : String) (parent? : Option String) :
    List MessageDecl → List DeclaredMessage
  | [] => []
  | m :: rest => m.declaredMessages package parent? ++ declaredMessagesOf package parent? rest

end

mutual

/-- The enums inside a message, those of the messages inside it first. -/
def MessageDecl.declaredEnums (package : String) (parent? : Option String) :
    MessageDecl → List DeclaredEnum
  | ⟨name?, _, nested, enums, _, _⟩ =>
    let id := declaredId package parent? (name?.getD "")
    declaredEnumsOf package (some id) nested ++ declareEnums package (some id) enums

/-- The enums inside messages of one parent. -/
def declaredEnumsOf (package : String) (parent? : Option String) :
    List MessageDecl → List DeclaredEnum
  | [] => []
  | m :: rest => m.declaredEnums package parent? ++ declaredEnumsOf package parent? rest

end

namespace FileDecl

/-- The messages of a file, at any depth, each before those inside it. -/
def declaredMessages (f : FileDecl) : List DeclaredMessage :=
  declaredMessagesOf f.package none f.messages

/-- The enums of a file, at any depth. -/
def declaredEnums (f : FileDecl) : List DeclaredEnum :=
  declaredEnumsOf f.package none f.messages ++ declareEnums f.package none f.enums

end FileDecl

/-! ### The first sweep -/

/-- A message without its fields. -/
def DeclaredMessage.shell (d : DeclaredMessage) : Message where
  id := d.id
  name := d.decl.name
  package := d.package
  parent := d.parent?
  deprecated := isDeprecated d.decl.options?
  isMap := d.decl.isMapEntry
  messages := d.decl.nested.map fun n => childId d.id n.name
  enums := d.decl.enums.map fun e => childId d.id e.name

/-- An enum, with one canonical value for each number. -/
def DeclaredEnum.entity (d : DeclaredEnum) : EnumType :=
  let values := d.decl.values.map fun v => {
    name := v.name
    number := v.number
    parent := d.id
    deprecated := isDeprecated v.options? : EnumValue }
  { id := d.id
    name := d.decl.name
    package := d.package
    parent := d.parent?
    deprecated := isDeprecated d.decl.options?
    values
    uniqueNumberValues := uniqueNumberValues values }

/-- Registers messages without their fields, and enums. -/
def registerShells (r : Registry) (messages : List DeclaredMessage) (enums : List DeclaredEnum) :
    Registry :=
  enums.foldl (fun r d => r.addEnum d.entity) (messages.foldl (fun r d => r.addMessage d.shell) r)

/-! ### The second sweep -/

/-- What a field declaration makes. -/
structure BuiltField where
  field : Field
  diagnostic? : Option Diagnostic
  isUuid4 : Bool
  /-- The position of the oneof that the field is a member of. -/
  oneof? : Option Nat

/-- A position in a list of a given length. -/
def positionBelow? (length : Nat) (n : Int32) : Option Nat :=
  if 0 ≤ n.toInt ∧ n.toInt < length then some n.toInt.toNat else none

/-- A field as it is declared, but for its type. -/
def FieldDecl.untyped (decl : FieldDecl) (messageId : String) : Field where
  id := childId messageId decl.name
  name := decl.name
  jsonName := decl.jsonName?.getD (jsonName decl.name)
  repeated := decl.isRepeated
  optional := decl.isProto3Optional
  isOneOf := decl.oneofIndex?.isSome && !decl.isProto3Optional
  behavior := fieldBehavior decl.options?
  deprecated := isDeprecated decl.options?

/-- Builds a field of a message that declares some number of oneofs. A field that is merely optional
    belongs to a oneof of its own, which is not kept, but that one too has to be declared. -/
def buildField (r : Registry) (messageId : String) (declared : Nat) (decl : FieldDecl) :
    Except BuildError BuiltField :=
  let untyped := decl.untyped messageId
  let (field, diagnostic?) := untyped.withType r decl
  let isUuid4 := isUuid4 decl.options?
  match decl.oneofIndex? with
  | none => .ok { field, diagnostic?, isUuid4, oneof? := none }
  | some index =>
    match positionBelow? declared index with
    | none => .error (.invalidOneofIndex untyped.id index declared)
    | some position => .ok { field, diagnostic?, isUuid4,
                             oneof? := if untyped.isOneOf then some position else none }

/-- Builds fields up to the first one that cannot be built. -/
def buildFields (build : FieldDecl → Except BuildError BuiltField) :
    List FieldDecl → List BuiltField × Option BuildError
  | [] => ([], none)
  | decl :: rest =>
    match build decl with
    | .error e => ([], some e)
    | .ok built =>
      let (others, error?) := buildFields build rest
      (built :: others, error?)

/-- The oneofs that have members, each with its members in the order of the fields. -/
def survivingOneofs (messageId : String) (oneofs : List OneofDecl) (fields : List BuiltField) :
    List OneOf :=
  oneofs.zipIdx.filterMap fun (decl, position) =>
    let members := (fields.filter (·.oneof? = some position)).map (·.field.id)
    if members.isEmpty then none
    else some { id := childId messageId decl.name, name := decl.name, fields := members }

/-- Gives a registered message its fields and oneofs. -/
def populate (ctx : Context) (d : DeclaredMessage) : Context × Option BuildError :=
  let (built, error?) :=
    buildFields (buildField ctx.registry d.id d.decl.oneofs.length) d.decl.fields
  let seen := {
    ctx with
    diagnostics := ctx.diagnostics ++ built.filterMap (·.diagnostic?)
    uuid4Fields := ((built.filter (·.isUuid4)).map (·.field.id)).foldl NameSet.add ctx.uuid4Fields }
  match error? with
  | some e => (seen, some e)
  | none =>
    let oneOfs := survivingOneofs d.id d.decl.oneofs built
    let fields := built.map (·.field)
    (seen.mapRegistry (·.modifyMessage d.id fun m => { m with fields, oneOfs }), none)

/-- Gives messages their fields, up to the first one that cannot be built. -/
def populateAll (ctx : Context) : List DeclaredMessage → Context × Option BuildError
  | [] => (ctx, none)
  | d :: rest =>
    match populate ctx d with
    | (ctx, some e) => (ctx, some e)
    | (ctx, none) => populateAll ctx rest

/-! ### Both sweeps -/

/-- Registers every message and enum of some files. Of several declarations with one id the last one
    stays. -/
def registerTypes (ctx : Context) (files : List FileDecl) : Context × Option BuildError :=
  let messages := files.flatMap FileDecl.declaredMessages
  let enums := files.flatMap FileDecl.declaredEnums
  populateAll (ctx.mapRegistry (registerShells · messages enums)) messages

end ProtoApi
