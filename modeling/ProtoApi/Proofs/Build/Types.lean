import ProtoApi.Proofs.Build.Declared
import ProtoApi.Proofs.Table

namespace ProtoApi

/-!
# What the two sweeps of registration do

The sweeps of `registerTypes` as equations, so that nothing else has to open them.

* `registerShells_eq` — the first sweep puts shells and enums into the tables one after the other,
  and `message?_registerShells`, `enum?_registerShells` say what can be looked up then;
* `FieldDecl.fault?`, `FieldDecl.built` — why a field cannot be built, which depends on its
  declaration alone, and what it is built to otherwise (`buildField_eq`);
* `DeclaredMessage.fault?`, `DeclaredMessage.built`, `DeclaredMessage.complete` — the same for the
  fields of a message up to the first one that cannot be built, and the message with its fields;
* `populate_eq` — what the second sweep does to a context at one message;
* `exists_of_mem_survivingOneofs` — a surviving oneof has members.
-/

/-! ### The first sweep -/

/-- The first sweep touches messages and enums only. -/
theorem registerShells_eq (r : Registry) (messages : List DeclaredMessage)
    (enums : List DeclaredEnum) :
    registerShells r messages enums = { r with
      messages := messages.foldl (fun t d => t.insert d.id d.shell) r.messages
      enums := enums.foldl (fun t d => t.insert d.id d.entity) r.enums } := by
  have hm : ∀ r : Registry, messages.foldl (fun r d => r.addMessage d.shell) r
      = { r with messages := messages.foldl (fun t d => t.insert d.id d.shell) r.messages } := by
    induction messages with
    | nil => intro r; rfl
    | cons d ds ih => intro r; rw [List.foldl_cons, ih]; rfl
  have he : ∀ r : Registry, enums.foldl (fun r d => r.addEnum d.entity) r
      = { r with enums := enums.foldl (fun t d => t.insert d.id d.entity) r.enums } := by
    induction enums with
    | nil => intro r; rfl
    | cons d ds ih => intro r; rw [List.foldl_cons, ih]; rfl
  rw [registerShells, hm, he]

@[simp] theorem methods_registerShells (r : Registry) (messages : List DeclaredMessage)
    (enums : List DeclaredEnum) : (registerShells r messages enums).methods = r.methods := by
  rw [registerShells_eq]

@[simp] theorem services_registerShells (r : Registry) (messages : List DeclaredMessage)
    (enums : List DeclaredEnum) : (registerShells r messages enums).services = r.services := by
  rw [registerShells_eq]

/-- The last of the messages with an id is registered, as a shell. -/
theorem message?_registerShells (r : Registry) (messages : List DeclaredMessage)
    (enums : List DeclaredEnum) (id : String) :
    (registerShells r messages enums).message? id
      = ((messages.reverse.find? (·.id = id)).map DeclaredMessage.shell).or (r.message? id) := by
  rw [registerShells_eq]
  exact Table.get?_foldl_insert DeclaredMessage.id DeclaredMessage.shell messages r.messages id

/-- The last of the enums with an id is registered. -/
theorem enum?_registerShells (r : Registry) (messages : List DeclaredMessage)
    (enums : List DeclaredEnum) (id : String) :
    (registerShells r messages enums).enum? id
      = ((enums.reverse.find? (·.id = id)).map DeclaredEnum.entity).or (r.enum? id) := by
  rw [registerShells_eq]
  exact Table.get?_foldl_insert DeclaredEnum.id DeclaredEnum.entity enums r.enums id

/-- The messages registered after the first sweep. -/
theorem contains_messages_registerShells (r : Registry) (messages : List DeclaredMessage)
    (enums : List DeclaredEnum) (id : String) :
    (registerShells r messages enums).messages.contains id
      = (messages.any (·.id = id) || r.messages.contains id) := by
  rw [registerShells_eq]
  exact Table.contains_foldl_insert DeclaredMessage.id DeclaredMessage.shell messages r.messages id

/-- The enums registered after the first sweep. -/
theorem contains_enums_registerShells (r : Registry) (messages : List DeclaredMessage)
    (enums : List DeclaredEnum) (id : String) : (registerShells r messages enums).enums.contains id
      = (enums.any (·.id = id) || r.enums.contains id) := by
  rw [registerShells_eq]
  exact Table.contains_foldl_insert DeclaredEnum.id DeclaredEnum.entity enums r.enums id

/-! ### Fields -/

/-- A declaration gives a field its kind, its type and how often it may come, and leaves the rest of
    it alone. -/
theorem Field.exists_withType (r : Registry) (f : Field) (decl : FieldDecl) :
    ∃ kind typeId repeated optional map,
      (f.withType r decl).1 = { f with kind, typeId, repeated, optional, map } := by
  simp only [Field.withType]
  cases FieldKind.ofLiteral decl.kind?
  case message =>
    by_cases h : ((decl.typeName?.bind r.message?).map (·.isMap)).getD false = true
    · exact ⟨_, _, _, _, _, congrArg Prod.fst (if_pos h)⟩
    · exact ⟨_, _, _, _, _, congrArg Prod.fst (if_neg h)⟩
  all_goals exact ⟨_, _, _, _, _, rfl⟩

@[simp] theorem Field.isOneOf_withType (r : Registry) (f : Field) (decl : FieldDecl) :
    (f.withType r decl).1.isOneOf = f.isOneOf := by
  obtain ⟨kind, typeId, repeated, optional, map, h⟩ := f.exists_withType r decl
  rw [h]

namespace FieldDecl

/-- Why a field of a message cannot be built: it belongs to a oneof that the message does not
    declare. -/
def fault? (messageId : String) (declared : Nat) (decl : FieldDecl) : Option BuildError :=
  match decl.oneofIndex? with
  | none => none
  | some index =>
    if (positionBelow? declared index).isSome then none
    else some (.invalidOneofIndex (childId messageId decl.name) index declared)

/-- What a field without a fault is built to. -/
def built (r : Registry) (messageId : String) (declared : Nat) (decl : FieldDecl) : BuiltField where
  field := ((decl.untyped messageId).withType r decl).1
  diagnostic? := ((decl.untyped messageId).withType r decl).2
  isUuid4 := isUuid4 decl.options?
  oneof? := if (decl.untyped messageId).isOneOf then decl.oneofIndex?.bind (positionBelow? declared)
      else none

end FieldDecl

/-- A field is built unless it has a fault. -/
theorem buildField_eq (r : Registry) (messageId : String) (declared : Nat) (decl : FieldDecl) :
    buildField r messageId declared decl =
      match decl.fault? messageId declared with
      | some e => .error e
      | none => .ok (decl.built r messageId declared) := by
  unfold buildField FieldDecl.fault? FieldDecl.built
  cases hi : decl.oneofIndex? with
  | none => simp
  | some index =>
    cases hp : positionBelow? declared index with
    | none => simp [hp, FieldDecl.untyped]
    | some position => simp [hp]

/-- Fields are built up to the first one with a fault. -/
theorem buildFields_eq (r : Registry) (messageId : String) (declared : Nat)
    (decls : List FieldDecl) :
    buildFields (buildField r messageId declared) decls =
      ((decls.takeWhile fun f => (f.fault? messageId declared).isNone).map
          (·.built r messageId declared),
        decls.findSome? (·.fault? messageId declared)) := by
  induction decls with
  | nil => rfl
  | cons decl rest ih =>
    rw [buildFields, buildField_eq]
    cases h : decl.fault? messageId declared with
    | some e => simp [h]
    | none => simp [h, ih]

/-- A member of a oneof is a oneof field. -/
theorem FieldDecl.isOneOf_of_oneof?_built {r : Registry} {messageId : String}
    {declared position : Nat} {decl : FieldDecl}
    (h : (decl.built r messageId declared).oneof? = some position) :
    (decl.built r messageId declared).field.isOneOf = true := by
  rw [FieldDecl.built] at h ⊢
  split at h
  · next hu => rw [Field.isOneOf_withType]; exact hu
  · exact absurd h (by simp)

/-! ### Messages -/

namespace DeclaredMessage

/-- Why a message cannot be given its fields. -/
def fault? (d : DeclaredMessage) : Option BuildError :=
  d.decl.fields.findSome? (·.fault? d.id d.decl.oneofs.length)

/-- The fields of a message up to the first one with a fault. -/
def built (r : Registry) (d : DeclaredMessage) : List BuiltField :=
  (d.decl.fields.takeWhile fun f => (f.fault? d.id d.decl.oneofs.length).isNone).map
    (·.built r d.id d.decl.oneofs.length)

/-- A message with its fields and oneofs. -/
def complete (r : Registry) (d : DeclaredMessage) (m : Message) : Message :=
  { m with
    fields := (d.built r).map (·.field)
    oneOfs := survivingOneofs d.id d.decl.oneofs (d.built r) }

/-- The diagnostics of the fields of a message. -/
def diagnostics (r : Registry) (d : DeclaredMessage) : List Diagnostic :=
  (d.built r).filterMap (·.diagnostic?)

/-- The fields of a message that hold random identifiers. -/
def uuid4Ids (r : Registry) (d : DeclaredMessage) : List String :=
  ((d.built r).filter (·.isUuid4)).map (·.field.id)

end DeclaredMessage

/-- What the second sweep does at one message. -/
theorem populate_eq (ctx : Context) (d : DeclaredMessage) :
    populate ctx d =
      ({ registry := if d.fault?.isSome then ctx.registry
           else ctx.registry.modifyMessage d.id (d.complete ctx.registry)
         diagnostics := ctx.diagnostics ++ d.diagnostics ctx.registry
         uuid4Fields := (d.uuid4Ids ctx.registry).foldl NameSet.add ctx.uuid4Fields },
           d.fault?) := by
  unfold populate
  rw [buildFields_eq]
  -- What the fields before a fault have reported stays, but the message does not get them.
  change (match d.fault? with | some e => _ | none => _) = _
  cases h : d.fault? with
  | some e => rfl
  | none => rfl

/-- A surviving oneof lists the fields of one position, of which there is at least one. -/
theorem exists_of_mem_survivingOneofs {messageId : String} {oneofs : List OneofDecl}
    {fields : List BuiltField} {o : OneOf} (h : o ∈ survivingOneofs messageId oneofs fields) :
    o.fields ≠ [] ∧ ∃ position,
      o.fields = (fields.filter (·.oneof? = some position)).map (·.field.id) := by
  rw [survivingOneofs, List.mem_filterMap] at h
  obtain ⟨⟨decl, position⟩, -, h⟩ := h
  simp only at h
  split at h
  · exact absurd h (by simp)
  · next hne =>
    rw [Option.some.injEq] at h
    subst h
    exact ⟨fun he => hne (List.isEmpty_iff.2 he), position, rfl⟩

end ProtoApi
