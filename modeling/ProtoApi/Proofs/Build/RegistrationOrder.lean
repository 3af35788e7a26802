import ProtoApi.Proofs.Build.Agreement
import ProtoApi.Proofs.Build.Types

namespace ProtoApi

/-!
# Registration in any order of the files

* `Registry.MapsAlike` — registries that tell the same entries of maps. Nothing else is looked up
  while a message gets its fields, and giving it fields does not change it, so that every message of
  a call sees the same as the first one;
* `populateAll_snd`, `populateAll_of_faultless` — the second sweep stops if some message has a
  fault, and otherwise gives each message the fields that it has by itself;
* `registerTypes_agree` — messages and enums that have different ids may be registered in any order.
-/

/-! ### What a message sees of the others -/

namespace Registry

/-- Whether an id names the entry of a map. -/
def isMapEntry (r : Registry) (id : String) : Bool := ((r.message? id).map (·.isMap)).getD false

/-- Registries that tell the same entries of maps. -/
def MapsAlike (r s : Registry) : Prop := ∀ id, r.isMapEntry id = s.isMapEntry id

theorem MapsAlike.refl (r : Registry) : r.MapsAlike r := fun _ => rfl

/-- A message stays the entry of a map while it gets its fields. -/
theorem MapsAlike.modifyMessage {r s : Registry} (h : r.MapsAlike s) (d : DeclaredMessage) :
    r.MapsAlike (s.modifyMessage d.id (d.complete r)) := by
  intro id
  rw [h id]
  unfold isMapEntry message? Registry.modifyMessage
  rw [Table.get?_modify]
  -- Fields and oneofs are given, and the mark of an entry stays as it is.
  split
  · rw [Option.map_map]
    rfl
  · rfl

end Registry

section Alike

variable {r s : Registry} (h : r.MapsAlike s)
include h

/-- The type of a field depends on the entries of maps. -/
theorem Field.withType_congr (f : Field) (decl : FieldDecl) :
    f.withType r decl = f.withType s decl := by
  have hmap : ((decl.typeName?.bind r.message?).map (·.isMap)).getD false
      = ((decl.typeName?.bind s.message?).map (·.isMap)).getD false := by
    cases decl.typeName? with
    | none => rfl
    | some id => exact h id
  unfold Field.withType
  rw [hmap]

/-- Of the registry a field depends on which types are map entries only, and so does all that is
    built of it. -/
theorem DeclaredMessage.built_congr (d : DeclaredMessage) : d.built r = d.built s := by
  unfold DeclaredMessage.built FieldDecl.built
  simp only [Field.withType_congr h]

/-- So a message is given the same fields and oneofs. -/
theorem DeclaredMessage.complete_congr (d : DeclaredMessage) : d.complete r = d.complete s := by
  unfold DeclaredMessage.complete
  rw [d.built_congr h]

/-- The same fields are reported. -/
theorem DeclaredMessage.diagnostics_congr (d : DeclaredMessage) :
    d.diagnostics r = d.diagnostics s := by
  unfold DeclaredMessage.diagnostics
  rw [d.built_congr h]

/-- The same fields are recorded as random. -/
theorem DeclaredMessage.uuid4Ids_congr (d : DeclaredMessage) : d.uuid4Ids r = d.uuid4Ids s := by
  unfold DeclaredMessage.uuid4Ids
  rw [d.built_congr h]

end Alike

/-! ### The second sweep as a whole -/

/-- The second sweep stops at the first message with a fault. -/
theorem populateAll_snd (ctx : Context) (ds : List DeclaredMessage) :
    (populateAll ctx ds).2 = ds.findSome? DeclaredMessage.fault? := by
  induction ds generalizing ctx with
  | nil => rfl
  | cons d rest ih =>
    unfold populateAll
    rw [populate_eq, List.findSome?_cons]
    cases d.fault? with
    | some e => rfl
    | none => exact ih _

/-- Messages with the fields that they have where the entries of maps are those of `r`. -/
def Context.populated (ctx : Context) (r : Registry) (ds : List DeclaredMessage) : Context where
  registry := { ctx.registry with
    messages := ds.foldl (fun t d => t.modify d.id (d.complete r)) ctx.registry.messages }
  diagnostics := ctx.diagnostics ++ ds.flatMap (·.diagnostics r)
  uuid4Fields := (ds.flatMap (·.uuid4Ids r)).foldl NameSet.add ctx.uuid4Fields

/-- Without a fault every message gets its fields. -/
theorem populateAll_of_faultless {r : Registry} {ctx : Context} (hr : r.MapsAlike ctx.registry)
    {ds : List DeclaredMessage} (hd : ds.findSome? DeclaredMessage.fault? = none) :
    (populateAll ctx ds).1 = ctx.populated r ds := by
  induction ds generalizing ctx with
  | nil =>
    unfold Context.populated
    rw [List.flatMap_nil, List.append_nil]
    rfl
  | cons d rest ih =>
    obtain ⟨hd, hrest⟩ : d.fault? = none ∧ rest.findSome? DeclaredMessage.fault? = none := by
      rw [List.findSome?_cons] at hd
      cases hf : d.fault? with
      | some e =>
        rw [hf] at hd
        nomatch hd
      | none =>
        rw [hf] at hd
        exact ⟨rfl, hd⟩
    unfold populateAll
    rw [populate_eq, hd]
    simp only
    -- What the later messages see is still what `r` tells.
    rw [ih ?_ hrest]
    · unfold Context.populated
      rw [← d.complete_congr hr, ← d.diagnostics_congr hr, ← d.uuid4Ids_congr hr, List.flatMap_cons,
        List.flatMap_cons, List.append_assoc, List.foldl_append]
      rfl
    · show r.MapsAlike (ctx.registry.modifyMessage d.id (d.complete ctx.registry))
      rw [← d.complete_congr hr]
      exact hr.modifyMessage d

/-! ### Both sweeps -/

/-- Of entities with different ids, it does not matter which one is registered first. -/
theorem registerShells_perm (r : Registry) {messages messages' : List DeclaredMessage}
    {enums enums' : List DeclaredEnum} (hm : messages.Perm messages') (he : enums.Perm enums')
    (hmn : (messages.map (·.id)).Nodup) (hen : (enums.map (·.id)).Nodup) :
    registerShells r messages enums = registerShells r messages' enums' := by
  rw [registerShells_eq, registerShells_eq, Table.foldl_insert_perm hm hmn,
    Table.foldl_insert_perm he hen]

/-- Messages with different ids get the same fields in any order. -/
theorem populated_agree (ctx : Context) (r : Registry) {ds ds' : List DeclaredMessage}
    (hp : ds.Perm ds') (hn : (ds.map (·.id)).Nodup) :
    (ctx.populated r ds).Agree (ctx.populated r ds') where
  registry := by
    unfold Context.populated
    rw [Table.foldl_modify_perm hp hn]
  diagnostics := (hp.flatMap_right _).append_left _
  uuid4Fields := NameSet.foldl_add_perm (hp.flatMap_right _) _

/-- Some message of a list has a fault, whatever the order of the list. -/
theorem findSome?_isSome_perm {α β : Type} {f : α → Option β} {l l' : List α} (hp : l.Perm l') :
    (l.findSome? f).isSome = (l'.findSome? f).isSome := by
  rw [Bool.eq_iff_iff, List.findSome?_isSome_iff, List.findSome?_isSome_iff]
  constructor
  · rintro ⟨a, ha, h⟩
    exact ⟨a, hp.mem_iff.1 ha, h⟩
  · rintro ⟨a, ha, h⟩
    exact ⟨a, hp.mem_iff.2 ha, h⟩

/-- Files whose messages and enums have different ids may be registered in any order. -/
theorem registerTypes_agree (ctx : Context) {files files' : List FileDecl} (hp : files.Perm files')
    (hm : ((files.flatMap FileDecl.declaredMessages).map (·.id)).Nodup)
    (he : ((files.flatMap FileDecl.declaredEnums).map (·.id)).Nodup) :
    (registerTypes ctx files).2.isSome = (registerTypes ctx files').2.isSome ∧
      ((registerTypes ctx files).2 = none →
        (registerTypes ctx files).1.Agree (registerTypes ctx files').1) := by
  have hmessages := hp.flatMap_right FileDecl.declaredMessages
  have henums := hp.flatMap_right FileDecl.declaredEnums
  have hshells := registerShells_perm ctx.registry hmessages henums hm he
  unfold registerTypes
  simp only [populateAll_snd]
  refine ⟨findSome?_isSome_perm hmessages, fun hnone => ?_⟩
  -- Which fault comes first depends on the order, but not whether there is one.
  have hnone' : (files'.flatMap FileDecl.declaredMessages).findSome? DeclaredMessage.fault?
      = none := by
    rw [← Option.isNone_iff_eq_none, ← Option.not_isSome, ← findSome?_isSome_perm hmessages, hnone]
    rfl
  rw [populateAll_of_faultless (.refl _) hnone, populateAll_of_faultless (.refl _) hnone']
  simp only [Context.mapRegistry, hshells]
  exact populated_agree _ _ hmessages hm

end ProtoApi
