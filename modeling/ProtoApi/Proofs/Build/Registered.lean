import ProtoApi.Proofs.Build.RegistrationOrder
import Mathlib.Data.List.TakeWhile

namespace ProtoApi

/-!
# What is registered in the end

Where registration succeeds, each message stands in the registry with the fields of its last
declaration.

* `registerTypes_of_faultless` — both sweeps as one change of the context;
* `message?_registerTypes`, `enum?_registerTypes` — the types that are registered under the ids of
  the declarations, and `message?_registerTypes_of_nodup`, `enum?_registerTypes_of_nodup` for ids
  that are declared once;
* `contains_messages_registerTypes`, `contains_enums_registerTypes` — which ids are registered;
* `names_fields_complete`, `names_oneOfs_complete` — a message has the fields that it declares, and
  some of the oneofs.
-/

/-! ### The last declaration -/

/-- A message that gets its fields twice has the later ones. -/
theorem DeclaredMessage.complete_complete (r : Registry) (d d' : DeclaredMessage) (m : Message) :
    d'.complete r (d.complete r m) = d'.complete r m := rfl

/-- A message has the fields of its last declaration, if there is any. -/
theorem get?_foldl_complete (r : Registry) (ds : List DeclaredMessage) (t : Table Message)
    (id : String) :
    (ds.foldl (fun t d => t.modify d.id (d.complete r)) t).get? id
      = (t.get? id).map fun m => (ds.reverse.find? (·.id = id)).elim m (·.complete r m) := by
  induction ds generalizing t with
  | nil => simp
  | cons d rest ih =>
    rw [List.foldl_cons, ih, Table.get?_modify_eq_map, Option.map_map, List.reverse_cons,
      List.find?_append]
    congr 1
    funext m
    by_cases h : id = d.id
    · -- A later declaration of the id replaces what this one has written.
      cases rest.reverse.find? (·.id = id) with
      | none => simp [h]
      | some d' => simp [h, DeclaredMessage.complete_complete]
    · have hne : d.id ≠ id := Ne.symm h
      simp [h, hne]

/-! ### Both sweeps -/

/-- A context after the first sweep. -/
def Context.withShells (ctx : Context) (files : List FileDecl) : Context :=
  ctx.mapRegistry (registerShells · (files.flatMap FileDecl.declaredMessages)
    (files.flatMap FileDecl.declaredEnums))

section Register

variable {ctx ctx' : Context} {files : List FileDecl}

/-- Registration that succeeds registers all types and then gives the messages their fields. -/
theorem registerTypes_of_faultless (h : registerTypes ctx files = (ctx', none)) :
    (files.flatMap FileDecl.declaredMessages).findSome? DeclaredMessage.fault? = none ∧
      ctx' = (ctx.withShells files).populated (ctx.withShells files).registry
        (files.flatMap FileDecl.declaredMessages) := by
  have hsweep : populateAll (ctx.withShells files) (files.flatMap FileDecl.declaredMessages)
      = (ctx', none) := h
  have hfault := congrArg Prod.snd hsweep
  rw [populateAll_snd] at hfault
  exact ⟨hfault, (congrArg Prod.fst hsweep).symm.trans (populateAll_of_faultless (.refl _) hfault)⟩

/-- No message has a fault where registration succeeds. -/
theorem fault?_eq_none (h : registerTypes ctx files = (ctx', none)) {d : DeclaredMessage}
    (hd : d ∈ files.flatMap FileDecl.declaredMessages) : d.fault? = none :=
  List.findSome?_eq_none_iff.1 (registerTypes_of_faultless h).1 d hd

/-- The last declaration of a message is the one that is registered. -/
theorem message?_registerTypes (h : registerTypes ctx files = (ctx', none)) {id : String}
    {d : DeclaredMessage}
    (hd : (files.flatMap FileDecl.declaredMessages).reverse.find? (·.id = id) = some d) :
    ctx'.registry.message? id = some (d.complete (ctx.withShells files).registry d.shell) := by
  obtain ⟨-, rfl⟩ := registerTypes_of_faultless h
  have hshell : (ctx.withShells files).registry.messages.get? id = some d.shell := by
    have hlast := message?_registerShells ctx.registry (files.flatMap FileDecl.declaredMessages)
      (files.flatMap FileDecl.declaredEnums) id
    rw [hd] at hlast
    exact hlast
  unfold Registry.message? Context.populated
  simp only
  rw [get?_foldl_complete, hshell, hd]
  rfl

/-- The last declaration of an enum is the one that is registered. -/
theorem enum?_registerTypes (h : registerTypes ctx files = (ctx', none)) {id : String}
    {e : DeclaredEnum}
    (he : (files.flatMap FileDecl.declaredEnums).reverse.find? (·.id = id) = some e) :
    ctx'.registry.enum? id = some e.entity := by
  obtain ⟨-, rfl⟩ := registerTypes_of_faultless h
  have hentity := enum?_registerShells ctx.registry (files.flatMap FileDecl.declaredMessages)
    (files.flatMap FileDecl.declaredEnums) id
  rw [he] at hentity
  exact hentity

/-- A message that is declared once is registered, with the fields of that declaration. -/
theorem message?_registerTypes_of_nodup (h : registerTypes ctx files = (ctx', none))
    (hn : ((files.flatMap FileDecl.declaredMessages).map (·.id)).Nodup) {d : DeclaredMessage}
    (hd : d ∈ files.flatMap FileDecl.declaredMessages) :
    ∃ r, ctx'.registry.message? d.id = some (d.complete r d.shell) :=
  ⟨_, message?_registerTypes h (find?_reverse_of_nodup hn hd)⟩

/-- So is an enum that is declared once. -/
theorem enum?_registerTypes_of_nodup (h : registerTypes ctx files = (ctx', none))
    (hn : ((files.flatMap FileDecl.declaredEnums).map (·.id)).Nodup) {e : DeclaredEnum}
    (he : e ∈ files.flatMap FileDecl.declaredEnums) : ctx'.registry.enum? e.id = some e.entity :=
  enum?_registerTypes h (find?_reverse_of_nodup hn he)

/-- The messages that are registered are those that are declared, and those from before. -/
theorem contains_messages_registerTypes (h : registerTypes ctx files = (ctx', none)) (id : String) :
    ctx'.registry.messages.contains id
      = ((files.flatMap FileDecl.declaredMessages).any (·.id = id)
        || ctx.registry.messages.contains id) := by
  obtain ⟨-, rfl⟩ := registerTypes_of_faultless h
  unfold Context.populated
  simp only
  rw [Table.contains_foldl_modify]
  exact contains_messages_registerShells ctx.registry _ _ id

/-- The enums that are registered are those that are declared, and those from before. -/
theorem contains_enums_registerTypes (h : registerTypes ctx files = (ctx', none)) (id : String) :
    ctx'.registry.enums.contains id
      = ((files.flatMap FileDecl.declaredEnums).any (·.id = id)
        || ctx.registry.enums.contains id) := by
  obtain ⟨-, rfl⟩ := registerTypes_of_faultless h
  exact contains_enums_registerShells ctx.registry _ _ id

/-- Registration of types adds no methods. -/
theorem methods_registerTypes (h : registerTypes ctx files = (ctx', none)) :
    ctx'.registry.methods = ctx.registry.methods := by
  obtain ⟨-, rfl⟩ := registerTypes_of_faultless h
  unfold Context.populated Context.withShells Context.mapRegistry
  simp only [registerShells_eq]

/-- Nor does it add services. -/
theorem services_registerTypes (h : registerTypes ctx files = (ctx', none)) :
    ctx'.registry.services = ctx.registry.services := by
  obtain ⟨-, rfl⟩ := registerTypes_of_faultless h
  exact services_registerShells _ _ _

/-- Diagnostics from before stay. -/
theorem diagnostics_registerTypes_kept (h : registerTypes ctx files = (ctx', none)) :
    ctx.diagnostics <+: ctx'.diagnostics := by
  obtain ⟨-, rfl⟩ := registerTypes_of_faultless h
  exact List.prefix_append _ _

end Register

/-! ### Names of fields and oneofs -/

@[simp] theorem Field.name_withType (r : Registry) (f : Field) (decl : FieldDecl) :
    (f.withType r decl).1.name = f.name := by
  obtain ⟨kind, typeId, repeated, optional, map, h⟩ := f.exists_withType r decl
  rw [h]

/-- Without a fault all fields are built. -/
theorem DeclaredMessage.built_of_faultless (d : DeclaredMessage) (r : Registry)
    (hd : d.fault? = none) :
    d.built r = d.decl.fields.map (·.built r d.id d.decl.oneofs.length) := by
  unfold built
  rw [List.takeWhile_eq_self_iff.2]
  intro f hf
  rw [Option.isNone_iff_eq_none]
  exact List.findSome?_eq_none_iff.1 hd f hf

/-- A message without a fault has the fields that it declares. -/
theorem names_fields_complete (r : Registry) {d : DeclaredMessage} (hd : d.fault? = none)
    (m : Message) : (d.complete r m).fields.map (·.name) = d.decl.fields.map (·.name) := by
  unfold DeclaredMessage.complete
  simp only [d.built_of_faultless r hd, List.map_map]
  refine List.map_congr_left fun f _ => ?_
  simp [FieldDecl.built, FieldDecl.untyped]

/-- The oneofs that survive come in the order in which they are declared. -/
theorem names_survivingOneofs (messageId : String) (oneofs : List OneofDecl)
    (fields : List BuiltField) :
    ((survivingOneofs messageId oneofs fields).map (·.name)).Sublist (oneofs.map (·.name)) := by
  unfold survivingOneofs
  generalize 0 = start
  induction oneofs generalizing start with
  | nil => exact .slnil
  | cons o rest ih =>
    rw [List.zipIdx_cons, List.filterMap_cons]
    simp only
    split
    · exact (ih (start + 1)).cons _
    · next x hx =>
      split at hx
      · nomatch hx
      · cases hx
        exact (ih (start + 1)).cons_cons _

/-- The oneofs of a message are some of those that are declared, in their order. -/
theorem names_oneOfs_complete (r : Registry) (d : DeclaredMessage) (m : Message) :
    ((d.complete r m).oneOfs.map (·.name)).Sublist (d.decl.oneofs.map (·.name)) :=
  names_survivingOneofs d.id d.decl.oneofs (d.built r)

end ProtoApi
