import ProtoApi.Build.AutoPopulation
import ProtoApi.Build.Comments
import ProtoApi.Build.Pagination
import ProtoApi.Mixin.Composition
import ProtoApi.Proofs.Build.Methods
import ProtoApi.Proofs.Build.Types
import ProtoApi.Proofs.EnumAlias
import ProtoApi.Proofs.Registry.WellFormed

namespace ProtoApi

/-!
# Every pass keeps the registry free of loose ends

* `wellFormed_registerTypes` — registration, also where it stops at a field that cannot be built.
  The shells of one call refer to each other, so that they are looked at together; after that the
  fields come message by message;
* `wellFormed_processService`, `wellFormed_compose` — methods are only built where their types are
  registered, and services list only methods that are registered with them;
* `wellFormed_attachComments`, `wellFormed_markPageable`, `wellFormed_markAutoPopulated` —
  annotations leave ids and links alone;
* `Pass`, `Pass.run` — a pass with its arguments, and `wellFormed_of_passes` — any passes in any
  order.
-/

/-- Steps that keep a registry without loose ends keep it so one after the other. -/
theorem wellFormed_foldl {α : Type} {l : List α} {f : Context → α → Context} {ctx : Context}
    (h : ctx.registry.WellFormed)
    (hstep : ∀ ctx : Context, ctx.registry.WellFormed → ∀ a ∈ l, (f ctx a).registry.WellFormed) :
    (l.foldl f ctx).registry.WellFormed :=
  List.foldlRecOn (motive := fun ctx : Context => ctx.registry.WellFormed) l f h hstep

/-! ### Registration -/

section Shells

variable (r : Registry) (files : List FileDecl)

/-- The first sweep over some files. -/
def Registry.withShells : Registry :=
  registerShells r (files.flatMap FileDecl.declaredMessages) (files.flatMap FileDecl.declaredEnums)

/-- The first sweep unregisters nothing. -/
theorem extends_withShells : r.Extends (r.withShells files) where
  messages id h := by rw [Registry.withShells, contains_messages_registerShells, h, Bool.or_true]
  enums id h := by rw [Registry.withShells, contains_enums_registerShells, h, Bool.or_true]
  methods id h := by rwa [Registry.withShells, methods_registerShells]

variable {r files}

/-- Every message of the files is registered. -/
theorem contains_messages_withShells {d : DeclaredMessage}
    (hd : d ∈ files.flatMap FileDecl.declaredMessages) :
    (r.withShells files).messages.contains d.id := by
  rw [Registry.withShells, contains_messages_registerShells, Bool.or_eq_true, List.any_eq_true]
  exact Or.inl ⟨d, hd, decide_eq_true rfl⟩

/-- Every enum of the files is registered. -/
theorem contains_enums_withShells {e : DeclaredEnum}
    (he : e ∈ files.flatMap FileDecl.declaredEnums) : (r.withShells files).enums.contains e.id := by
  rw [Registry.withShells, contains_enums_registerShells, Bool.or_eq_true, List.any_eq_true]
  exact Or.inl ⟨e, he, decide_eq_true rfl⟩

/-- A shell refers to shells of the same files. -/
theorem wellFormed_shell {d : DeclaredMessage} (hd : d ∈ files.flatMap FileDecl.declaredMessages) :
    d.shell.WellFormed (r.withShells files) where
  messages id h := by
    obtain ⟨n, hn, rfl⟩ := List.mem_map.1 h
    exact contains_messages_withShells (inner_mem_declaredMessages hd hn)
  enums id h := by
    obtain ⟨e, he, rfl⟩ := List.mem_map.1 h
    exact contains_enums_withShells (innerEnum_mem_declaredEnums hd he)
  parent id h := by
    obtain ⟨c, hc, rfl⟩ := exists_parent_of_mem_declaredMessages hd h
    exact contains_messages_withShells hc
  -- A shell has no oneofs yet.
  oneOfs o h := by simp [DeclaredMessage.shell] at h

/-- An enum refers to a shell of the same files. -/
theorem wellFormed_entity {e : DeclaredEnum} (he : e ∈ files.flatMap FileDecl.declaredEnums) :
    e.entity.WellFormed (r.withShells files) where
  parent id h := by
    obtain ⟨c, hc, rfl⟩ := exists_parent_of_mem_declaredEnums he h
    exact contains_messages_withShells hc
  uniqueNumberValues i h := lt_length_of_mem_uniqueNumberValues h

/-- What stands under an id after the first sweep has that id. -/
theorem keyed_withShells (h : r.Keyed) : (r.withShells files).Keyed := by
  rw [Registry.withShells, registerShells]
  refine List.foldlRecOn _ _ (List.foldlRecOn _ _ h ?_) ?_
  · intro s hs d _
    exact Registry.keyed_addMessage hs d.shell
  · intro s hs e _
    exact Registry.keyed_addEnum hs e.entity

/-- After the first sweep nothing is loose, although no message has its fields yet. -/
theorem wellFormed_withShells (h : r.WellFormed) : (r.withShells files).WellFormed where
  keyed := keyed_withShells h.keyed
  services id s hs := by
    rw [Registry.service?, Registry.withShells, services_registerShells] at hs
    exact (h.services id s hs).mono (extends_withShells r files)
  methods id m hm := by
    rw [Registry.method?, Registry.withShells, methods_registerShells] at hm
    exact (h.methods id m hm).mono (extends_withShells r files)
  messages id m hm := by
    rw [Registry.withShells, message?_registerShells, Option.or_eq_some_iff] at hm
    -- The message is a shell of these files, or it was there before and none of them has its id.
    rcases hm with hm | ⟨-, hm⟩
    · obtain ⟨d, hd, rfl⟩ := Option.map_eq_some_iff.1 hm
      exact wellFormed_shell (List.mem_reverse.1 (List.mem_of_find?_eq_some hd))
    · exact (h.messages id m hm).mono (extends_withShells r files)
  enums id e he := by
    rw [Registry.withShells, enum?_registerShells, Option.or_eq_some_iff] at he
    rcases he with he | ⟨-, he⟩
    · obtain ⟨d, hd, rfl⟩ := Option.map_eq_some_iff.1 he
      exact wellFormed_entity (List.mem_reverse.1 (List.mem_of_find?_eq_some hd))
    · exact (h.enums id e he).mono (extends_withShells r files)

end Shells

/-- The oneofs that a message is given are made of the fields that it is given. -/
theorem groups_complete {r : Registry} {d : DeclaredMessage} {m : Message} {o : OneOf}
    (ho : o ∈ (d.complete r m).oneOfs) : (d.complete r m).Groups o := by
  obtain ⟨hne, position, hfields⟩ := exists_of_mem_survivingOneofs ho
  refine ⟨hne, fun id hid => ?_⟩
  rw [hfields, List.mem_map] at hid
  obtain ⟨b, hb, rfl⟩ := hid
  rw [List.mem_filter, decide_eq_true_eq] at hb
  -- The field that was built from the member has its id and is marked as part of a oneof.
  refine ⟨b.field, List.mem_map.2 ⟨b, hb.1, rfl⟩, rfl, ?_⟩
  obtain ⟨decl, -, rfl⟩ := List.mem_map.1 hb.1
  exact FieldDecl.isOneOf_of_oneof?_built hb.2

/-- Giving a message its fields adds no link but those of its oneofs, made of these fields. -/
theorem wellFormed_populate {ctx : Context} (h : ctx.registry.WellFormed) (d : DeclaredMessage) :
    (populate ctx d).1.registry.WellFormed := by
  rw [populate_eq]
  show (if d.fault?.isSome then _ else _ : Registry).WellFormed
  split
  -- A message that cannot be built stays a shell.
  · exact h
  · refine Registry.wellFormed_modifyMessage h d.id (fun m => rfl) fun m hm => ?_
    exact ⟨hm.messages, hm.enums, hm.parent, fun _ => groups_complete⟩

/-- This carries through the second sweep, also to where it stops. -/
theorem wellFormed_populateAll {ctx : Context} (h : ctx.registry.WellFormed)
    (ds : List DeclaredMessage) : (populateAll ctx ds).1.registry.WellFormed := by
  induction ds generalizing ctx with
  | nil => exact h
  | cons d rest ih =>
    have hd := wellFormed_populate h d
    rw [populateAll]
    split
    · next hp => rwa [hp] at hd
    · next hp =>
      rw [hp] at hd
      exact ih hd

/-- Registration keeps the registry free of loose ends, whether or not it ends with an error. -/
theorem wellFormed_registerTypes {ctx : Context} (h : ctx.registry.WellFormed)
    (files : List FileDecl) : (registerTypes ctx files).1.registry.WellFormed :=
  wellFormed_populateAll (wellFormed_withShells h) _

/-! ### Services and mixins -/

/-- A method is built only where its types are registered. -/
theorem wellFormed_of_buildMethod {r : Registry} {decl : MethodDecl} {id package : String}
    {rule? : Option HttpRule} {m : Method} (h : buildMethod r decl id package rule? = .ok m) :
    m.WellFormed r := by
  obtain ⟨-, input, -, -, -, hinput, hout, -, -, rfl⟩ := buildMethod_eq_ok_iff.1 h
  exact ⟨Table.contains_eq_true_iff.2 ⟨input, hinput⟩, hout⟩

theorem id_of_buildMethod {r : Registry} {decl : MethodDecl} {id package : String}
    {rule? : Option HttpRule} {m : Method} (h : buildMethod r decl id package rule? = .ok m) :
    m.id = id := by
  obtain ⟨-, -, -, -, -, -, -, -, -, rfl⟩ := buildMethod_eq_ok_iff.1 h
  rfl

/-- The methods of a service are registered one by one, and those that are listed are there in the
    end. -/
theorem wellFormed_addMethods (config? : Option ServiceConfig) (package serviceId : String)
    {ctx : Context} (h : ctx.registry.WellFormed) (decls : List MethodDecl) :
    (addMethods config? package serviceId ctx decls).1.registry.WellFormed ∧
      ctx.registry.Extends (addMethods config? package serviceId ctx decls).1.registry ∧
      ∀ id ∈ (addMethods config? package serviceId ctx decls).2,
        (addMethods config? package serviceId ctx decls).1.registry.methods.contains id := by
  induction decls generalizing ctx with
  | nil => exact ⟨h, .refl _, by simp [addMethods]⟩
  | cons decl rest ih =>
    rw [addMethods]
    split
    · next method hb =>
      have hm := wellFormed_of_buildMethod hb
      have hid := id_of_buildMethod hb
      set built : Method :=
        { method with
          hostOverride :=
            hostOverride? config? (selectorOf (childId serviceId decl.name)) } with hbuilt
      have hadd : (ctx.mapRegistry (·.addMethod built)).registry.WellFormed :=
        Registry.wellFormed_addMethod h ⟨hm.inputType, hm.outputType⟩
      obtain ⟨hw, hext, hids⟩ := ih hadd
      -- A later method may replace this one, but its id stays registered.
      refine ⟨hw, (Registry.extends_addMethod _ built).trans hext, fun id hmem => ?_⟩
      rcases List.mem_cons.1 hmem with rfl | hmem
      · refine hext.methods _ ?_
        show (ctx.registry.methods.insert built.id built).contains _ = true
        rw [Table.contains_insert, show built.id = childId serviceId decl.name from hid,
          decide_eq_true rfl, Bool.true_or]
      · exact hids id hmem
    · next e _ =>
      -- A method that is dropped is reported, and the registry stays as it is.
      have hreport : (ctx.report (dropped (childId serviceId decl.name) e)).registry.WellFormed := h
      exact ih hreport

/-- A service lists only methods that have been registered with it. -/
theorem wellFormed_processService (config? : Option ServiceConfig) (file : FileDecl) {ctx : Context}
    (h : ctx.registry.WellFormed) (decl : ServiceDecl) :
    (processService config? file ctx decl).registry.WellFormed := by
  obtain ⟨hw, -, hids⟩ :=
    wellFormed_addMethods config? file.package (file.serviceId decl) h decl.methods
  exact Registry.wellFormed_addService hw hids

namespace Composition

variable (c : Composition)

/-- A mixin method is built like any other one. -/
theorem exists_buildMethod_of_build {r : Registry} {package id selector : String}
    {decl : MethodDecl} {m : Method} (h : (c.build r package id selector decl).1 = some m) :
    ∃ rule?, buildMethod r decl id package rule? = .ok m := by
  simp only [build] at h
  cases hrule : c.config?.bind (·.httpRule? selector) with
  | none =>
    cases hp : buildMethod r decl id package none with
    | error e => simp [hrule, hp] at h
    | ok method =>
      simp only [hrule, hp, Option.some.injEq] at h
      exact ⟨none, h ▸ hp⟩
  | some rule =>
    cases ho : buildMethod r decl id package (some rule) with
    | ok method =>
      simp only [hrule, ho, Option.some.injEq] at h
      exact ⟨some rule, h ▸ ho⟩
    | error e =>
      -- The rule cannot be used, so the method's own annotation is what is left.
      cases hp : buildMethod r decl id package none with
      | error e => simp [hrule, ho, hp] at h
      | ok method =>
        simp only [hrule, ho, hp, Option.some.injEq] at h
        exact ⟨none, h ▸ hp⟩

/-- A method is registered and listed at once. -/
theorem wellFormed_append {r : Registry} (h : r.WellFormed) (serviceId : String) {m : Method}
    (hm : m.WellFormed r) : (append r serviceId m).WellFormed := by
  -- Listing and registering touch different tables, so the method may as well be registered first.
  show ((r.addMethod m).modifyService serviceId fun s =>
    { s with methods := s.methods ++ [m.id] }).WellFormed
  refine Registry.wellFormed_modifyService (Registry.wellFormed_addMethod h hm) serviceId
    (fun s => rfl) ?_
  intro s hs id hid
  rcases List.mem_append.1 hid with hid | hid
  · exact hs id hid
  · rw [List.mem_singleton] at hid
    subst hid
    simp [Registry.addMethod]

/-- A mixin method is taken over into a service only if it could be built. -/
theorem wellFormed_takeOver (serviceId package : String) (m : Mixin) {ctx : Context}
    (h : ctx.registry.WellFormed) (decl : MethodDecl) :
    (c.takeOver serviceId package m ctx decl).registry.WellFormed := by
  simp only [takeOver]
  split
  · exact h
  · split
    · next method hb =>
      -- It was built with the configured rule or with its own annotation.
      obtain ⟨rule?, hb⟩ := c.exists_buildMethod_of_build hb
      have hm := wellFormed_of_buildMethod hb
      exact wellFormed_append h serviceId ⟨hm.inputType, hm.outputType⟩
    · exact h

/-- So it is for all methods of a mixin. -/
theorem wellFormed_takeOverAll (serviceId package : String) {ctx : Context}
    (h : ctx.registry.WellFormed) (m : Mixin) :
    (c.takeOverAll serviceId package ctx m).registry.WellFormed := by
  unfold takeOverAll
  split
  · next decl _ =>
    apply wellFormed_foldl h
    intro ctx h decl _
    exact c.wellFormed_takeOver serviceId package m h decl
  · exact h

/-- So it is for all mixins of a service. -/
theorem wellFormed_composeService {ctx : Context} (h : ctx.registry.WellFormed)
    (serviceId : String) : (c.composeService ctx serviceId).registry.WellFormed := by
  unfold composeService
  split
  · next s _ =>
    apply wellFormed_foldl h
    intro ctx h m _
    exact c.wellFormed_takeOverAll serviceId s.package h m
  · exact h

/-- Composition keeps the registry free of loose ends, for any services. -/
theorem wellFormed_compose {ctx : Context} (h : ctx.registry.WellFormed)
    (serviceIds : List String) : (c.compose ctx serviceIds).registry.WellFormed := by
  apply wellFormed_foldl h
  intro ctx h serviceId _
  exact c.wellFormed_composeService h serviceId

end Composition

/-! ### Annotations -/

/-- Changing the first element of some kind changes no element's image that the change keeps. -/
theorem map_modifyFirst {α β : Type} (p : α → Bool) {f : α → α} {g : α → β}
    (hf : ∀ a, g (f a) = g a) (l : List α) : (modifyFirst p f l).map g = l.map g := by
  induction l with
  | nil => rfl
  | cons a rest ih =>
    rw [modifyFirst]
    split
    · rw [List.map_cons, List.map_cons, hf]
    · rw [List.map_cons, List.map_cons, ih]

/-- Which oneofs a message has depends on the ids of its fields and on which of them belong to a
    oneof. -/
theorem Message.groups_congr {m n : Message} {o p : OneOf} (hfields : o.fields = p.fields)
    (h : m.fields.map (fun f => (f.id, f.isOneOf)) = n.fields.map fun f => (f.id, f.isOneOf))
    (hm : m.Groups o) : n.Groups p := by
  refine ⟨hfields ▸ hm.1, fun id hid => ?_⟩
  obtain ⟨f, hf, rfl, hone⟩ := hm.2 id (hfields ▸ hid)
  have hmem : (f.id, f.isOneOf) ∈ n.fields.map fun f => (f.id, f.isOneOf) :=
    h ▸ List.mem_map.2 ⟨f, hf, rfl⟩
  obtain ⟨f', hf', heq⟩ := List.mem_map.1 hmem
  rw [Prod.mk.injEq] at heq
  exact ⟨f', hf', heq.1, heq.2.trans hone⟩

/-- A documentation leaves ids, parents and the members of oneofs alone. -/
theorem wellFormed_attach {r : Registry} (h : r.WellFormed) (documentation : String)
    (t : DocTarget) : (t.attach r documentation).WellFormed := by
  cases t with
  | message id =>
    refine Registry.wellFormed_modifyMessage h id (fun m => rfl) fun m hm => ?_
    exact ⟨hm.messages, hm.enums, hm.parent, hm.oneOfs⟩
  -- Oneofs name their members by id, so these two cases have to look at the fields.
  | field owner name =>
    refine Registry.wellFormed_modifyMessage h owner (fun m => rfl) fun m hm => ?_
    refine ⟨hm.messages, hm.enums, hm.parent, fun o ho => ?_⟩
    refine Message.groups_congr rfl ?_ (hm.oneOfs o ho)
    symm
    apply map_modifyFirst
    intro f
    rfl
  | oneOf owner name =>
    refine Registry.wellFormed_modifyMessage h owner (fun m => rfl) fun m hm => ?_
    refine ⟨hm.messages, hm.enums, hm.parent, fun o ho => ?_⟩
    -- The oneof has the members of one that was there before.
    have hmem : o.fields ∈ m.oneOfs.map (·.fields) := by
      rw [← map_modifyFirst (fun o : OneOf => decide (o.name = name))
        (f := fun o => { o with documentation }) (g := (·.fields)) (fun o => rfl) m.oneOfs]
      exact List.mem_map.2 ⟨o, ho, rfl⟩
    obtain ⟨o', ho', hfields⟩ := List.mem_map.1 hmem
    exact Message.groups_congr hfields rfl (hm.oneOfs o' ho')
  | enum id =>
    refine Registry.wellFormed_modifyEnum h id (fun e => rfl) fun e he => ?_
    exact ⟨he.parent, he.uniqueNumberValues⟩
  | enumValue owner position =>
    refine Registry.wellFormed_modifyEnum h owner (fun e => rfl) fun e he => ?_
    refine ⟨he.parent, fun i hi => ?_⟩
    rw [List.length_modify]
    exact he.uniqueNumberValues i hi
  | service id => exact Registry.wellFormed_modifyService h id (fun s => rfl) fun s hs => hs
  | method id =>
    refine Registry.wellFormed_modifyMethod h id (fun m => rfl) fun m hm => ?_
    exact ⟨hm.inputType, hm.outputType⟩

/-- So do the comments of a file, those that lead nowhere included. -/
theorem wellFormed_attachComments {ctx : Context} (h : ctx.registry.WellFormed) (file : FileDecl) :
    (attachComments ctx file).registry.WellFormed := by
  apply wellFormed_foldl h
  intro ctx h location _
  unfold attachComment
  split
  · exact h
  · split
    · exact h
    · split
      · next t _ => exact wellFormed_attach h _ t
      · exact h
      · exact h

/-- The marks of list methods and of their responses are no links. -/
theorem wellFormed_markPageable {r : Registry} (h : r.WellFormed) : r.markPageable.WellFormed := by
  refine List.foldlRecOn (motive := Registry.WellFormed) _ _ h ?_
  intro r h p _
  -- The method is marked first, and then the message that it answers with.
  refine Registry.wellFormed_modifyMessage ?_ p.output (fun m => rfl) fun m hm => ?_
  · refine Registry.wellFormed_modifyMethod h p.method (fun m => rfl) fun m hm => ?_
    exact ⟨hm.inputType, hm.outputType⟩
  · exact ⟨hm.messages, hm.enums, hm.parent, hm.oneOfs⟩

/-- The settings of one method mark fields in one message, where the fields stay in place. -/
theorem wellFormed_populateListed {r : Registry} (h : r.WellFormed) (uuid4Fields : NameSet)
    (settings : MethodSettings) : (r.populateListed uuid4Fields settings).WellFormed := by
  unfold Registry.populateListed
  split
  · exact h
  · refine Registry.wellFormed_modifyMessage h _ (fun m => rfl) fun m hm => ?_
    refine ⟨hm.messages, hm.enums, hm.parent, fun o ho => ?_⟩
    refine Message.groups_congr rfl ?_ (hm.oneOfs o ho)
    rw [List.map_map]
    -- A listed field is marked, and neither its id nor its oneof is touched.
    refine List.map_congr_left fun f _ => ?_
    show _ = (fun f : Field => (f.id, f.isOneOf)) (if _ then _ else _)
    split <;> rfl

/-- So do the settings of a service configuration, one after the other. -/
theorem wellFormed_markAutoPopulated {r : Registry} (h : r.WellFormed)
    (config? : Option ServiceConfig) (uuid4Fields : NameSet) :
    (r.markAutoPopulated config? uuid4Fields).WellFormed := by
  refine List.foldlRecOn (motive := Registry.WellFormed) _ _ h ?_
  intro r h settings _
  exact wellFormed_populateListed h uuid4Fields settings

/-! ### Passes -/

/-- A pass over a context, with all that it is given besides. -/
inductive Pass where
  | registerTypes (files : List FileDecl)
  | processService (config? : Option ServiceConfig) (file : FileDecl) (decl : ServiceDecl)
  | compose (composition : Composition) (serviceIds : List String)
  | attachComments (file : FileDecl)
  | markPageable
  | markAutoPopulated (config? : Option ServiceConfig) (uuid4Fields : NameSet)

/-- What a pass leaves behind, whether or not it ends with an error. -/
def Pass.run (ctx : Context) : Pass → Context
  | registerTypes files => (ProtoApi.registerTypes ctx files).1
  | processService config? file decl => ProtoApi.processService config? file ctx decl
  | compose composition serviceIds => composition.compose ctx serviceIds
  | attachComments file => ProtoApi.attachComments ctx file
  | markPageable => ctx.mapRegistry Registry.markPageable
  | markAutoPopulated config? uuid4Fields =>
    ctx.mapRegistry (·.markAutoPopulated config? uuid4Fields)

/-- Every pass keeps a registry without loose ends, whatever it is given. -/
theorem Pass.wellFormed_run {ctx : Context} (h : ctx.registry.WellFormed) (p : Pass) :
    (p.run ctx).registry.WellFormed := by
  cases p with
  | registerTypes files => exact wellFormed_registerTypes h files
  | processService config? file decl => exact wellFormed_processService config? file h decl
  | compose composition serviceIds => exact composition.wellFormed_compose h serviceIds
  | attachComments file => exact wellFormed_attachComments h file
  | markPageable => exact wellFormed_markPageable h
  | markAutoPopulated config? uuid4Fields =>
    exact wellFormed_markAutoPopulated h config? uuid4Fields

/-- Whatever passes have been run, in whatever order, every entity stands under its own id, a
    look-up finds an entity of the id it asks for, and all that entities refer to is registered. -/
theorem wellFormed_of_passes (passes : List Pass) :
    (passes.foldl Pass.run {}).registry.WellFormed ∧
      ∀ id s, (passes.foldl Pass.run {}).registry.lookup? id = some s → s.id = id := by
  have h : (passes.foldl Pass.run {}).registry.WellFormed := by
    apply wellFormed_foldl Registry.wellFormed_empty
    intro ctx h p _
    exact p.wellFormed_run h
  exact ⟨h, fun id s hs => Registry.id_of_lookup? h.keyed hs⟩

end ProtoApi
