import ProtoApi.Proofs.Mixin.Growth
import Mathlib.Data.List.Induction

namespace ProtoApi

/-!
# Taking over methods turn by turn

Each service has a turn for each method that is offered, the services one after the other. A method
may be declared by several mixins, and a service may be listed several times, so that it matters
what is registered when a turn comes.

* `Turn`, `Composition.turns` — an offer to a service, and all of them in order;
* `Composition.attempt`, `Composition.made?` — the method that a turn gives, which depends on the
  types and on the package of the service alone;
* `Composition.IsFree`, `Composition.taken` — the turns that are taken up: those that give a method
  whose id is not registered when they come;
* `Composition.turn`, `compose_eq_foldl_turn` — composition is one turn after the other;
* `Composition.Adds`, `adds_foldl_turn` — what a registry is after some turns, by what can be looked
  up in it;
* `Composition.OnlyAdds`, `onlyAdds_compose` — composition adds the methods of the turns that are
  taken up, each once and at the end of its service, and it changes nothing else, nor anything at
  all a second time.
-/

/-! ### Turns -/

/-- An offer to a service. -/
structure Turn where
  serviceId : String
  offer : Offer

namespace Turn

/-- The id that the method has in the service. -/
def id (t : Turn) : String := childId t.serviceId t.offer.decl.name

/-- The name by which the method is selected. -/
def selector (t : Turn) : String := t.offer.selector

end Turn

namespace Composition

variable (c : Composition)

/-- All turns of some services: the services as they are listed, for each of them the mixins in the
    order of the plan, and the methods of a mixin in the order of its declaration. -/
def turns (serviceIds : List String) : List Turn :=
  serviceIds.flatMap fun id => c.offers.map (Turn.mk id)

/-- The HTTP rule that the configuration has for a selector. -/
def rule? (selector : String) : Option HttpRule := c.config?.bind (·.httpRule? selector)

variable (r : Registry)

/-- The method that a turn gives with the rule given, or else with the annotation of the
    declaration, if the service is registered and the method can be built in its package. -/
def attempt (t : Turn) (rule? : Option HttpRule) : Option Method :=
  (r.packageOf? t.serviceId).bind fun package =>
    (buildMethod r t.offer.decl t.id package rule?).toOption

/-- The method that a turn gives if it is enabled: with the rule of the configuration or, failing
    that, with the annotation of the declaration. It is called at the address that the configuration
    has for the method of the mixin. -/
def made? (t : Turn) : Option Method :=
  if c.plan.enabled.contains t.selector then
    (((c.rule? t.selector).bind fun rule => attempt r t (some rule)).or (attempt r t none)).map
      fun m =>
      { m with hostOverride := hostOverride? c.config? t.selector }
  else none

/-- Whether the id of a turn is registered neither before all turns nor by one of those that have
    been taken up. -/
def IsFree (taken : List Turn) (t : Turn) : Prop :=
  r.containsMethod t.id = false ∧ ∀ t' ∈ taken, t'.id ≠ t.id

instance (taken : List Turn) (t : Turn) : Decidable (IsFree r taken t) := by
  unfold IsFree
  infer_instance

/-- Takes a turn up if it gives a method whose id is not registered when the turn comes. -/
def takeUp (taken : List Turn) (t : Turn) : List Turn :=
  if (c.made? r t).isSome ∧ IsFree r taken t then taken ++ [t] else taken

/-- The turns that are taken up, in order. -/
def taken (turns : List Turn) : List Turn := turns.foldl (c.takeUp r) []

/-! ### Which turns are taken up -/

section Taken

variable {c r}

/-- The last turn is taken up if it gives a method whose id is free after all turns before it. -/
theorem taken_append_singleton (before : List Turn) (t : Turn) :
    c.taken r (before ++ [t])
      = if (c.made? r t).isSome ∧ IsFree r (c.taken r before) t then c.taken r before ++ [t]
        else c.taken r before := by
  unfold taken
  rw [List.foldl_append]
  rfl

/-- What is taken up gives a method, and its id is not registered before all turns. -/
theorem made?_of_mem_taken {turns : List Turn} {t : Turn} (h : t ∈ c.taken r turns) :
    (∃ m, c.made? r t = some m) ∧ r.containsMethod t.id = false := by
  induction turns using List.reverseRecOn with
  | nil => exact absurd h List.not_mem_nil
  | append_singleton before t' ih =>
    rw [taken_append_singleton] at h
    split at h
    · next hup =>
      rcases List.mem_append.1 h with h | h
      · exact ih h
      · rw [List.mem_singleton.1 h]
        exact ⟨Option.isSome_iff_exists.1 hup.1, hup.2.1⟩
    · exact ih h

variable (c r)

/-- No id is taken up twice. -/
theorem nodup_taken (turns : List Turn) : ((c.taken r turns).map Turn.id).Nodup := by
  induction turns using List.reverseRecOn with
  | nil => exact List.nodup_nil
  | append_singleton before t ih =>
    rw [taken_append_singleton]
    split
    · next hup =>
      rw [List.map_append]
      refine List.nodup_append.2 ⟨ih, List.nodup_singleton _, ?_⟩
      rintro id hid _ ht rfl
      obtain ⟨t', ht', hid⟩ := List.mem_map.1 hid
      exact hup.2.2 t' ht' (hid.trans (List.mem_singleton.1 ht))
    · exact ih

/-- Turns are taken up in the order in which they come. -/
theorem taken_sublist (turns : List Turn) : (c.taken r turns).Sublist turns := by
  induction turns using List.reverseRecOn with
  | nil => exact .slnil
  | append_singleton before t ih =>
    rw [taken_append_singleton]
    split
    · exact ih.append_right [t]
    · exact ih.trans (List.sublist_append_left before [t])

/-- What has been taken up stays so. -/
theorem taken_isPrefix {before turns : List Turn} (h : before <+: turns) :
    c.taken r before <+: c.taken r turns := by
  obtain ⟨rest, rfl⟩ := h
  induction rest using List.reverseRecOn with
  | nil => simp
  | append_singleton rest t ih =>
    rw [← List.append_assoc, taken_append_singleton]
    split
    · exact ih.trans (List.prefix_append _ _)
    · exact ih

end Taken

/-! ### What a turn gives -/

section Made

variable {c r}

/-- A method is built with the rule of the configuration or, failing that, with its own
    annotation. -/
theorem build_fst (package id selector : String) (decl : MethodDecl) :
    (c.build r package id selector decl).1
      = ((c.rule? selector).bind fun rule =>
          (buildMethod r decl id package (some rule)).toOption).or
          (buildMethod r decl id package none).toOption := by
  unfold build rule?
  cases hrule : c.config?.bind (·.httpRule? selector) with
  | none => cases buildMethod r decl id package none <;> rfl
  | some rule =>
    cases hgiven : buildMethod r decl id package (some rule) with
    | ok m => simp [hgiven, Except.toOption]
    | error e =>
      rw [Option.bind_some]
      simp only [hgiven]
      cases buildMethod r decl id package none <;> rfl

/-- What a turn gives depends on the types and on the package of the service. -/
theorem made?_congr {s : Registry} (h : r.SameTypes s) {t : Turn}
    (hp : r.packageOf? t.serviceId = s.packageOf? t.serviceId) : c.made? r t = c.made? s t := by
  unfold made? attempt
  simp only [hp, buildMethod_congr h]

/-- A turn gives what is built by one of its two attempts. -/
theorem exists_attempt_of_made? {t : Turn} {m : Method} (h : c.made? r t = some m) :
    ∃ rule? method, attempt r t rule? = some method ∧
      { method with hostOverride := hostOverride? c.config? t.selector } = m := by
  unfold made? at h
  split at h
  · obtain ⟨method, hmethod, hm⟩ := Option.map_eq_some_iff.1 h
    rcases Option.or_eq_some_iff.1 hmethod with hgiven | ⟨-, hown⟩
    · obtain ⟨rule, -, hgiven⟩ := Option.bind_eq_some_iff.1 hgiven
      exact ⟨some rule, method, hgiven, hm⟩
    · exact ⟨none, method, hown, hm⟩
  · nomatch h

/-- An attempt builds the method of the declaration, with the rule given or without one. -/
theorem exists_buildMethod_of_attempt {t : Turn} {rule? : Option HttpRule} {m : Method}
    (h : attempt r t rule? = some m) :
    ∃ package, r.packageOf? t.serviceId = some package ∧
      buildMethod r t.offer.decl t.id package rule? = .ok m := by
  obtain ⟨package, hpackage, h⟩ := Option.bind_eq_some_iff.1 h
  refine ⟨package, hpackage, ?_⟩
  cases hb : buildMethod r t.offer.decl t.id package rule? with
  | error e =>
    rw [hb] at h
    nomatch h
  | ok method =>
    rw [hb] at h
    rw [Option.some.inj h]

/-- The method of a turn has its id. -/
theorem id_of_made? {t : Turn} {m : Method} (h : c.made? r t = some m) : m.id = t.id := by
  obtain ⟨rule?, method, hmethod, rfl⟩ := exists_attempt_of_made? h
  obtain ⟨package, -, hb⟩ := exists_buildMethod_of_attempt hmethod
  have hid : method.id = t.id := id_of_buildMethod hb
  exact hid

end Made

/-! ### One turn after the other -/

/-- What a turn does to a context. -/
def turn (ctx : Context) (t : Turn) : Context :=
  match ctx.registry.packageOf? t.serviceId with
  | some package => c.takeOver t.serviceId package t.offer.mixin ctx t.offer.decl
  | none => ctx

/-- The diagnostics of a turn whose id is not registered. -/
def reports (t : Turn) : List Diagnostic :=
  match r.packageOf? t.serviceId with
  | some package =>
    if c.plan.enabled.contains t.selector then (c.build r package t.id t.selector t.offer.decl).2
      else []
  | none => []

/-- A turn whose id is registered is passed over. -/
theorem turn_eq (ctx : Context) (t : Turn) :
    c.turn ctx t =
      if ctx.registry.containsMethod t.id then ctx
      else ctx.extended t.serviceId (c.made? ctx.registry t).toList (c.reports ctx.registry t) := by
  -- A turn that makes nothing leaves even the lists of its service as they are.
  have hpassed : ctx.extended t.serviceId [] [] = ctx := by
    rw [Context.extended_nil]
    unfold Context.reportAll
    rw [List.append_nil]
  unfold turn made? reports attempt
  cases ctx.registry.packageOf? t.serviceId with
  | none =>
    simp only [Option.bind_none]
    split
    · rfl
    · split
      · simpa using hpassed.symm
      · exact hpassed.symm
  | some package =>
    simp only [Option.bind_some]
    rw [takeOver_eq, ← build_fst]
    unfold outcome Turn.selector Turn.id
    cases c.plan.enabled.contains t.offer.selector <;>
      cases ctx.registry.containsMethod (childId t.serviceId t.offer.decl.name) <;> simp [hpassed]

/-- A turn moves no service into another package. -/
theorem packageOf?_turn (ctx : Context) (t : Turn) (id : String) :
    (c.turn ctx t).registry.packageOf? id = ctx.registry.packageOf? id := by
  rw [turn_eq]
  split
  · rfl
  · exact ctx.packageOf?_extended _ _ _ id

/-- Services take their turns one after the other. -/
theorem compose_eq_foldl_turn (ctx : Context) (serviceIds : List String) :
    c.compose ctx serviceIds = (c.turns serviceIds).foldl c.turn ctx := by
  unfold compose turns
  rw [List.foldl_flatMap]
  refine List.foldl_ext _ _ ctx fun ctx id _ => ?_
  rw [composeService_eq_foldl, List.foldl_map]
  cases hs : ctx.registry.service? id with
  | none =>
    -- A service that is not registered has turns that come to nothing.
    have hpackage : ctx.registry.packageOf? id = none := by
      unfold Registry.packageOf?
      rw [hs]
      rfl
    have hturn : ∀ o, c.turn ctx ⟨id, o⟩ = ctx := fun o => by
      unfold turn
      rw [hpackage]
    exact (List.foldlRecOn (motive := (· = ctx)) c.offers _ rfl
      fun _ h o _ => by rw [h, hturn]).symm
  | some s =>
    simp only
    have hpackage := Registry.packageOf?_of_service? hs
    clear hs
    induction c.offers generalizing ctx with
    | nil => rfl
    | cons o rest ih =>
      have hturn : c.turn ctx ⟨id, o⟩ = c.takeOver id s.package o.mixin ctx o.decl := by
        unfold turn
        rw [hpackage]
      rw [List.foldl_cons, List.foldl_cons, hturn]
      refine ih _ ?_
      rw [← hturn, packageOf?_turn]
      exact hpackage

/-! ### What some turns add -/

/-- `ctx'` has what `ctx` has, and the methods of the turns that are taken up, each of them listed
    at the end of its service. -/
structure Adds (turns : List Turn) (ctx ctx' : Context) : Prop where
  types : ctx'.registry.SameTypes ctx.registry
  services : ∀ id, ctx'.registry.service? id = (ctx.registry.service? id).map fun s =>
    { s with
      methods := s.methods ++ ((c.taken ctx.registry turns).filter (·.serviceId = id)).map Turn.id }
  taken : ∀ t ∈ c.taken ctx.registry turns, ctx'.registry.method? t.id = c.made? ctx.registry t
  others : ∀ id, (∀ t ∈ c.taken ctx.registry turns, t.id ≠ id) →
    ctx'.registry.method? id = ctx.registry.method? id

section Adds

variable {c} {turns : List Turn} {ctx ctx' : Context}

/-- The services are in the packages they were in. -/
theorem Adds.packages (h : c.Adds turns ctx ctx') (id : String) :
    ctx'.registry.packageOf? id = ctx.registry.packageOf? id := by
  unfold Registry.packageOf?
  rw [h.services, Option.map_map]
  rfl

/-- What a turn gives is the same before and after other turns. -/
theorem Adds.made?_eq (h : c.Adds turns ctx ctx') (t : Turn) :
    c.made? ctx'.registry t = c.made? ctx.registry t :=
  made?_congr h.types (h.packages t.serviceId)

/-- A turn finds its id registered if it has been so before all turns, or if one of them has been
    taken up with it. -/
theorem Adds.containsMethod_eq_false_iff (h : c.Adds turns ctx ctx') (t : Turn) :
    ctx'.registry.containsMethod t.id = false ↔
      IsFree ctx.registry (c.taken ctx.registry turns) t := by
  unfold IsFree
  constructor
  · intro hfree
    have hothers : ∀ t' ∈ c.taken ctx.registry turns, t'.id ≠ t.id := by
      intro t' ht' hid
      obtain ⟨m, hm⟩ := (made?_of_mem_taken ht').1
      rw [← hid] at hfree
      refine Bool.false_ne_true (hfree.symm.trans (Table.contains_eq_true_iff.2 ⟨m, ?_⟩))
      exact (h.taken t' ht').trans hm
    exact ⟨(congrArg Option.isSome (h.others t.id hothers)).symm.trans hfree, hothers⟩
  · rintro ⟨hfree, hothers⟩
    exact (congrArg Option.isSome (h.others t.id hothers)).trans hfree

/-- Where no turn is taken up, the registry stays as it is. -/
theorem Adds.registry_eq (h : c.Adds turns ctx ctx') (hnone : c.taken ctx.registry turns = []) :
    ctx'.registry = ctx.registry := by
  have hservices : ctx'.registry.services = ctx.registry.services := by
    refine Table.ext_get? fun id => (h.services id).trans ?_
    rw [hnone]
    cases hs : ctx.registry.service? id with
    | none => exact hs.symm
    | some s =>
      -- No turn is taken up, so an empty list is appended to the methods of the service.
      show some { s with methods := s.methods ++ [] } = _
      rw [List.append_nil]
      exact hs.symm
  have hmethods : ctx'.registry.methods = ctx.registry.methods := by
    refine Table.ext_get? fun id => h.others id fun t ht => ?_
    rw [hnone] at ht
    exact absurd ht List.not_mem_nil
  have hmessages := h.types.messages
  have henums := h.types.enums
  cases hr : ctx'.registry
  cases hr' : ctx.registry
  simp_all

/-- Extending a service by one method registers that method only. -/
theorem method?_extended_singleton (ctx : Context) (serviceId : String) (m : Method)
    (ds : List Diagnostic) (id : String) :
    (ctx.extended serviceId [m] ds).registry.method? id = if id = m.id then some m
      else ctx.registry.method? id :=
  Table.get?_insert ..

/-- A turn that is taken up adds its method. -/
theorem Adds.append_taken (h : c.Adds turns ctx ctx') {t : Turn}
    (hmade : (c.made? ctx.registry t).isSome)
    (hfree : IsFree ctx.registry (c.taken ctx.registry turns) t) :
    c.Adds (turns ++ [t]) ctx (c.turn ctx' t) := by
  obtain ⟨m, hm⟩ := Option.isSome_iff_exists.1 hmade
  have hid : m.id = t.id := id_of_made? hm
  have htaken : c.taken ctx.registry (turns ++ [t]) = c.taken ctx.registry turns ++ [t] := by
    rw [taken_append_singleton, if_pos ⟨hmade, hfree⟩]
  -- The types have not changed since the start, so the turn makes what it would have made there.
  have hturn : c.turn ctx' t = ctx'.extended t.serviceId [m] (c.reports ctx'.registry t) := by
    rw [turn_eq, h.made?_eq, hm, (h.containsMethod_eq_false_iff t).2 hfree]
    rfl
  rw [hturn]
  constructor
  case types => exact (ctx'.sameTypes_extended _ _ _).trans h.types
  case services =>
    intro id
    rw [ctx'.service?_extended, h.services, Option.map_map, htaken]
    congr 1
    funext s
    by_cases hs : id = t.serviceId
    · simp [hs, Service.extended, hid]
    · simp [hs, Ne.symm hs]
  case taken =>
    intro t' ht'
    rw [method?_extended_singleton, hid]
    rw [htaken, List.mem_append, List.mem_singleton] at ht'
    -- An earlier turn has another id, and the new method leaves what is registered under it.
    rcases ht' with ht' | rfl
    · rw [if_neg (hfree.2 t' ht')]
      exact h.taken t' ht'
    · rw [if_pos rfl, hm]
  case others =>
    intro id hother
    rw [htaken, List.forall_mem_append] at hother
    rw [method?_extended_singleton, hid, if_neg (hother.2 t (List.mem_singleton.2 rfl)).symm]
    exact h.others id hother.1

/-- A turn that is not taken up is passed over, or it gives no method. -/
theorem Adds.append_passed (h : c.Adds turns ctx ctx') {t : Turn}
    (hup : ¬ ((c.made? ctx.registry t).isSome ∧
      IsFree ctx.registry (c.taken ctx.registry turns) t)) :
    c.Adds (turns ++ [t]) ctx (c.turn ctx' t) := by
  have htaken : c.taken ctx.registry (turns ++ [t]) = c.taken ctx.registry turns := by
    rw [taken_append_singleton, if_neg hup]
  -- A turn whose id is free has given no method, since it would have been taken up.
  have hturn : (c.turn ctx' t).registry = ctx'.registry := by
    rw [turn_eq]
    split
    · rfl
    · next hfree =>
      have hnone : c.made? ctx'.registry t = none := by
        rw [h.made?_eq, ← Option.not_isSome_iff_eq_none]
        refine fun hsome => hup ⟨hsome, ?_⟩
        exact (h.containsMethod_eq_false_iff t).1 (Bool.eq_false_iff.2 hfree)
      rw [hnone, Option.toList_none, Context.extended_nil]
      rfl
  constructor
  case types =>
    rw [hturn]
    exact h.types
  case services =>
    rw [hturn, htaken]
    exact h.services
  case taken =>
    rw [hturn, htaken]
    exact h.taken
  case others =>
    rw [hturn, htaken]
    exact h.others

/-- One more turn keeps what the turns so far have added, and adds its method if it is taken up.
    This is the step of the induction over turns. -/
theorem Adds.append_singleton (h : c.Adds turns ctx ctx') (t : Turn) :
    c.Adds (turns ++ [t]) ctx (c.turn ctx' t) := by
  by_cases hup : (c.made? ctx.registry t).isSome ∧
    IsFree ctx.registry (c.taken ctx.registry turns) t
  · exact h.append_taken hup.1 hup.2
  · exact h.append_passed hup

variable (c) (ctx) in
/-- What some turns add, one after the other. -/
theorem adds_foldl_turn (turns : List Turn) : c.Adds turns ctx (turns.foldl c.turn ctx) := by
  -- From the end, since each turn is judged by those that were taken up before it.
  induction turns using List.reverseRecOn with
  | nil =>
    constructor
    case types => exact .refl _
    case services =>
      intro id
      show ctx.registry.service? id = _
      cases ctx.registry.service? id with
      | none => rfl
      | some s =>
        show some s = some { s with methods := s.methods ++ [] }
        rw [List.append_nil]
    case taken => exact fun t ht => absurd ht List.not_mem_nil
    case others => exact fun id _ => rfl
  | append_singleton before t ih =>
    rw [List.foldl_append]
    exact ih.append_singleton t

end Adds

/-! ### Composition -/

/-- The id of a turn that gives a method is not free any more once all turns have been taken. -/
theorem not_isFree_of_mem {turns : List Turn} {t : Turn} (ht : t ∈ turns)
    (hmade : (c.made? r t).isSome = true) : ¬ IsFree r (c.taken r turns) t := by
  induction turns using List.reverseRecOn with
  | nil => exact absurd ht List.not_mem_nil
  | append_singleton before t' ih =>
    rw [taken_append_singleton]
    rintro ⟨hfree, hothers⟩
    -- The last turn is taken up, which takes its id, or it is not because the id was taken.
    split at hothers
    · rcases List.mem_append.1 ht with ht | ht
      · exact ih ht ⟨hfree, fun x hx => hothers x (List.mem_append_left _ hx)⟩
      · rw [List.mem_singleton.1 ht] at hothers
        exact hothers t' (List.mem_append_right _ (List.mem_singleton.2 rfl)) rfl
    · next hup =>
      rcases List.mem_append.1 ht with ht | ht
      · exact ih ht ⟨hfree, hothers⟩
      · rw [List.mem_singleton.1 ht] at hmade hfree hothers
        exact hup ⟨hmade, hfree, hothers⟩

/-- What composition makes of a context: the methods of the turns that are taken up are added, and
    nothing else changes. -/
structure OnlyAdds (serviceIds : List String) (ctx ctx' : Context) : Prop where
  messages : ctx'.registry.messages = ctx.registry.messages
  enums : ctx'.registry.enums = ctx.registry.enums
  /-- Methods that have been registered stay as they are. -/
  kept : ∀ id m, ctx.registry.method? id = some m → ctx'.registry.method? id = some m
  /-- A service lists what it takes up behind what it has listed, and stays as it is otherwise. -/
  services : ∀ id, ctx'.registry.service? id = (ctx.registry.service? id).map fun s =>
    { s with
      methods := s.methods ++
        ((c.taken ctx.registry (c.turns serviceIds)).filter (·.serviceId = id)).map Turn.id }
  /-- A turn is taken up if it gives a method and does not find its id registered. -/
  reached : ∀ before t, before ++ [t] <+: c.turns serviceIds →
    c.taken ctx.registry (before ++ [t]) = c.taken ctx.registry before ++
      if (c.made? ctx.registry t).isSome && !(before.foldl c.turn ctx).registry.containsMethod t.id
        then [t] else []
  /-- Turns are taken up in the order of the services, of the plan and of the declarations. -/
  order : (c.taken ctx.registry (c.turns serviceIds)).Sublist (c.turns serviceIds)
  /-- No id that is added has been registered before. -/
  fresh : ∀ t ∈ c.taken ctx.registry (c.turns serviceIds), ctx.registry.containsMethod t.id = false
  /-- No id is added twice. -/
  once : ((c.taken ctx.registry (c.turns serviceIds)).map Turn.id).Nodup
  /-- Under each of these ids stands the method of its turn, with the address of the backend. -/
  registered : ∀ t ∈ c.taken ctx.registry (c.turns serviceIds), ∃ m,
    c.made? ctx.registry t = some m ∧
    ctx'.registry.method? t.id = some m ∧ m.hostOverride = hostOverride? c.config? t.selector
  /-- No other method comes in. -/
  others : ∀ id, (∀ t ∈ c.taken ctx.registry (c.turns serviceIds), t.id ≠ id) →
    ctx'.registry.method? id = ctx.registry.method? id
  /-- A second composition finds nothing left to add. -/
  again : (c.compose ctx' serviceIds).registry = ctx'.registry

section OnlyAdds

variable (ctx : Context) (serviceIds : List String)

/-- Composition adds what its turns add. -/
theorem adds_compose : c.Adds (c.turns serviceIds) ctx (c.compose ctx serviceIds) := by
  rw [compose_eq_foldl_turn]
  exact c.adds_foldl_turn ctx _

/-- After a composition no turn is taken up. -/
theorem taken_compose_eq_nil :
    c.taken (c.compose ctx serviceIds).registry (c.turns serviceIds) = [] := by
  have h := c.adds_compose ctx serviceIds
  refine List.eq_nil_iff_forall_not_mem.2 fun t ht => ?_
  obtain ⟨⟨m, hm⟩, hfree⟩ := made?_of_mem_taken ht
  rw [h.made?_eq] at hm
  -- The turn has given its method already, so its id cannot be free.
  exact c.not_isFree_of_mem _ ((c.taken_sublist _ _).subset ht) (Option.isSome_iff_exists.2 ⟨m, hm⟩)
    ((h.containsMethod_eq_false_iff t).1 hfree)

/-- Composition only adds methods, each of them once, and what it has added once it does not add
    again. -/
theorem onlyAdds_compose : c.OnlyAdds serviceIds ctx (c.compose ctx serviceIds) := by
  have h := c.adds_compose ctx serviceIds
  constructor
  case messages => exact h.types.messages
  case enums => exact h.types.enums
  case kept =>
    intro id m hm
    refine (h.others id fun t ht hid => ?_).trans hm
    have hfree := (made?_of_mem_taken ht).2
    rw [hid] at hfree
    exact Bool.false_ne_true (hfree.symm.trans (Table.contains_eq_true_iff.2 ⟨m, hm⟩))
  case services => exact h.services
  case reached =>
    intro before t _
    have hfree := (c.adds_foldl_turn ctx before).containsMethod_eq_false_iff t
    rw [taken_append_singleton]
    -- By then the turns before have been taken, so that free means not registered.
    by_cases hup : (c.made? ctx.registry t).isSome ∧
      IsFree ctx.registry (c.taken ctx.registry before) t
    · rw [if_pos hup, hup.1, hfree.2 hup.2]
      rfl
    · rw [if_neg hup, if_neg, List.append_nil]
      rw [Bool.and_eq_true, Bool.not_eq_true', hfree]
      exact hup
  case order => exact c.taken_sublist _ _
  case fresh => exact fun t ht => (made?_of_mem_taken ht).2
  case once => exact c.nodup_taken _ _
  case registered =>
    intro t ht
    obtain ⟨m, hm⟩ := (made?_of_mem_taken ht).1
    obtain ⟨-, method, -, rfl⟩ := exists_attempt_of_made? hm
    exact ⟨_, hm, (h.taken t ht).trans hm, rfl⟩
  case others => exact h.others
  case again =>
    exact (c.adds_compose _ serviceIds).registry_eq (c.taken_compose_eq_nil ctx serviceIds)

end OnlyAdds

end Composition

end ProtoApi
