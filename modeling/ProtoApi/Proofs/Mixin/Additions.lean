import ProtoApi.Proofs.Build.Names
import ProtoApi.Proofs.Build.WellFormed
import ProtoApi.Proofs.Mixin.Loading

namespace ProtoApi

/-!
# What taking over mixin methods does

A service is offered the methods of all mixins of the plan in one order. What it makes of an offer
depends on the types that are registered and on whether it has a method of that name already, so
that the services of a build do not get into each other's way.

* `Offer`, `Composition.offers` — the methods that are offered;
* `Composition.outcome`, `Composition.outcomes` — what comes of one offer and of all of them;
* `outcomes_congr`, `exists_of_mem_outcomes`, `mem_outcomes_of_only`, `nodup_outcomes` — what that
  depends on, which offers are taken up, and with which ids;
* `Composition.Dotless` — the names of the methods that are taken over have no dots, which is so for
  every plan that is made (`dotless_of_make`);
* `Composition.additions`, `compose_eq` — what all services take over, as one change of the context;
* `service?_composed`, `method?_composed`, `method?_composed_of_mem` — what is registered after it.
-/

/-! ### Offers -/

/-- A method that a mixin offers. -/
structure Offer where
  mixin : Mixin
  decl : MethodDecl

/-- The name by which the method is selected. -/
def Offer.selector (o : Offer) : String := o.mixin.selector o.decl.name

/-- A service that lists more methods. -/
def Service.extended (s : Service) (ms : List Method) : Service :=
  { s with methods := s.methods ++ ms.map (·.id) }

/-- A context in which a service lists more methods, which are registered. -/
def Context.extended (ctx : Context) (serviceId : String) (ms : List Method)
    (ds : List Diagnostic) : Context where
  registry := { ctx.registry with
    methods := ms.foldl (fun t m => t.insert m.id m) ctx.registry.methods
    services := ctx.registry.services.modify serviceId (·.extended ms) }
  diagnostics := ctx.diagnostics ++ ds
  uuid4Fields := ctx.uuid4Fields

theorem Service.extended_nil (s : Service) : s.extended [] = s := by
  unfold extended
  rw [List.map_nil, List.append_nil]

/-- A service that is extended twice lists the methods in that order. -/
theorem Service.extended_append (s : Service) (ms ms' : List Method) :
    (s.extended ms).extended ms' = s.extended (ms ++ ms') := by
  unfold extended
  simp only [List.map_append, List.append_assoc]

/-- A context in which a service lists no more methods. -/
theorem Context.extended_nil (ctx : Context) (serviceId : String) (ds : List Diagnostic) :
    ctx.extended serviceId [] ds = ctx.reportAll ds := by
  unfold Context.extended
  rw [Table.modify_eq_self fun s _ => s.extended_nil]
  rfl

/-- A service may be extended in several steps. -/
theorem Context.extended_append (ctx : Context) (serviceId : String) (ms ms' : List Method)
    (ds ds' : List Diagnostic) :
    (ctx.extended serviceId ms ds).extended serviceId ms' ds'
      = ctx.extended serviceId (ms ++ ms') (ds ++ ds') := by
  simp [Context.extended, Table.modify_modify, Function.comp_def, List.foldl_append,
    Service.extended_append]

/-- A method is no type. -/
theorem Registry.sameTypes_addMethod (r : Registry) (m : Method) : r.SameTypes (r.addMethod m) :=
  ⟨rfl, rfl⟩

/-- Extending a service leaves the types alone. -/
theorem Context.sameTypes_extended (ctx : Context) (serviceId : String) (ms : List Method)
    (ds : List Diagnostic) : (ctx.extended serviceId ms ds).registry.SameTypes ctx.registry :=
  ⟨rfl, rfl⟩

namespace Composition

variable (c : Composition)

/-- All methods that are offered, in order. -/
def offers : List Offer :=
  c.plan.mixins.flatMap fun m => (((m.service? c.sources).map (·.methods)).getD []).map (Offer.mk m)

variable {c} in
/-- A mixin of the plan offers what it declares, wherever that has been found. -/
theorem mem_offers_iff {o : Offer} :
    o ∈ c.offers ↔ o.mixin ∈ c.plan.mixins ∧ ∃ s, o.mixin.service? c.sources = some s ∧
      o.decl ∈ s.methods := by
  unfold offers
  rw [List.mem_flatMap]
  constructor
  · rintro ⟨m, hm, ho⟩
    obtain ⟨decl, hdecl, rfl⟩ := List.mem_map.1 ho
    -- A mixin whose file lacks the service offers nothing.
    cases hs : m.service? c.sources with
    | none =>
      rw [hs] at hdecl
      exact absurd hdecl List.not_mem_nil
    | some s =>
      rw [hs] at hdecl
      exact ⟨hm, s, rfl, hdecl⟩
  · rintro ⟨hm, s, hs, hdecl⟩
    refine ⟨o.mixin, hm, List.mem_map.2 ⟨o.decl, ?_, rfl⟩⟩
    rw [hs]
    exact hdecl

/-- A service goes through the offers in order. -/
theorem composeService_eq_foldl (ctx : Context) (serviceId : String) :
    c.composeService ctx serviceId =
      match ctx.registry.service? serviceId with
      | some s =>
        c.offers.foldl (fun ctx o => c.takeOver serviceId s.package o.mixin ctx o.decl) ctx
      | none => ctx := by
  unfold composeService offers
  cases ctx.registry.service? serviceId with
  | none => rfl
  | some s =>
    simp only [List.foldl_flatMap, List.foldl_map]
    -- Going through mixins and their methods is going through the offers.
    apply List.foldl_ext
    intro ctx m _
    unfold takeOverAll
    cases m.service? c.sources <;> rfl

/-! ### What comes of an offer -/

section Outcome

variable (r : Registry) (serviceId package : String)

/-- The method that a service takes over from an offer, if any, and the diagnostics on the way. -/
def outcome (o : Offer) : Option Method × List Diagnostic :=
  if !c.plan.enabled.contains o.selector || r.containsMethod (childId serviceId o.decl.name) then
    (none, [])
  else
    let (method?, diagnostics) :=
      c.build r package (childId serviceId o.decl.name) o.selector o.decl
    (method?.map fun m => { m with hostOverride := hostOverride? c.config? o.selector },
      diagnostics)

/-- What comes of some offers, each seeing the methods that have been taken over before it. -/
def outcomes (r : Registry) : List Offer → List Method × List Diagnostic
  | [] => ([], [])
  | o :: rest =>
    let (method?, diagnostics) := c.outcome r serviceId package o
    let (methods, others) := outcomes (method?.elim r r.addMethod) rest
    (method?.toList ++ methods, diagnostics ++ others)

variable {r serviceId package}

/-- A method is built from its declaration and the types that are registered. -/
theorem build_congr {s : Registry} (h : r.SameTypes s) (id selector : String) (decl : MethodDecl) :
    c.build r package id selector decl = c.build s package id selector decl := by
  unfold build
  simp only [buildMethod_congr h]

/-- What comes of an offer depends on the types and, if it is enabled, on whether the service has
    the method already. -/
theorem outcome_congr {s : Registry} (h : r.SameTypes s) {o : Offer}
    (hm : c.plan.enabled.contains o.selector = true →
      r.containsMethod (childId serviceId o.decl.name)
        = s.containsMethod (childId serviceId o.decl.name)) :
    c.outcome r serviceId package o = c.outcome s serviceId package o := by
  unfold outcome
  cases he : c.plan.enabled.contains o.selector with
  | false => rfl
  | true => rw [hm he, c.build_congr h]

/-- So it is for several offers: what the first one brings in is there on both sides. -/
theorem outcomes_congr {s : Registry} (h : r.SameTypes s) {offers : List Offer}
    (hm : ∀ o ∈ offers, c.plan.enabled.contains o.selector = true →
      r.containsMethod (childId serviceId o.decl.name)
        = s.containsMethod (childId serviceId o.decl.name)) :
    c.outcomes serviceId package r offers = c.outcomes serviceId package s offers := by
  induction offers generalizing r s with
  | nil => rfl
  | cons o rest ih =>
    unfold outcomes
    rw [c.outcome_congr h (hm o List.mem_cons_self)]
    simp only
    -- The method of the first offer is registered on both sides.
    rw [ih]
    · cases (c.outcome s serviceId package o).1 with
      | none => exact h
      | some m => exact ⟨h.messages, h.enums⟩
    · intro o' ho' he
      have hsame := hm o' (List.mem_cons_of_mem _ ho') he
      cases (c.outcome s serviceId package o).1 with
      | none => exact hsame
      | some m =>
        unfold Registry.containsMethod Option.elim Registry.addMethod at *
        simp only [Table.contains_insert, hsame]

/-- One offer extends the service by what comes of it. -/
theorem takeOver_eq (ctx : Context) (o : Offer) :
    c.takeOver serviceId package o.mixin ctx o.decl =
      ctx.extended serviceId (c.outcome ctx.registry serviceId package o).1.toList
        (c.outcome ctx.registry serviceId package o).2 := by
  unfold takeOver outcome Offer.selector
  simp only
  split
  · rw [Option.toList_none, Context.extended_nil]
    unfold Context.reportAll
    rw [List.append_nil]
  · cases (c.build ctx.registry package (childId serviceId o.decl.name)
      (o.mixin.selector o.decl.name) o.decl).1 with
    | none =>
      rw [Option.map_none, Option.toList_none, Context.extended_nil]
    | some m => rfl

/-- The offers extend the service by what comes of them. -/
theorem foldl_takeOver_eq (ctx : Context) (offers : List Offer) :
    offers.foldl (fun ctx o => c.takeOver serviceId package o.mixin ctx o.decl) ctx =
      ctx.extended serviceId (c.outcomes serviceId package ctx.registry offers).1
        (c.outcomes serviceId package ctx.registry offers).2 := by
  induction offers generalizing ctx with
  | nil =>
    unfold outcomes
    rw [Context.extended_nil]
    unfold Context.reportAll
    rw [List.append_nil]
    rfl
  | cons o rest ih =>
    -- That the service lists the method does not matter to the offers left.
    have hrest : ∀ (method? : Option Method) (ds : List Diagnostic),
        c.outcomes serviceId package (ctx.extended serviceId method?.toList ds).registry rest
          = c.outcomes serviceId package (method?.elim ctx.registry ctx.registry.addMethod)
            rest := by
      intro method? ds
      apply c.outcomes_congr
      · cases method? <;> exact ⟨rfl, rfl⟩
      · intro _ _ _
        cases method? <;> rfl
    rw [List.foldl_cons, takeOver_eq, ih, Context.extended_append, hrest]
    rfl

/-! ### Which methods are taken over -/

/-- When a service takes a method over from an offer. -/
theorem outcome_eq_some_iff {o : Offer} {m : Method} :
    (c.outcome r serviceId package o).1 = some m ↔
    c.plan.enabled.contains o.selector = true ∧
      r.containsMethod (childId serviceId o.decl.name) = false ∧
      ∃ method, (c.build r package (childId serviceId o.decl.name) o.selector o.decl).1
          = some method ∧
        { method with hostOverride := hostOverride? c.config? o.selector } = m := by
  unfold outcome
  cases c.plan.enabled.contains o.selector <;>
    cases r.containsMethod (childId serviceId o.decl.name) <;> simp [Option.map_eq_some_iff]

/-- What comes of an offer has the id that the service gives it. -/
theorem id_of_outcome {o : Offer} {m : Method} (h : (c.outcome r serviceId package o).1 = some m) :
    m.id = childId serviceId o.decl.name := by
  obtain ⟨-, -, method, hbuild, rfl⟩ := c.outcome_eq_some_iff.1 h
  obtain ⟨rule?, hb⟩ := c.exists_buildMethod_of_build hbuild
  have hid : method.id = childId serviceId o.decl.name := id_of_buildMethod hb
  exact hid

/-- What is taken over comes of an offer, also if that were the only one. -/
theorem exists_of_mem_outcomes {offers : List Offer} {m : Method}
    (h : m ∈ (c.outcomes serviceId package r offers).1) :
    ∃ o ∈ offers, (c.outcome r serviceId package o).1 = some m := by
  induction offers generalizing r with
  | nil => exact absurd h List.not_mem_nil
  | cons o rest ih =>
    unfold outcomes at h
    rcases List.mem_append.1 h with h | h
    · exact ⟨o, List.mem_cons_self, Option.mem_toList.1 h⟩
    · obtain ⟨o', ho', hm⟩ := ih h
      refine ⟨o', List.mem_cons_of_mem _ ho', ?_⟩
      cases hfirst : (c.outcome r serviceId package o).1 with
      | none =>
        rw [hfirst] at hm
        exact hm
      | some first =>
        -- The offer has not been declined although the first method was there, so it is not without
        -- it.
        rw [hfirst] at hm
        have hfree := (c.outcome_eq_some_iff.1 hm).2.1
        rw [← hm]
        refine congrArg Prod.fst (c.outcome_congr (r.sameTypes_addMethod first) fun _ => ?_)
        simp only [Option.elim, Registry.containsMethod, Registry.addMethod, Table.contains_insert,
          Bool.or_eq_false_iff] at hfree ⊢
        rw [hfree.1, hfree.2, Bool.false_or]

/-- A service takes over what it does not have. -/
theorem containsMethod_of_mem_outcomes {offers : List Offer} {m : Method}
    (h : m ∈ (c.outcomes serviceId package r offers).1) : r.containsMethod m.id = false := by
  obtain ⟨o, -, ho⟩ := c.exists_of_mem_outcomes h
  rw [c.id_of_outcome ho]
  exact (c.outcome_eq_some_iff.1 ho).2.1

/-- An offer is taken up as if it were the only one, if no other one has its name. -/
theorem mem_outcomes_of_only {offers : List Offer} {o : Offer} (ho : o ∈ offers)
    (honly : ∀ o' ∈ offers, o'.decl.name = o.decl.name → o' = o) {m : Method}
    (h : (c.outcome r serviceId package o).1 = some m) :
    m ∈ (c.outcomes serviceId package r offers).1 := by
  induction offers generalizing r with
  | nil => exact absurd ho List.not_mem_nil
  | cons first rest ih =>
    unfold outcomes
    simp only
    by_cases hfirst : first = o
    · rw [hfirst, h]
      exact List.mem_append_left _ (List.mem_singleton.2 rfl)
    · refine List.mem_append_right _ ?_
      refine ih ((List.mem_cons.1 ho).resolve_left (Ne.symm hfirst))
        (fun o' ho' => honly o' (List.mem_cons_of_mem _ ho')) ?_
      -- What comes of the first offer has another name, and so another id.
      rw [← h]
      cases hout : (c.outcome r serviceId package first).1 with
      | none => rfl
      | some n =>
        have hne : childId serviceId o.decl.name ≠ n.id := by
          rw [c.id_of_outcome hout]
          exact fun he => hfirst (honly first List.mem_cons_self (childId_right_inj he).symm)
        refine congrArg Prod.fst (c.outcome_congr (r.sameTypes_addMethod n) fun _ => ?_).symm
        simp [Registry.containsMethod, Registry.addMethod, hne]

/-- A service takes over no two methods with the same id. -/
theorem nodup_outcomes (offers : List Offer) :
    ((c.outcomes serviceId package r offers).1.map (·.id)).Nodup := by
  induction offers generalizing r with
  | nil => exact List.nodup_nil
  | cons o rest ih =>
    unfold outcomes
    simp only
    rw [List.map_append]
    cases (c.outcome r serviceId package o).1 with
    | none => exact ih
    | some m =>
      -- The first method is registered when the others are offered, so that none of them has its
      -- id.
      refine List.nodup_cons.2 ⟨fun hmem => ?_, ih⟩
      obtain ⟨n, hn, hid⟩ := List.mem_map.1 hmem
      have hfree := c.containsMethod_of_mem_outcomes hn
      simp [Registry.containsMethod, Registry.addMethod, hid] at hfree

end Outcome

/-! ### All services -/

/-- The methods that may be taken over have names without dots. -/
def Dotless : Prop :=
  ∀ o ∈ c.offers, c.plan.enabled.contains o.selector = true → '.' ∉ o.decl.name.toList

/-- What a service takes over, and the diagnostics on the way. -/
def additions (r : Registry) (serviceId : String) : List Method × List Diagnostic :=
  match r.service? serviceId with
  | some s => c.outcomes serviceId s.package r c.offers
  | none => ([], [])

/-- A service is extended once, by all that it takes over. -/
theorem composeService_eq (ctx : Context) (serviceId : String) :
    c.composeService ctx serviceId =
      ctx.extended serviceId (c.additions ctx.registry serviceId).1
        (c.additions ctx.registry serviceId).2 := by
  rw [composeService_eq_foldl]
  unfold additions
  cases ctx.registry.service? serviceId with
  | none =>
    simp only
    rw [Context.extended_nil]
    unfold Context.reportAll
    rw [List.append_nil]
  | some s => exact c.foldl_takeOver_eq ctx c.offers

section Additions

variable {c} {r : Registry}

/-- The ids of what a service takes over end with names without dots. -/
theorem exists_of_mem_additions (hd : c.Dotless) {serviceId : String} {m : Method}
    (h : m ∈ (c.additions r serviceId).1) :
    ∃ name, '.' ∉ name.toList ∧ m.id = childId serviceId name := by
  unfold additions at h
  cases hs : r.service? serviceId with
  | none =>
    rw [hs] at h
    exact absurd h List.not_mem_nil
  | some s =>
    rw [hs] at h
    obtain ⟨o, ho, hm⟩ := c.exists_of_mem_outcomes h
    exact ⟨o.decl.name, hd o ho (c.outcome_eq_some_iff.1 hm).1, c.id_of_outcome hm⟩

/-- A service takes over nothing that is registered. -/
theorem containsMethod_of_mem_additions {serviceId : String} {m : Method}
    (h : m ∈ (c.additions r serviceId).1) : r.containsMethod m.id = false := by
  unfold additions at h
  cases hs : r.service? serviceId with
  | none =>
    rw [hs] at h
    exact absurd h List.not_mem_nil
  | some s =>
    rw [hs] at h
    exact c.containsMethod_of_mem_outcomes h

/-- What a service takes over has different ids. -/
theorem nodup_additions (serviceId : String) : ((c.additions r serviceId).1.map (·.id)).Nodup := by
  unfold additions
  cases r.service? serviceId with
  | none => exact List.nodup_nil
  | some s => exact c.nodup_outcomes c.offers

/-- It is none of the methods that are registered. -/
theorem nodup_append_additions {ids : List String} (hn : ids.Nodup)
    (hids : ∀ id ∈ ids, r.containsMethod id = true) (serviceId : String) :
    (ids ++ (c.additions r serviceId).1.map (·.id)).Nodup := by
  refine List.nodup_append.2 ⟨hn, nodup_additions serviceId, ?_⟩
  rintro id hid _ hadded rfl
  obtain ⟨m, hm, rfl⟩ := List.mem_map.1 hadded
  exact Bool.false_ne_true ((containsMethod_of_mem_additions hm).symm.trans (hids m.id hid))

/-- So does what all services take over. -/
theorem nodup_flatMap_additions (hd : c.Dotless) {serviceIds : List String}
    (hn : serviceIds.Nodup) :
    ((serviceIds.flatMap fun id => (c.additions r id).1).map (·.id)).Nodup := by
  rw [List.map_flatMap, List.nodup_flatMap]
  refine ⟨fun id _ => nodup_additions id, hn.imp ?_⟩
  intro id other hne x hx hx'
  obtain ⟨m, hm, rfl⟩ := List.mem_map.1 hx
  obtain ⟨m', hm', hid⟩ := List.mem_map.1 hx'
  obtain ⟨name, hname, hmid⟩ := exists_of_mem_additions hd hm
  obtain ⟨name', hname', hmid'⟩ := exists_of_mem_additions hd hm'
  rw [hmid, hmid'] at hid
  exact hne (childId_inj hname' hname hid).1.symm

/-- What a service takes over depends on the types, on the package of the service and on which
    methods it has. -/
theorem additions_congr (hd : c.Dotless) {s : Registry} (h : r.SameTypes s) {serviceId : String}
    (hs : (r.service? serviceId).map (·.package) = (s.service? serviceId).map (·.package))
    (hm : ∀ name, '.' ∉ name.toList →
      r.containsMethod (childId serviceId name) = s.containsMethod (childId serviceId name)) :
    c.additions r serviceId = c.additions s serviceId := by
  unfold additions
  cases hr : r.service? serviceId with
  | none =>
    rw [hr, Option.map_none, eq_comm, Option.map_eq_none_iff] at hs
    rw [hs]
  | some x =>
    -- Of the service itself only the package matters.
    rw [hr, Option.map_some, eq_comm, Option.map_eq_some_iff] at hs
    obtain ⟨y, hy, hpackage⟩ := hs
    rw [hy]
    simp only
    rw [hpackage]
    exact c.outcomes_congr h fun o ho he => hm o.decl.name (hd o ho he)

/-- What one service takes over does not matter to another one. -/
theorem additions_extended (hd : c.Dotless) (ctx : Context) {serviceId other : String}
    (hne : other ≠ serviceId) :
    c.additions (ctx.extended serviceId (c.additions ctx.registry serviceId).1
        (c.additions ctx.registry serviceId).2).registry other
      = c.additions ctx.registry other := by
  apply additions_congr hd (ctx.sameTypes_extended _ _ _)
  · show (Option.map _ (Table.get? (Table.modify _ _ _) _)) = _
    rw [Table.get?_modify, if_neg hne]
    rfl
  · intro name hname
    show Table.contains (List.foldl _ _ _) _ = _
    rw [Table.contains_foldl_insert]
    -- What has been added are methods of the first service, whose ids are no ids of the other one.
    have hnone : (c.additions ctx.registry serviceId).1.any (fun m => m.id = childId other name)
        = false := by
      rw [List.any_eq_false]
      intro m hm hid
      obtain ⟨name', hname', hmid⟩ := exists_of_mem_additions hd hm
      rw [decide_eq_true_eq, hmid] at hid
      exact hne (childId_inj hname' hname hid).1.symm
    rw [hnone, Bool.false_or]
    rfl

end Additions

/-- A context whose services have taken over what they can where `r` is registered. -/
def composed (r : Registry) (ctx : Context) (serviceIds : List String) : Context where
  registry := { ctx.registry with
    methods :=
      (serviceIds.flatMap fun id => (c.additions r id).1).foldl (fun t m => t.insert m.id m)
        ctx.registry.methods
    services := serviceIds.foldl (fun t id => t.modify id (·.extended (c.additions r id).1))
      ctx.registry.services }
  diagnostics := ctx.diagnostics ++ serviceIds.flatMap fun id => (c.additions r id).2
  uuid4Fields := ctx.uuid4Fields

/-- All services see the registry from before the first of them has taken over anything. -/
theorem compose_eq (hd : c.Dotless) {r : Registry} {serviceIds : List String}
    (hn : serviceIds.Nodup) {ctx : Context}
    (hr : ∀ id ∈ serviceIds, c.additions ctx.registry id = c.additions r id) :
    c.compose ctx serviceIds = c.composed r ctx serviceIds := by
  unfold compose
  induction serviceIds generalizing ctx with
  | nil => simp [composed]
  | cons id rest ih =>
    obtain ⟨hid, hrest⟩ := List.nodup_cons.1 hn
    rw [List.foldl_cons, composeService_eq, ih hrest]
    · rw [hr id List.mem_cons_self]
      simp [composed, Context.extended, List.foldl_append]
    · intro other hother
      have hne : other ≠ id := fun h => hid (h ▸ hother)
      rw [additions_extended hd ctx hne]
      exact hr other (List.mem_cons_of_mem _ hother)

section Composed

variable {c} {r : Registry} {ctx : Context} {serviceIds : List String}

/-- A service lists what it takes over behind what it has listed before. -/
theorem service?_composed (hn : serviceIds.Nodup) {id : String} (hid : id ∈ serviceIds) :
    (c.composed r ctx serviceIds).registry.service? id =
      (ctx.registry.service? id).map (·.extended (c.additions r id).1) := by
  have hkeys : (serviceIds.map fun id => id).Nodup := by
    rw [List.map_id']
    exact hn
  exact Table.get?_foldl_modify_of_mem hkeys hid ctx.registry.services

/-- What a service takes over is registered. -/
theorem method?_composed_of_mem (hd : c.Dotless) (hn : serviceIds.Nodup) {id : String}
    (hid : id ∈ serviceIds) {m : Method} (hm : m ∈ (c.additions r id).1) :
    (c.composed r ctx serviceIds).registry.method? m.id = some m :=
  Table.get?_foldl_insert_of_mem (nodup_flatMap_additions hd hn) (List.mem_flatMap.2 ⟨id, hid, hm⟩)
    ctx.registry.methods

/-- What has been registered before stays. -/
theorem method?_composed {id : String} {m : Method} (h : ctx.registry.method? id = some m) :
    (c.composed ctx.registry ctx serviceIds).registry.method? id = some m := by
  refine (Table.get?_foldl_insert_of_ne (fun a ha he => ?_) ctx.registry.methods).trans h
  obtain ⟨serviceId, -, ha⟩ := List.mem_flatMap.1 ha
  have hfree := containsMethod_of_mem_additions ha
  rw [he] at hfree
  exact Bool.false_ne_true (hfree.symm.trans (Table.contains_eq_true_iff.2 ⟨m, h⟩))

end Composed

end Composition

end ProtoApi
