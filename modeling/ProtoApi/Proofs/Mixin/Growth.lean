import ProtoApi.Proofs.Mixin.Selection

namespace ProtoApi

/-!
# What services take over only adds

`compose_eq` says at once what all services take over, where no two of them have the same id. What
follows holds of any list of services, service by service.

* `Context.Grows` — a context with the same types, all methods and all diagnostics of another one,
  and maybe more;
* `grows_compose` — taking over methods grows a context;
* `Composition.TakenFrom`, `method?_compose` — a method that has come in is built from an offer;
* `Composition.Settled`, `settled_compose` — each service has, in the end, each method that is
  enabled and offered, or a diagnostic says that it had to be dropped.
-/

/-! ### Growing contexts -/

/-- The package of the service registered under an id. -/
def Registry.packageOf? (r : Registry) (serviceId : String) : Option String :=
  (r.service? serviceId).map (·.package)

/-- A service that is registered has a package. -/
theorem Registry.packageOf?_of_service? {r : Registry} {serviceId : String} {s : Service}
    (h : r.service? serviceId = some s) : r.packageOf? serviceId = some s.package := by
  unfold packageOf?
  rw [h]
  rfl

/-- `ctx'` has the types of `ctx`, the same services in the same packages, and all methods and
    diagnostics of `ctx`. -/
structure Context.Grows (ctx ctx' : Context) : Prop where
  types : ctx.registry.SameTypes ctx'.registry
  packages : ∀ id, ctx.registry.packageOf? id = ctx'.registry.packageOf? id
  methods : ∀ {id m}, ctx.registry.method? id = some m → ctx'.registry.method? id = some m
  diagnostics : ctx.diagnostics <+: ctx'.diagnostics

theorem Context.Grows.refl (ctx : Context) : ctx.Grows ctx where
  types := .refl _
  packages _ := rfl
  methods h := h
  diagnostics := List.prefix_refl _

/-- A context that grows twice has grown. -/
theorem Context.Grows.trans {ctx ctx' ctx'' : Context} (h : ctx.Grows ctx')
    (h' : ctx'.Grows ctx'') : ctx.Grows ctx'' where
  types := h.types.trans h'.types
  packages id := (h.packages id).trans (h'.packages id)
  methods hm := h'.methods (h.methods hm)
  diagnostics := h.diagnostics.trans h'.diagnostics

/-- A method that is registered stays so. -/
theorem Context.Grows.containsMethod {ctx ctx' : Context} (h : ctx.Grows ctx') {id : String}
    (hid : ctx.registry.containsMethod id = true) : ctx'.registry.containsMethod id = true := by
  obtain ⟨m, hm⟩ := Table.contains_eq_true_iff.1 hid
  exact Table.contains_eq_true_iff.2 ⟨m, h.methods hm⟩

/-- Extending one service leaves all others as they are. -/
theorem Context.service?_extended (ctx : Context) (serviceId : String) (ms : List Method)
    (ds : List Diagnostic) (id : String) :
    (ctx.extended serviceId ms ds).registry.service? id
      = (ctx.registry.service? id).map fun s => if id = serviceId then s.extended ms else s :=
  Table.get?_modify_eq_map ..

/-- A service that lists more methods is in the package it was in. -/
theorem Context.packageOf?_extended (ctx : Context) (serviceId : String) (ms : List Method)
    (ds : List Diagnostic) (id : String) :
    (ctx.extended serviceId ms ds).registry.packageOf? id = ctx.registry.packageOf? id := by
  unfold Registry.packageOf?
  rw [ctx.service?_extended, Option.map_map]
  congr 1
  funext s
  show (if id = serviceId then s.extended ms else s).package = s.package
  split <;> rfl

namespace Composition

variable (c : Composition)

/-- A service takes over only what is not registered yet. -/
theorem grows_composeService (ctx : Context) (serviceId : String) :
    ctx.Grows (c.composeService ctx serviceId) := by
  rw [composeService_eq]
  constructor
  case types => exact ⟨rfl, rfl⟩
  case packages => exact fun id => (ctx.packageOf?_extended _ _ _ id).symm
  case methods =>
    intro id m hm
    refine (Table.get?_foldl_insert_of_ne (fun n hn hid => ?_) ctx.registry.methods).trans hm
    have hfree := containsMethod_of_mem_additions hn
    rw [hid] at hfree
    exact Bool.false_ne_true (hfree.symm.trans (Table.contains_eq_true_iff.2 ⟨m, hm⟩))
  case diagnostics => exact List.prefix_append _ _

/-- So it is for one service after the other. -/
theorem grows_compose (ctx : Context) (serviceIds : List String) :
    ctx.Grows (c.compose ctx serviceIds) :=
  List.foldlRecOn serviceIds c.composeService (.refl ctx) fun _ h id _ =>
    h.trans (c.grows_composeService _ id)

/-! ### Where methods come from -/

/-- `m` is what an enabled offer gives for a service of `r`. It is built in the package of the
    service. -/
structure TakenFrom (r : Registry) (o : Offer) (m : Method) : Prop where
  offered : o ∈ c.offers
  enabled : c.plan.enabled.contains o.selector = true
  built : ∃ serviceId package rule? method, r.packageOf? serviceId = some package ∧
    buildMethod r o.decl (childId serviceId o.decl.name) package rule? = .ok method ∧
      { method with hostOverride := hostOverride? c.config? o.selector } = m

variable {c}

/-- What is taken over later could have been taken over before. -/
theorem TakenFrom.of_grows {ctx ctx' : Context} (h : ctx.Grows ctx') {o : Offer} {m : Method}
    (hm : c.TakenFrom ctx'.registry o m) : c.TakenFrom ctx.registry o m := by
  obtain ⟨serviceId, package, rule?, method, hpackage, hb, heq⟩ := hm.built
  rw [← h.packages] at hpackage
  rw [← buildMethod_congr h.types] at hb
  exact ⟨hm.offered, hm.enabled, serviceId, package, rule?, method, hpackage, hb, heq⟩

/-- What a service takes over comes of an offer. -/
theorem exists_takenFrom_of_mem_additions {r : Registry} {serviceId : String} {m : Method}
    (h : m ∈ (c.additions r serviceId).1) : ∃ o, c.TakenFrom r o m := by
  unfold additions at h
  cases hs : r.service? serviceId with
  | none =>
    rw [hs] at h
    exact absurd h List.not_mem_nil
  | some s =>
    rw [hs] at h
    obtain ⟨o, ho, hm⟩ := c.exists_of_mem_outcomes h
    obtain ⟨he, -, method, hbuild, heq⟩ := c.outcome_eq_some_iff.1 hm
    obtain ⟨rule?, hb⟩ := c.exists_buildMethod_of_build hbuild
    exact ⟨o, ho, he, serviceId, s.package, rule?, method,
      Registry.packageOf?_of_service? hs, hb, heq⟩

/-- A method that is registered in the end has been there before, or it comes of an offer. -/
theorem method?_compose {ctx : Context} {serviceIds : List String} {id : String} {m : Method}
    (h : (c.compose ctx serviceIds).registry.method? id = some m) :
    ctx.registry.method? id = some m ∨ ∃ o, c.TakenFrom ctx.registry o m := by
  unfold compose at h
  induction serviceIds generalizing ctx with
  | nil => exact Or.inl h
  | cons serviceId rest ih =>
    rw [List.foldl_cons] at h
    -- The services left see the types and the packages of the first context still.
    rcases ih h with hm | ⟨o, ho⟩
    · rw [composeService_eq] at hm
      rcases Table.get?_foldl_insert_eq_some hm with ⟨n, hn, -, rfl⟩ | hm
      · exact Or.inr (exists_takenFrom_of_mem_additions hn)
      · exact Or.inl hm
    · exact Or.inr ⟨o, ho.of_grows (c.grows_composeService ctx serviceId)⟩

/-! ### What becomes of each offer -/

/-- A service has the method of a name, or a diagnostic says that it had to be dropped. -/
def Settled (ctx : Context) (serviceId name : String) : Prop :=
  ctx.registry.containsMethod (childId serviceId name) = true ∨
    ∃ reason, .methodDropped (childId serviceId name) reason ∈ ctx.diagnostics

/-- What is settled stays so when the context grows. -/
theorem Settled.grows {ctx ctx' : Context} {serviceId name : String}
    (h : Settled ctx serviceId name) (hg : ctx.Grows ctx') : Settled ctx' serviceId name := by
  rcases h with h | ⟨reason, h⟩
  · exact Or.inl (hg.containsMethod h)
  · exact Or.inr ⟨reason, hg.diagnostics.subset h⟩

/-- A mixin method is built, or it is dropped whatever has been tried before. -/
theorem build_eq_some_or_dropped (r : Registry) (package id selector : String) (decl : MethodDecl) :
    (∃ m, (c.build r package id selector decl).1 = some m) ∨
      ∃ reason, .methodDropped id reason ∈ (c.build r package id selector decl).2 := by
  unfold build
  -- With a rule of the configuration there are two attempts, else there is one.
  cases hrule : c.config?.bind (·.httpRule? selector) with
  | none =>
    cases buildMethod r decl id package none with
    | ok m => exact Or.inl ⟨m, rfl⟩
    | error e => exact Or.inr ⟨e.message, List.mem_append_right _ (List.mem_singleton.2 rfl)⟩
  | some rule =>
    cases hgiven : buildMethod r decl id package (some rule) with
    | ok m =>
      simp only [hgiven]
      exact Or.inl ⟨m, rfl⟩
    | error fault =>
      simp only [hgiven]
      cases buildMethod r decl id package none with
      | ok m => exact Or.inl ⟨m, rfl⟩
      | error e => exact Or.inr ⟨e.message, List.mem_append_right _ (List.mem_singleton.2 rfl)⟩

/-- An enabled offer is declined only for a method that is there already. -/
theorem outcome_settles (r : Registry) (serviceId package : String) {o : Offer}
    (he : c.plan.enabled.contains o.selector = true) :
    r.containsMethod (childId serviceId o.decl.name) = true ∨
      (∃ m, (c.outcome r serviceId package o).1 = some m) ∨
      ∃ reason, .methodDropped (childId serviceId o.decl.name) reason
        ∈ (c.outcome r serviceId package o).2 := by
  cases hfree : r.containsMethod (childId serviceId o.decl.name) with
  | true => exact Or.inl rfl
  | false =>
    refine Or.inr ?_
    unfold outcome
    rw [he, hfree]
    rcases c.build_eq_some_or_dropped r package (childId serviceId o.decl.name) o.selector o.decl
      with ⟨m, hm⟩ | h
    · exact Or.inl ⟨_, congrArg (Option.map _) hm⟩
    · exact Or.inr h

/-- Of several offers each enabled one is settled, with those in front of it. -/
theorem outcomes_settle (r : Registry) (serviceId package : String) {offers : List Offer}
    {o : Offer} (ho : o ∈ offers) (he : c.plan.enabled.contains o.selector = true) :
    r.containsMethod (childId serviceId o.decl.name) = true ∨
      (∃ m ∈ (c.outcomes serviceId package r offers).1, m.id = childId serviceId o.decl.name) ∨
      ∃ reason, .methodDropped (childId serviceId o.decl.name) reason
        ∈ (c.outcomes serviceId package r offers).2 := by
  induction offers generalizing r with
  | nil => exact absurd ho List.not_mem_nil
  | cons first rest ih =>
    unfold outcomes
    simp only
    rcases List.mem_cons.1 ho with rfl | ho
    · rcases c.outcome_settles r serviceId package he with h | ⟨m, hm⟩ | ⟨reason, h⟩
      · exact Or.inl h
      · refine Or.inr
          (Or.inl ⟨m, List.mem_append_left _ (Option.mem_toList.2 hm), c.id_of_outcome hm⟩)
      · exact Or.inr (Or.inr ⟨reason, List.mem_append_left _ h⟩)
    · rcases ih ((c.outcome r serviceId package first).1.elim r r.addMethod) ho
        with h | ⟨m, hm, hid⟩ | ⟨reason, h⟩
      · -- The method has been there before, or it is the one that the first offer has brought in.
        cases hfirst : (c.outcome r serviceId package first).1 with
        | none =>
          rw [hfirst] at h
          exact Or.inl h
        | some n =>
          rw [hfirst] at h
          simp only [Option.elim, Registry.containsMethod, Registry.addMethod,
            Table.contains_insert, Bool.or_eq_true, decide_eq_true_eq] at h
          rcases h with h | h
          · exact Or.inr (Or.inl ⟨n, List.mem_append_left _ (List.mem_singleton.2 rfl), h.symm⟩)
          · exact Or.inl h
      · exact Or.inr (Or.inl ⟨m, List.mem_append_right _ hm, hid⟩)
      · exact Or.inr (Or.inr ⟨reason, List.mem_append_right _ h⟩)

/-- A registered service settles what it is offered. -/
theorem settled_composeService {ctx : Context} {serviceId package : String}
    (hs : ctx.registry.packageOf? serviceId = some package) {o : Offer} (ho : o ∈ c.offers)
    (he : c.plan.enabled.contains o.selector = true) :
    Settled (c.composeService ctx serviceId) serviceId o.decl.name := by
  obtain ⟨s, hs, -⟩ := Option.map_eq_some_iff.1 hs
  -- The service is registered, so that it is offered everything.
  have hadditions : c.additions ctx.registry serviceId
      = c.outcomes serviceId s.package ctx.registry c.offers := by
    unfold additions
    rw [hs]
  rcases c.outcomes_settle ctx.registry serviceId s.package ho he
    with h | ⟨m, hm, hid⟩ | ⟨reason, h⟩
  · exact Settled.grows (Or.inl h) (c.grows_composeService ctx serviceId)
  · refine Or.inl ?_
    rw [composeService_eq, hadditions]
    show Table.contains (List.foldl _ _ _) _ = true
    rw [Table.contains_foldl_insert, Bool.or_eq_true]
    exact Or.inl (List.any_eq_true.2 ⟨m, hm, decide_eq_true hid⟩)
  · refine Or.inr ⟨reason, ?_⟩
    rw [composeService_eq, hadditions]
    exact List.mem_append_right _ h

/-- So does each registered service of a list. -/
theorem settled_compose {ctx : Context} {serviceIds : List String} {serviceId package : String}
    (hid : serviceId ∈ serviceIds) (hs : ctx.registry.packageOf? serviceId = some package)
    {o : Offer} (ho : o ∈ c.offers) (he : c.plan.enabled.contains o.selector = true) :
    Settled (c.compose ctx serviceIds) serviceId o.decl.name := by
  obtain ⟨before, after, rfl⟩ := List.append_of_mem hid
  -- The service is registered still when its turn comes.
  have hturn : (c.compose ctx before).registry.packageOf? serviceId = some package :=
    ((c.grows_compose ctx before).packages serviceId).symm.trans hs
  unfold compose
  rw [List.foldl_append, List.foldl_cons]
  exact (settled_composeService hturn ho he).grows (c.grows_compose _ after)

end Composition

end ProtoApi
