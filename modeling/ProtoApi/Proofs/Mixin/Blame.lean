import ProtoApi.Proofs.Mixin.Turns

namespace ProtoApi

/-!
# What is reported while methods are taken over

A method is built with the rule that the configuration has for it, and if that fails with its own
annotation. Whatever has made the first attempt fail is reported as a fault of the rule, although it
may be one of the declaration, which makes the second attempt fail as well.

* `HttpRule.IsUsable`, `MethodDecl.IsSound` — what a rule and what a declaration have to be for a
  method to be built, and `exists_buildMethod_some_iff` that nothing else matters;
* `invalidOverride_mem_build_iff`, `exists_methodDropped_mem_build_iff` — the two sorts of
  diagnostics of one method;
* `Composition.IsTried`, `diagnostics_foldl_turn` — the turns that a method is tried for, and that
  all diagnostics are theirs;
* `Composition.Reports`, `reports_compose` — when a composition blames a rule and when it drops a
  method;
* `exists_blamed_usable` — a rule may be blamed that can be used.
-/

/-! ### Rules and declarations -/

/-- A rule can be used as a binding: it has a request method, and its path template can be read. -/
def HttpRule.IsUsable (rule : HttpRule) : Prop :=
  ∃ verb template path, rule.pattern = .ok (verb, template) ∧ PathTemplate.parse template = .ok path

/-- Whether a rule can be used does not depend on the request. -/
theorem HttpRule.exists_binding_iff (rule : HttpRule) (input : Message) :
    (∃ binding, rule.binding input = .ok binding) ↔ rule.IsUsable := by
  unfold HttpRule.binding HttpRule.IsUsable
  constructor
  · rintro ⟨binding, h⟩
    obtain ⟨⟨verb, template⟩, hpattern, h⟩ := bind_eq_ok_iff.1 h
    obtain ⟨path, hpath, -⟩ := bind_eq_ok_iff.1 h
    exact ⟨verb, template, path, hpattern, hpath⟩
  · rintro ⟨verb, template, path, hpattern, hpath⟩
    exact ⟨_, bind_eq_ok_iff.2 ⟨(verb, template), hpattern, bind_eq_ok_iff.2 ⟨path, hpath, rfl⟩⟩⟩

/-- Nothing is wrong with a declaration, apart from its HTTP rule: its types are registered, and its
    routing can be read. -/
structure MethodDecl.IsSound (r : Registry) (decl : MethodDecl) : Prop where
  input : r.messages.contains decl.inputType = true
  output : r.resolvesType decl.outputType = true
  routing : ∃ parameters, routing decl.options? = .ok parameters

section Build

variable {r : Registry} {decl : MethodDecl} {id package : String}

/-- A method can be built with a rule if the rule and the declaration are as they should be. -/
theorem exists_buildMethod_some_iff {rule : HttpRule} :
    (∃ m, buildMethod r decl id package (some rule) = .ok m) ↔ rule.IsUsable ∧ decl.IsSound r := by
  constructor
  · rintro ⟨m, h⟩
    obtain ⟨rule', input, binding, parameters, hrule, hinput, hout, hbinding, hrouting, -⟩ :=
      buildMethod_eq_ok_iff.1 h
    obtain rfl : rule = rule' := Except.ok.inj hrule
    exact ⟨(rule.exists_binding_iff input).1 ⟨binding, hbinding⟩,
      ⟨Table.contains_eq_true_iff.2 ⟨input, hinput⟩, hout, parameters, hrouting⟩⟩
  · rintro ⟨husable, hsound⟩
    obtain ⟨input, hinput⟩ := Table.contains_eq_true_iff.1 hsound.input
    obtain ⟨binding, hbinding⟩ := (rule.exists_binding_iff input).2 husable
    obtain ⟨parameters, hrouting⟩ := hsound.routing
    exact ⟨_, buildMethod_eq_ok_iff.2
      ⟨rule, input, binding, parameters, rfl, hinput, hsound.output, hbinding, hrouting, rfl⟩⟩

/-- No rule makes up for a fault of the declaration. -/
theorem isSound_of_buildMethod {rule? : Option HttpRule} {m : Method}
    (h : buildMethod r decl id package rule? = .ok m) : decl.IsSound r := by
  obtain ⟨-, input, -, parameters, -, hinput, hout, -, hrouting, -⟩ := buildMethod_eq_ok_iff.1 h
  exact ⟨Table.contains_eq_true_iff.2 ⟨input, hinput⟩, hout, parameters, hrouting⟩

end Build

namespace Composition

/-! ### Diagnostics of a turn -/

section Diagnostics

variable {c : Composition} {r : Registry} {package id selector : String} {decl : MethodDecl}

/-- A rule is blamed if the first attempt fails. -/
theorem invalidOverride_mem_build_iff {s reason : String} :
    .invalidOverride s reason ∈ (c.build r package id selector decl).2 ↔
      s = selector ∧ ∃ rule e, c.rule? selector = some rule ∧
        buildMethod r decl id package (some rule) = .error e ∧ e.message = reason := by
  unfold build rule?
  cases hrule : c.config?.bind (·.httpRule? selector) with
  | none => cases buildMethod r decl id package none <;> simp [dropped]
  | some rule =>
    cases hgiven : buildMethod r decl id package (some rule) with
    | ok m => simp [hgiven]
    | error e =>
      cases hown : buildMethod r decl id package none <;> simp [hgiven, dropped, eq_comm]

/-- A method is dropped if no attempt succeeds. -/
theorem exists_methodDropped_mem_build_iff {i : String} :
    (∃ reason, .methodDropped i reason ∈ (c.build r package id selector decl).2) ↔
      i = id ∧ (c.build r package id selector decl).1 = none := by
  unfold build
  cases hrule : c.config?.bind (·.httpRule? selector) with
  | none => cases buildMethod r decl id package none <;> simp [dropped]
  | some rule =>
    cases hgiven : buildMethod r decl id package (some rule) with
    | ok m => simp [hgiven]
    | error e =>
      cases hown : buildMethod r decl id package none <;> simp [hgiven, dropped]

end Diagnostics

/-! ### Turns that are tried -/

/-- A method is tried for a turn that is enabled, if the service is registered and has no method of
    that id when the turn comes. -/
def IsTried (c : Composition) (r : Registry) (turns : List Turn) (t : Turn) : Prop :=
  c.plan.enabled.contains t.selector = true ∧ (∃ package, r.packageOf? t.serviceId = some package) ∧
    ∃ before, before ++ [t] <+: turns ∧ IsFree r (c.taken r before) t

section Tried

variable {c : Composition} {r : Registry}

/-- Whether a turn is tried among some turns and a last one, by those before the last one. -/
theorem isTried_append_singleton_iff {before : List Turn} {t t' : Turn} :
    c.IsTried r (before ++ [t]) t' ↔ c.IsTried r before t' ∨
      t' = t ∧ c.plan.enabled.contains t.selector = true ∧
        (∃ package, r.packageOf? t.serviceId = some package) ∧
        IsFree r (c.taken r before) t := by
  unfold IsTried
  constructor
  · rintro ⟨he, hp, earlier, hprefix, hfree⟩
    rcases List.prefix_concat_iff.1 hprefix with heq | hprefix
    · obtain ⟨rfl, ht⟩ := List.append_inj' heq rfl
      obtain rfl := List.singleton_inj.1 ht
      exact Or.inr ⟨rfl, he, hp, hfree⟩
    · exact Or.inl ⟨he, hp, earlier, hprefix, hfree⟩
  · rintro (⟨he, hp, earlier, hprefix, hfree⟩ | ⟨rfl, he, hp, hfree⟩)
    · exact ⟨he, hp, earlier, hprefix.trans (List.prefix_append _ _), hfree⟩
    · exact ⟨he, hp, before, List.prefix_refl _, hfree⟩

/-- A turn that is tried and gives a method is taken up. -/
theorem IsTried.mem_taken {turns : List Turn} {t : Turn} (h : c.IsTried r turns t) {m : Method}
    (hm : c.made? r t = some m) : t ∈ c.taken r turns := by
  obtain ⟨-, -, before, hprefix, hfree⟩ := h
  refine (c.taken_isPrefix r hprefix).subset ?_
  rw [taken_append_singleton, if_pos ⟨Option.isSome_iff_exists.2 ⟨m, hm⟩, hfree⟩]
  exact List.mem_append_right _ (List.mem_singleton.2 rfl)

/-- What a turn reports depends on the types and on the package of the service. -/
theorem reports_congr {s : Registry} (h : r.SameTypes s) {t : Turn}
    (hp : r.packageOf? t.serviceId = s.packageOf? t.serviceId) : c.reports r t = c.reports s t := by
  unfold reports
  simp only [hp, c.build_congr h]

/-- A turn has diagnostics only if it is enabled and its service is registered. -/
theorem mem_reports_iff {t : Turn} {d : Diagnostic} : d ∈ c.reports r t ↔
    c.plan.enabled.contains t.selector = true ∧ ∃ package, r.packageOf? t.serviceId = some package ∧
      d ∈ (c.build r package t.id t.selector t.offer.decl).2 := by
  unfold reports
  cases r.packageOf? t.serviceId with
  | none => simp
  | some package => cases c.plan.enabled.contains t.selector <;> simp

/-- What one more turn can report. -/
theorem exists_isTried_append_singleton_iff {before : List Turn} {t : Turn} {d : Diagnostic} :
    (∃ t', c.IsTried r (before ++ [t]) t' ∧ d ∈ c.reports r t') ↔
      (∃ t', c.IsTried r before t' ∧ d ∈ c.reports r t') ∨ IsFree r (c.taken r before) t ∧
      d ∈ c.reports r t := by
  constructor
  · rintro ⟨t', ht', hd⟩
    rcases isTried_append_singleton_iff.1 ht' with ht' | ⟨rfl, -, -, hfree⟩
    · exact .inl ⟨t', ht', hd⟩
    · exact .inr ⟨hfree, hd⟩
  · rintro (⟨t', ht', hd⟩ | ⟨hfree, hd⟩)
    · exact ⟨t', isTried_append_singleton_iff.2 (.inl ht'), hd⟩
    · obtain ⟨he, package, hp, -⟩ := mem_reports_iff.1 hd
      exact ⟨t, isTried_append_singleton_iff.2 (.inr ⟨rfl, he, ⟨package, hp⟩, hfree⟩), hd⟩

/-- All diagnostics are those of turns that a method is tried for. -/
theorem diagnostics_foldl_turn (c : Composition) (ctx : Context) (turns : List Turn) :
    ∃ reported, (turns.foldl c.turn ctx).diagnostics = ctx.diagnostics ++ reported ∧
      ∀ d, d ∈ reported ↔ ∃ t, c.IsTried ctx.registry turns t ∧ d ∈ c.reports ctx.registry t := by
  induction turns using List.reverseRecOn with
  | nil =>
    refine ⟨[], (List.append_nil _).symm, fun d => ⟨fun h => absurd h List.not_mem_nil, ?_⟩⟩
    rintro ⟨t, ⟨-, -, before, hprefix, -⟩, -⟩
    exact absurd (List.prefix_nil.1 hprefix)
      (List.append_ne_nil_of_right_ne_nil _ (List.cons_ne_nil _ _))
  | append_singleton before t ih =>
    obtain ⟨reported, hreported, hmem⟩ := ih
    have hadds := c.adds_foldl_turn ctx before
    have hsame := reports_congr (c := c) (t := t) hadds.types (hadds.packages t.serviceId)
    rw [List.foldl_append, List.foldl_cons, List.foldl_nil, turn_eq]
    by_cases hfree : IsFree ctx.registry (c.taken ctx.registry before) t
    · rw [(hadds.containsMethod_eq_false_iff t).2 hfree]
      refine ⟨reported ++ c.reports ctx.registry t, ?_, fun d => ?_⟩
      · rw [← List.append_assoc, ← hreported, ← hsame]
        rfl
      · rw [List.mem_append, hmem, exists_isTried_append_singleton_iff, and_iff_right hfree]
    · -- The turn is passed over.
      have hregistered : (before.foldl c.turn ctx).registry.containsMethod t.id = true := by
        rw [← Bool.not_eq_false]
        exact fun h => hfree ((hadds.containsMethod_eq_false_iff t).1 h)
      rw [if_pos hregistered]
      refine ⟨reported, hreported, fun d => ?_⟩
      rw [hmem, exists_isTried_append_singleton_iff, or_iff_left fun h => hfree h.1]

end Tried

/-! ### Composition -/

/-- What a composition reports of the turns that a method is tried for. -/
structure Reports (c : Composition) (serviceIds : List String) (ctx ctx' : Context)
    (reported : List Diagnostic) : Prop where
  diagnostics : ctx'.diagnostics = ctx.diagnostics ++ reported
  /-- The rule of a selector is blamed if it cannot be used, or if the declaration is at fault. -/
  invalidOverride_iff : ∀ selector, (∃ reason, .invalidOverride selector reason ∈ reported) ↔
    ∃ t rule, c.IsTried ctx.registry (c.turns serviceIds) t ∧ t.selector = selector ∧
      c.rule? selector = some rule ∧
      (¬ rule.IsUsable ∨ ¬ t.offer.decl.IsSound ctx.registry)
  /-- The method that is composed in spite of such a rule is the one of its own annotation. -/
  own : ∀ t rule m, c.IsTried ctx.registry (c.turns serviceIds) t → c.rule? t.selector = some rule →
    ¬ rule.IsUsable → c.made? ctx.registry t = some m →
      ctx'.registry.method? t.id = some m ∧ ∃ method, attempt ctx.registry t none = some method ∧
        { method with hostOverride := hostOverride? c.config? t.selector } = m
  /-- A declaration that is at fault gives no method. -/
  unsound : ∀ t, ¬ t.offer.decl.IsSound ctx.registry → c.made? ctx.registry t = none
  /-- A method is reported as dropped if its turn gives none. -/
  methodDropped_iff : ∀ id, (∃ reason, .methodDropped id reason ∈ reported) ↔
    ∃ t, c.IsTried ctx.registry (c.turns serviceIds) t ∧ t.id = id ∧ c.made? ctx.registry t = none

section Reports

variable {c : Composition} {r : Registry}

/-- A turn whose declaration is at fault gives no method, with whatever rule. -/
theorem made?_eq_none_of_not_isSound {t : Turn} (h : ¬ t.offer.decl.IsSound r) :
    c.made? r t = none := by
  rw [← Option.not_isSome_iff_eq_none, Option.isSome_iff_exists]
  rintro ⟨m, hm⟩
  obtain ⟨rule?, method, hattempt, -⟩ := exists_attempt_of_made? hm
  obtain ⟨package, -, hbuild⟩ := exists_buildMethod_of_attempt hattempt
  exact h (isSound_of_buildMethod hbuild)

/-- A rule that cannot be used has no part in the method. -/
theorem attempt_eq_none_of_not_isUsable {t : Turn} {rule : HttpRule} (h : ¬ rule.IsUsable) :
    attempt r t (some rule) = none := by
  rw [← Option.not_isSome_iff_eq_none, Option.isSome_iff_exists]
  rintro ⟨m, hm⟩
  obtain ⟨package, -, hbuild⟩ := exists_buildMethod_of_attempt hm
  exact h (exists_buildMethod_some_iff.1 ⟨m, hbuild⟩).1

/-- Where the rule cannot be used, a method is built with the annotation of its declaration or not
    at all. -/
theorem made?_of_not_isUsable {t : Turn} {rule : HttpRule} (hrule : c.rule? t.selector = some rule)
    (h : ¬ rule.IsUsable) {m : Method} (hm : c.made? r t = some m) :
    ∃ method, attempt r t none = some method ∧
      { method with hostOverride := hostOverride? c.config? t.selector } = m := by
  unfold made? at hm
  split at hm
  · rw [hrule, Option.bind_some, attempt_eq_none_of_not_isUsable h, Option.none_or] at hm
    exact Option.map_eq_some_iff.1 hm
  · nomatch hm

/-- A turn that is tried blames its rule if the rule or the declaration is not as it should be. -/
theorem exists_invalidOverride_mem_reports_iff {turns : List Turn} {t : Turn}
    (ht : c.IsTried r turns t) {selector : String} :
    (∃ reason, .invalidOverride selector reason ∈ c.reports r t) ↔
      ∃ rule, t.selector = selector ∧ c.rule? selector = some rule ∧
        (¬ rule.IsUsable ∨ ¬ t.offer.decl.IsSound r) := by
  obtain ⟨he, ⟨package, hp⟩, -⟩ := ht
  constructor
  · rintro ⟨reason, h⟩
    obtain ⟨-, package', -, h⟩ := mem_reports_iff.1 h
    obtain ⟨rfl, rule, e, hrule, hb, -⟩ := invalidOverride_mem_build_iff.1 h
    refine ⟨rule, rfl, hrule, ?_⟩
    -- A usable rule and a sound declaration would have given a method.
    refine not_and_or.1 fun h => ?_
    obtain ⟨m, hm⟩ := exists_buildMethod_some_iff.2 h
    rw [hm] at hb
    nomatch hb
  · rintro ⟨rule, rfl, hrule, hfault⟩
    cases hb : buildMethod r t.offer.decl t.id package (some rule) with
    | ok m => exact absurd (exists_buildMethod_some_iff.1 ⟨m, hb⟩) (not_and_or.2 hfault)
    | error e =>
      exact ⟨e.message, mem_reports_iff.2 ⟨he, package, hp,
        invalidOverride_mem_build_iff.2 ⟨rfl, rule, e, hrule, hb, rfl⟩⟩⟩

/-- A turn that is tried drops its method if it gives none. -/
theorem exists_methodDropped_mem_reports_iff {turns : List Turn} {t : Turn}
    (ht : c.IsTried r turns t) {id : String} :
    (∃ reason, .methodDropped id reason ∈ c.reports r t) ↔ t.id = id ∧ c.made? r t = none := by
  obtain ⟨he, ⟨package, hp⟩, -⟩ := ht
  -- A turn that is tried has been enabled and has a package, so its build decides.
  have hmade : c.made? r t = none ↔ (c.build r package t.id t.selector t.offer.decl).1 = none := by
    unfold made? attempt
    simp only [hp, Option.bind_some]
    rw [if_pos he, Option.map_eq_none_iff, ← build_fst]
  rw [hmade]
  constructor
  · rintro ⟨reason, h⟩
    obtain ⟨-, package', hp', h⟩ := mem_reports_iff.1 h
    obtain rfl : package = package' := Option.some.inj (hp.symm.trans hp')
    obtain ⟨rfl, hnone⟩ := exists_methodDropped_mem_build_iff.1 ⟨reason, h⟩
    exact ⟨rfl, hnone⟩
  · rintro ⟨rfl, hnone⟩
    obtain ⟨reason, h⟩ := exists_methodDropped_mem_build_iff.2 ⟨rfl, hnone⟩
    exact ⟨reason, mem_reports_iff.2 ⟨he, package, hp, h⟩⟩

variable (c) in
/-- Composition blames a rule whenever the first attempt at a method fails, and it drops the method
    if the second one fails too. -/
theorem reports_compose (ctx : Context) (serviceIds : List String) :
    ∃ reported, c.Reports serviceIds ctx (c.compose ctx serviceIds) reported := by
  obtain ⟨reported, hreported, hmem⟩ := c.diagnostics_foldl_turn ctx (c.turns serviceIds)
  refine ⟨reported, ?_⟩
  constructor
  case diagnostics =>
    rw [compose_eq_foldl_turn]
    exact hreported
  case invalidOverride_iff =>
    intro selector
    constructor
    · rintro ⟨reason, h⟩
      obtain ⟨t, ht, h⟩ := (hmem _).1 h
      obtain ⟨rule, hselector, hrule, hfault⟩ :=
        (exists_invalidOverride_mem_reports_iff ht).1 ⟨reason, h⟩
      exact ⟨t, rule, ht, hselector, hrule, hfault⟩
    · rintro ⟨t, rule, ht, hselector, hrule, hfault⟩
      obtain ⟨reason, h⟩ :=
        (exists_invalidOverride_mem_reports_iff ht).2 ⟨rule, hselector, hrule, hfault⟩
      exact ⟨reason, (hmem _).2 ⟨t, ht, h⟩⟩
  -- The rule is at fault, so the method that is there is the one of the second attempt.
  case own =>
    intro t rule m ht hrule hfault hm
    refine ⟨?_, made?_of_not_isUsable hrule hfault hm⟩
    exact ((c.adds_compose ctx serviceIds).taken t (ht.mem_taken hm)).trans hm
  case unsound => exact fun t h => made?_eq_none_of_not_isSound h
  case methodDropped_iff =>
    intro id
    constructor
    · rintro ⟨reason, h⟩
      obtain ⟨t, ht, h⟩ := (hmem _).1 h
      exact ⟨t, ht, (exists_methodDropped_mem_reports_iff ht).1 ⟨reason, h⟩⟩
    · rintro ⟨t, ht, hdrop⟩
      obtain ⟨reason, h⟩ := (exists_methodDropped_mem_reports_iff ht).2 hdrop
      exact ⟨reason, (hmem _).2 ⟨t, ht, h⟩⟩

end Reports

end Composition

/-! ### A rule that is blamed without reason -/

/-- A service without methods of its own. -/
def depotsFile : FileDecl where
  name? := "depots.proto"
  package? := "depots"
  services := [{ name? := "Depots" }]

/-- A rule for a method of a mixin that can be used. -/
def depotsRule : HttpRule where
  selector := "google.cloud.location.Locations.GetLocation"
  get? := some "/v1/\x7bname=depots/*\x7d"

/-- A configuration with that rule, and a file of the mixin that declares the method but not its
    request. -/
def depotsComposition : Composition where
  plan := { mixins := [Mixin.locations], enabled := NameSet.ofNames [depotsRule.selector] }
  sources := [
    { name? := "google/cloud/location/locations.proto"
      package? := "google.cloud.location"
      messages := [{ name? := "Location" }]
      services := [
        { name? := "Locations"
          methods := [
            { name? := "GetLocation"
              inputType? := ".google.cloud.location.GetLocationRequest"
              outputType? := ".google.cloud.location.Location"
              options? := Mixin.bound [("get", .string "/v1/\x7bname=locations/*\x7d")] }] }] },
    depotsFile]
  config? := some { apis := ["google.cloud.location.Locations"], httpRules := [depotsRule] }

/-- The context of the build when the service is about to take over methods. -/
def depotsContext : Context :=
  depotsFile.services.foldl (processService depotsComposition.config? depotsFile)
    (registerTypes {} depotsComposition.sources).1

theorem isUsable_depotsRule : depotsRule.IsUsable := by
  obtain ⟨path, hpath⟩ : ∃ path, PathTemplate.parse "/v1/\x7bname=depots/*\x7d" = .ok path :=
    exists_eq_ok_of_isOk (by decide +kernel)
  exact ⟨.get, _, path, rfl, hpath⟩

/-- A rule that can be used may be reported as invalid, where the declaration of the method is at
    fault. -/
theorem exists_blamed_usable :
    ¬ ∀ (c : Composition) (ctx : Context) (serviceIds : List String) (selector : String),
      (∃ reason, .invalidOverride selector reason
        ∈ (c.compose ctx serviceIds).diagnostics.drop ctx.diagnostics.length) →
      ∃ rule, c.rule? selector = some rule ∧ ¬ rule.IsUsable := by
  intro h
  have hdiagnostics : (depotsComposition.compose depotsContext [".depots.Depots"]).diagnostics.drop
        depotsContext.diagnostics.length
      = [.invalidOverride "google.cloud.location.Locations.GetLocation"
          "unable to lookup type `.google.cloud.location.GetLocationRequest`",
        .methodDropped ".depots.Depots.GetLocation"
          "unable to lookup type `.google.cloud.location.GetLocationRequest`"] := by
    decide +kernel
  obtain ⟨rule, hrule, hfault⟩ := h depotsComposition depotsContext [".depots.Depots"] _
    ⟨_, hdiagnostics ▸ List.mem_cons_self⟩
  obtain rfl : depotsRule = rule := Option.some.inj hrule
  exact hfault isUsable_depotsRule

end ProtoApi
