import ProtoApi.Proofs.Build.Kept
import ProtoApi.Proofs.Build.Registered
import ProtoApi.Proofs.Build.Targets

namespace ProtoApi

/-!
# Services that can be asked for operations

Where a method of the files to generate starts an operation, a client has to be able to ask any
service of the model for it, also if neither the set nor the configuration says anything about that.

* `Mixin.getOperationDecl` — the method that asks for an operation, as the bundled mixin declares
  it; it can be built wherever its types are registered (`exists_buildMethod_getOperationDecl`);
* `DescriptorSet.StartsOperations` — sets and options with which an operation is started;
* `exists_loaded`, `getOperationOffer_mem_offers`, `eq_getOperationOffer_of_mem_offers` — the files
  of the mixin are loaded, and no other mixin offers a method of that name;
* `Service.Asks` — a service with the method, its own one or that of the mixin;
* `asks_of_buildApi` — so it is for all services of a model.
-/

/-- A rule whose path template can be read can be bound whatever the request is. -/
theorem HttpRule.exists_binding {r : HttpRule} {verb : HttpVerb} {template : String}
    {path : List PathSegment} (hpattern : r.pattern = .ok (verb, template))
    (hparse : PathTemplate.parse template = .ok path) (input : Message) :
    ∃ binding, r.binding input = .ok binding := by
  unfold binding
  rw [hpattern]
  simp only [bind, Except.bind, hparse]
  exact ⟨_, rfl⟩

/-! ### The bundled method -/

namespace Mixin

/-- The declaration of the method that asks for an operation. -/
def getOperationDecl : MethodDecl where
  name? := "GetOperation"
  inputType? := ".google.longrunning.GetOperationRequest"
  outputType? := operationType
  options? := bound [("get", .string "/v1/\x7bname=operations/**\x7d")]

/-- The mixin that declares the method offers it. -/
def getOperationOffer : Offer := { mixin := operations, decl := getOperationDecl }

theorem operationsFile_mem_bundledFiles : operationsFile ∈ bundledFiles := by
  simp [bundledFiles]

/-- No other bundled method has its name. -/
theorem eq_getOperationDecl_of_mem_bundledFiles {f : FileDecl} (hf : f ∈ bundledFiles)
    {s : ServiceDecl} (hs : s ∈ f.services) {d : MethodDecl} (hd : d ∈ s.methods)
    (hname : d.name = "GetOperation") : f = operationsFile ∧ d = getOperationDecl := by
  have hfile : ∀ f ∈ bundledFiles, ∀ s ∈ f.services, ∀ d ∈ s.methods, d.name = "GetOperation" →
      f.name = operationsFile.name := by
    decide
  obtain rfl := MixinPlan.eq_of_mem_bundledFiles hf operationsFile_mem_bundledFiles
    (hfile f hf s hs d hd hname)
  refine ⟨rfl, ?_⟩
  obtain rfl := List.mem_singleton.1 hs
  simp only [List.mem_cons, List.not_mem_nil, or_false] at hd
  rcases hd with rfl | rfl | rfl | rfl | rfl
  case inr.inl => rfl
  all_goals exact absurd hname (by decide)

/-- The method can be built wherever its types are registered. -/
theorem exists_buildMethod_getOperationDecl {r : Registry}
    (hin : r.messages.contains getOperationDecl.inputType = true)
    (hout : r.resolvesType operationType = true) (id package : String) :
    ∃ m, buildMethod r getOperationDecl id package none = .ok m := by
  have hrule : getOperationDecl.chosenRule none
      = .ok { get? := some "/v1/\x7bname=operations/**\x7d" } := rfl
  obtain ⟨input, hinput⟩ := Table.contains_eq_true_iff.1 hin
  have hpath : (PathTemplate.parse "/v1/\x7bname=operations/**\x7d").isOk = true := by
    decide +kernel
  cases hparse : PathTemplate.parse "/v1/\x7bname=operations/**\x7d" with
  | error e =>
    rw [hparse] at hpath
    nomatch hpath
  | ok path =>
    -- The rule can be bound whatever fields the request has.
    obtain ⟨binding, hbinding⟩ :=
      HttpRule.exists_binding (r := { get? := some "/v1/\x7bname=operations/**\x7d" })
      rfl hparse input
    exact ⟨_,
      buildMethod_eq_ok_iff.2 ⟨_, input, binding, [], hrule, hinput, hout, hbinding, rfl, rfl⟩⟩

end Mixin

/-! ### What is offered -/

/-- A set and options with which an operation is started, while neither the set nor the
    configuration says anything about the mixin for operations, and with services and methods that
    can be told apart. -/
structure DescriptorSet.StartsOperations (set : DescriptorSet) (options : BuildOptions)
    (targets : List FileDecl) : Prop where
  generated : set.targets options.files = .ok targets
  starts : ∃ f ∈ targets, ∃ s ∈ f.services, ∃ m ∈ s.methods, m.outputType = operationType
  bundled : options.bundledMixins = true
  absent : ∀ f ∈ set.files, f.name ≠ Mixin.operations.file
  /-- The copies of other mixins have no method of the same name. -/
  copies : ∀ f ∈ set.files, ∀ m ∈ Mixin.catalog, f.name = m.file → ∀ s ∈ f.services,
    ∀ d ∈ s.methods, d.name ≠ "GetOperation"
  rules : ∀ rule ∈ (options.config?.map (·.httpRules)).getD [], ∀ name : String, '.' ∉ name.toList →
    rule.selector ≠ Mixin.operations.selector name
  services : ((set.files.flatMap FileDecl.declaredServices).map (·.id)).Nodup
  methods : ∀ f ∈ set.files, ∀ s ∈ f.services, s.Plain

/-- A mixin joins the list it is added to. -/
theorem MixinPlan.mem_addMixin (mixins : List Mixin) (m : Mixin) : m ∈ addMixin mixins m := by
  unfold addMixin
  split
  · assumption
  · exact List.mem_append_right _ (List.mem_singleton.2 rfl)

namespace DescriptorSet.StartsOperations

variable {set : DescriptorSet} {options : BuildOptions} {targets : List FileDecl}
  (h : set.StartsOperations options targets)
include h

/-- The build finds that it starts operations. -/
theorem startsOperations_eq_true : startsOperations targets = true := by
  unfold ProtoApi.startsOperations
  simp only [List.any_eq_true, decide_eq_true_eq]
  exact h.starts

/-- The plan has the mixin for operations, and its file is there. -/
theorem exists_loaded : ∃ loaded : List FileDecl, (∀ f ∈ loaded, f ∈ Mixin.bundledFiles) ∧
    (set.preparation options targets).sources = set.files ++ loaded ∧
    Mixin.operations ∈ (set.preparation options targets).plan.mixins ∧
    MixinPlan.Carries set loaded Mixin.operations.file := by
  unfold preparation MixinPlan.load
  rw [h.startsOperations_eq_true, h.bundled]
  have hoperations : Mixin.operations ∈ (MixinPlan.make options.config? true).mixins := by
    rw [MixinPlan.mixins_make]
    exact MixinPlan.mem_addMixin _ _
  obtain ⟨loaded, hload, hcarries⟩ :=
    MixinPlan.loadFiles_bundled set [] (MixinPlan.make options.config? true).mixins
    fun m hm => MixinPlan.mem_catalog_of_mem_make hm
  rw [List.nil_append] at hload hcarries
  -- Nothing has been loaded before, so all that is loaded is bundled.
  have hbundled : ∀ f ∈ loaded, f ∈ Mixin.bundledFiles := by
    intro f hf
    have hmem :
        f ∈ (MixinPlan.loadFiles set true [] (MixinPlan.make options.config? true).mixins).1 := by
      rw [hload]
      exact hf
    exact MixinPlan.mem_bundledFiles_of_mem_loadFiles (fun _ hg => absurd hg List.not_mem_nil) hmem
  simp only [hload]
  exact ⟨loaded, hbundled, rfl, hoperations, hcarries _ hoperations _ (MixinPlan.file_mem_files _)⟩

/-- The file of the mixin is the bundled one. -/
theorem find?_sources :
    (set.preparation options targets).sources.find? (·.name = Mixin.operations.file)
    = some Mixin.operationsFile := by
  obtain ⟨loaded, hbundled, hsources, -, hcarries⟩ := h.exists_loaded
  have hset : set.findFile? Mixin.operationsFile.name = none :=
    List.find?_eq_none.2 fun f hf hname => h.absent f hf (of_decide_eq_true hname)
  rw [hsources]
  exact MixinPlan.find?_append_of_carries hbundled Mixin.operationsFile_mem_bundledFiles
    hset hcarries

/-- The mixin offers its method to all services. -/
theorem getOperationOffer_mem_offers :
    Mixin.getOperationOffer
      ∈ ((set.preparation options targets).composition options.config?).offers := by
  obtain ⟨-, -, -, hoperations, -⟩ := h.exists_loaded
  refine Composition.mem_offers_iff.2 ⟨hoperations, ?_⟩
  unfold Preparation.composition Mixin.service? Mixin.getOperationOffer
  simp only
  rw [h.find?_sources]
  refine ⟨_, rfl, ?_⟩
  simp [Mixin.getOperationDecl, operationType]

/-- No other mixin has a method of that name. -/
theorem eq_getOperationOffer_of_mem_offers {o : Offer}
    (ho : o ∈ ((set.preparation options targets).composition options.config?).offers)
    (hname : o.decl.name = "GetOperation") : o = Mixin.getOperationOffer := by
  obtain ⟨loaded, hbundled, hsources, -, -⟩ := h.exists_loaded
  obtain ⟨m, d⟩ := o
  obtain ⟨hm, s, hs, hd⟩ := Composition.mem_offers_iff.1 ho
  have hcatalog : m ∈ Mixin.catalog :=
    MixinPlan.mem_catalog_of_mem_make (MixinPlan.mem_of_mem_load hm)
  -- The mixin is declared in a file of the set or in a bundled one.
  obtain ⟨f, hf, hservice⟩ := Option.bind_eq_some_iff.1 hs
  have hfile : f.name = m.file :=
    of_decide_eq_true (List.find?_some (p := fun f : FileDecl => decide (f.name = m.file)) hf)
  have hmem : f ∈ set.files ++ loaded := hsources ▸ List.mem_of_find?_eq_some hf
  rcases List.mem_append.1 hmem with hmem | hmem
  · exact absurd hname
      (h.copies f hmem m hcatalog hfile s (List.mem_of_find?_eq_some hservice) d hd)
  · obtain ⟨rfl, rfl⟩ := Mixin.eq_getOperationDecl_of_mem_bundledFiles (hbundled f hmem)
      (List.mem_of_find?_eq_some hservice) hd hname
    have hmixin : ∀ m ∈ Mixin.catalog, Mixin.operationsFile.name = m.file →
        m = Mixin.operations := by decide
    obtain rfl := hmixin m hcatalog hfile
    rfl

/-- No rule of the configuration is for a method of the mixin. -/
theorem owns_eq_false {rule : HttpRule}
    (hrule : rule ∈ (options.config?.map (·.httpRules)).getD []) :
    Mixin.operations.owns rule.selector = false := by
  rw [Bool.eq_false_iff]
  intro howns
  obtain ⟨name, hname, hdot⟩ := Mixin.owns_eq_true_iff.1 howns
  exact h.rules rule hrule name hdot hname

/-- So the method that asks for an operation is enabled, although the configuration does not name
    it. -/
theorem contains_enabled :
    (set.preparation options targets).plan.enabled.contains Mixin.getOperationOffer.selector
      = true := by
  refine MixinPlan.contains_enabled_make.2 (Or.inr ⟨rfl, h.startsOperations_eq_true, ?_⟩)
  rw [List.any_eq_false]
  intro selector hselector howns
  obtain ⟨rule, hrule, rfl⟩ := List.mem_map.1 (List.mem_filter.1 hselector).1
  exact Bool.false_ne_true ((h.owns_eq_false hrule).symm.trans howns)

/-- The configuration has no rule for it either, so that its own annotation is used. -/
theorem httpRule?_eq_none :
    options.config?.bind (·.httpRule? Mixin.getOperationOffer.selector) = none := by
  rw [Option.bind_eq_none_iff]
  intro config hconfig
  refine List.find?_eq_none.2 fun rule hrule hselector => ?_
  have howns : Mixin.operations.owns rule.selector = true := by
    rw [of_decide_eq_true hselector]
    decide
  refine Bool.false_ne_true ((h.owns_eq_false ?_).symm.trans howns)
  rw [hconfig]
  exact hrule

/-- The messages of the mixin are registered. -/
theorem contains_messages {ctx ctx' : Context}
    (hregister : registerTypes ctx (set.preparation options targets).sources = (ctx', none))
    {id : String} (hid : id ∈ Mixin.operationsFile.declaredMessages.map (·.id)) :
    ctx'.registry.messages.contains id = true := by
  have hfile := List.mem_of_find?_eq_some h.find?_sources
  obtain ⟨d, hd, rfl⟩ := List.mem_map.1 hid
  rw [contains_messages_registerTypes hregister, Bool.or_eq_true]
  exact Or.inl (List.any_eq_true.2 ⟨d, List.mem_flatMap.2 ⟨_, hfile, hd⟩, decide_eq_true rfl⟩)

/-- A service that has no method of that name takes over that of the mixin. -/
theorem exists_mem_additions {r : Registry}
    (hin : r.messages.contains Mixin.getOperationDecl.inputType = true)
    (hout : r.messages.contains operationType = true) {serviceId : String} {s : Service}
    (hs : r.service? serviceId = some s)
    (hfree : r.containsMethod (childId serviceId "GetOperation") = false) :
    ∃ m ∈ (((set.preparation options targets).composition options.config?).additions r serviceId).1,
      m.id = childId serviceId "GetOperation" ∧ m.inputType = Mixin.getOperationDecl.inputType ∧
        m.outputType = operationType := by
  have hresolves : r.resolvesType operationType = true := by
    unfold Registry.resolvesType
    rw [hout, Bool.true_or]
  obtain ⟨m, hm⟩ :=
    Mixin.exists_buildMethod_getOperationDecl hin hresolves
      (childId serviceId "GetOperation") s.package
  -- No rule of the configuration stands in the way of the mixin's own one.
  have hbuild : (((set.preparation options targets).composition options.config?).build r s.package
      (childId serviceId "GetOperation") Mixin.getOperationOffer.selector Mixin.getOperationDecl).1
        = some m := by
    unfold Preparation.composition Composition.build
    simp only
    rw [h.httpRule?_eq_none, hm]
  have houtcome := (Composition.outcome_eq_some_iff _ (o := Mixin.getOperationOffer)).2
    ⟨h.contains_enabled, hfree, m, hbuild, rfl⟩
  refine ⟨_, ?_, Composition.id_of_outcome _ houtcome, ?_⟩
  · unfold Composition.additions
    rw [hs]
    exact Composition.mem_outcomes_of_only _ h.getOperationOffer_mem_offers
      (fun o ho hname => h.eq_getOperationOffer_of_mem_offers ho hname) houtcome
  · obtain ⟨-, -, -, -, -, -, -, -, -, rfl⟩ := buildMethod_eq_ok_iff.1 hm
    exact ⟨rfl, rfl⟩

/-- The services to generate have different ids. -/
theorem nodup_services : ((targets.flatMap FileDecl.declaredServices).map (·.id)).Nodup :=
  nodup_flatMap_targets h.services h.generated

theorem plain : ∀ d ∈ targets.flatMap FileDecl.declaredServices, d.decl.Plain :=
  plain_of_mem_declaredServices fun f hf => h.methods f (targets_subset h.generated hf)

/-- So does each service of a build, once all of them have been registered. -/
theorem exists_mem_additions_included {ctx : Context}
    (hregister : registerTypes { diagnostics := (set.preparation options targets).unavailable }
      (set.preparation options targets).sources = (ctx, none)) {d : DeclaredService}
    (hd : d ∈ targets.flatMap FileDecl.declaredServices)
    (hnone : ∀ n ∈ d.methods options.config? ctx.registry, n.id ≠ childId d.id "GetOperation") :
    ∃ m ∈ (((set.preparation options targets).composition options.config?).additions
        ((set.preparation options targets).included options.config? ctx).registry d.id).1,
      m.id = childId d.id "GetOperation" ∧ m.inputType = Mixin.getOperationDecl.inputType ∧
        m.outputType = operationType := by
  have hin : ctx.registry.messages.contains Mixin.getOperationDecl.inputType = true :=
    h.contains_messages hregister (by decide)
  have hout : ctx.registry.messages.contains operationType = true :=
    h.contains_messages hregister (by decide)
  refine h.exists_mem_additions hin hout
    (r := (ctx.withServices options.config? ctx.registry
      (targets.flatMap FileDecl.declaredServices)).registry)
    (service?_withServices h.nodup_services hd ctx) ?_
  rw [Bool.eq_false_iff]
  intro hcontains
  obtain ⟨n, hn, hid⟩ := (containsMethod_withServices h.nodup_services h.plain hd (by decide)
    (methods_registerTypes hregister)).1 hcontains
  exact hnone n hn hid

end DescriptorSet.StartsOperations

/-! ### Services of a model -/

/-- How a service has come to a method, where `native` are the methods of its own that could be
    built. -/
inductive Service.Origin (s : Service) (native : List Method) (m : Method) : Prop where
  /-- It is one of these. -/
  | own (n : Method) (mem : n ∈ native) (keeps : n.Keeps m)
  /-- It is none of these, but that of the mixin, and it is listed behind them. -/
  | mixin (taken : List String) (not_own : m.id ∉ native.map (·.id)) (methods : s.methods
      = native.map (·.id) ++ taken)
      (mem : m.id ∈ taken) (inputType : m.inputType = ".google.longrunning.GetOperationRequest")
      (outputType : m.outputType = operationType)

/-- A service that lists the method by which it is asked for operations, once. -/
structure Service.Asks (s : Service) (r : Registry) (native : List Method) (m : Method) : Prop where
  id : m.id = childId s.id "GetOperation"
  registered : r.method? m.id = some m
  once : s.methods.count m.id = 1
  origin : s.Origin native m

/-- Later phases take no service its method. -/
theorem Service.Asks.keeps {s s' : Service} {r r' : Registry} {native : List Method} {m : Method}
    (h : s.Asks r native m) (hs : s.Keeps s') (hr : r.Keeps r') : ∃ m', s'.Asks r' native m' := by
  obtain ⟨m', hm', hkeeps⟩ := hr.method h.registered
  have hid := hkeeps.id_eq
  have hmethods := hs.methods_eq
  refine ⟨m', ?_, ?_, ?_, ?_⟩
  · rw [hid, h.id, hs.id_eq]
  · rw [hid]
    exact hm'
  · rw [hid, hmethods]
    exact h.once
  · -- The later phases keep ids and types, and these are all that the origin speaks of.
    cases h.origin with
    | own n mem keeps => exact .own n mem (keeps.trans hkeeps)
    | mixin taken not_own methods mem inputType outputType =>
      refine .mixin taken ?_ (hmethods.trans methods) ?_ (hkeeps.inputType_eq.trans inputType)
        (hkeeps.outputType_eq.trans outputType)
      · rw [hid]
        exact not_own
      · rw [hid]
        exact mem

/-- A service whose own methods are registered can be asked after composition, if it takes the
    method over unless it has it. -/
theorem Composition.exists_asks {c : Composition} (hd : c.Dotless) {ctx : Context}
    {serviceIds : List String} (hn : serviceIds.Nodup) {id : String} (hid : id ∈ serviceIds)
    {s : Service} (hs : ctx.registry.service? id = some s) (hsid : s.id = id) {native : List Method}
    (hmethods : s.methods = native.map (·.id)) (hnative : (native.map (·.id)).Nodup)
    (hregistered : ∀ n ∈ native, ctx.registry.method? n.id = some n)
    (htaken : (∀ n ∈ native, n.id ≠ childId id "GetOperation") →
      ∃ m ∈ (c.additions ctx.registry id).1, m.id = childId id "GetOperation" ∧
      m.inputType = Mixin.getOperationDecl.inputType ∧ m.outputType = operationType) :
    ∃ s' m, (c.compose ctx serviceIds).registry.service? id = some s' ∧ s'.id = id ∧
      s'.Asks (c.compose ctx serviceIds).registry native m := by
  rw [c.compose_eq hd hn fun _ _ => rfl]
  have hcontains : ∀ id ∈ native.map (·.id), ctx.registry.containsMethod id = true := by
    intro id hmem
    obtain ⟨n, hn, rfl⟩ := List.mem_map.1 hmem
    exact Table.contains_eq_true_iff.2 ⟨n, hregistered n hn⟩
  have hextended : (s.extended (c.additions ctx.registry id).1).methods
      = native.map (·.id) ++ (c.additions ctx.registry id).1.map (·.id) := by
    unfold Service.extended
    rw [hmethods]
  -- Each id is listed once, be it one of the service's own or one that is added.
  have hnodup : (s.extended (c.additions ctx.registry id).1).methods.Nodup := by
    rw [hextended]
    exact nodup_append_additions hnative hcontains id
  refine ⟨s.extended (c.additions ctx.registry id).1, ?_⟩
  rw [service?_composed hn hid, hs]
  -- A service that declares the method itself keeps it, and the mixin's one is passed over.
  by_cases hown : ∃ n ∈ native, n.id = childId id "GetOperation"
  · obtain ⟨n, hmem, hnid⟩ := hown
    refine ⟨n, rfl, hsid, hsid ▸ hnid, method?_composed (hregistered n hmem),
      List.count_eq_one_of_mem hnodup ?_, .own n hmem (.refl n)⟩
    rw [hextended]
    exact List.mem_append_left _ (List.mem_map_of_mem hmem)
  · have hnone : ∀ n ∈ native, n.id ≠ childId id "GetOperation" :=
      fun n hmem hnid => hown ⟨n, hmem, hnid⟩
    obtain ⟨m, hmem, hmid, hin, hout⟩ := htaken hnone
    have hlisted : m.id ∈ (c.additions ctx.registry id).1.map (·.id) := List.mem_map_of_mem hmem
    refine ⟨m, rfl, hsid, hsid ▸ hmid, method?_composed_of_mem hd hn hid hmem,
      List.count_eq_one_of_mem hnodup ?_, .mixin _ (fun hown => ?_) hextended hlisted hin hout⟩
    · rw [hextended]
      exact List.mem_append_right _ hlisted
    · obtain ⟨n, hmem, hnid⟩ := List.mem_map.1 hown
      exact hnone n hmem (hnid.trans hmid)

/-- All services of a model can be asked for operations if any of its methods starts one. -/
theorem asks_of_buildApi {set : DescriptorSet} {options : BuildOptions} {targets : List FileDecl}
    (h : set.StartsOperations options targets) {b : ApiBuild} (hb : buildApi set options = .ok b) :
    ∀ id ∈ b.api.services, ∃ d ∈ targets.flatMap FileDecl.declaredServices, d.id = id ∧
      ∃ s m, b.api.registry.service? id = some s ∧ s.id = id ∧
        s.Asks b.api.registry
          (d.methods options.config? (set.preparation options targets).registered) m := by
  obtain ⟨targets', ctx, ht, hregister, -, rfl⟩ := buildApi_eq_ok_iff.1 hb
  obtain rfl : targets = targets' := Except.ok.inj (h.generated.symm.trans ht)
  intro id hid
  simp only at hid ⊢
  have hregistered : (set.preparation options targets).registered = ctx.registry := by
    unfold Preparation.registered
    rw [hregister]
  have hservices : ((set.preparation options targets).model options.config? ctx).services
      = (targets.flatMap FileDecl.declaredServices).map (·.id) := Api.services_annotate _ _ _
  rw [hservices] at hid
  obtain ⟨d, hd, rfl⟩ := List.mem_map.1 hid
  refine ⟨d, hd, rfl, ?_⟩
  -- Where all services of the build are registered, this one has the methods of its own that could
  -- be built.
  have hservice :
      ((set.preparation options targets).included options.config? ctx).registry.service? d.id
      = some (d.entity options.config? ctx.registry) :=
        service?_withServices h.nodup_services hd ctx
  have hmethods : ∀ n ∈ d.methods options.config? ctx.registry,
      ((set.preparation options targets).included options.config? ctx).registry.method? n.id
        = some n :=
    fun n hn => method?_withServices h.nodup_services h.plain hd hn ctx
  obtain ⟨s, m, hs, hsid, hasks⟩ :=
    Composition.exists_asks (set.preparation_dotless options targets) h.nodup_services
    hid hservice rfl rfl (nodup_nativeMethods (h.plain d hd).nodup) hmethods
    (h.exists_mem_additions_included hregister hd)
  -- The phases after composition leave all that as it is.
  have hkeeps := (set.preparation options targets).keeps_model options.config? ctx
  obtain ⟨s', hs', hskeeps⟩ := hkeeps.service hs
  obtain ⟨m', hasks'⟩ := hasks.keeps hskeeps hkeeps
  rw [hregistered]
  exact ⟨s', m', hs', hskeeps.id_eq.trans hsid, hasks'⟩

/-- A file whose first service starts operations. The second one has a method of its own by which
    one asks for them. -/
def exportsFile : FileDecl where
  name? := "exports.proto"
  package? := "exports"
  services := [
    { name? := "Exports"
      methods := [
        { name? := "Start"
          inputType? := ".exports.Request"
          outputType? := operationType
          options? := Mixin.bound [("post", .string "/v1/exports")] }] },
    { name? := "Jobs"
      methods := [
        { name? := "GetOperation"
          inputType? := ".exports.Request"
          outputType? := operationType
          options? := Mixin.bound [("get", .string "/v1/jobs")] }] }]

/-- The file with the requests of both services, and a request for the other file. -/
def exportsSet : DescriptorSet where
  files :=
      [{ name? := "request.proto", package? := "exports", messages := [{ name? := "Request" }] },
        exportsFile]

def exportsRequest : BuildOptions where
  files := ["exports.proto"]

/-- What the build ends with. -/
def exportsModel : ApiBuild := exportsSet.outcome exportsRequest [exportsFile]

/-- The build succeeds, since there are no messages to generate. -/
theorem buildApi_exportsSet : buildApi exportsSet exportsRequest = .ok exportsModel := by
  have htargets : exportsSet.targets exportsRequest.files = .ok [exportsFile] := rfl
  exact buildApi_of_no_messages htargets (by decide +kernel) (by simp [exportsFile])

/-- Both services can be asked for operations. -/
theorem exportsModel_asks :
    exportsSet.StartsOperations exportsRequest [exportsFile] ∧
      buildApi exportsSet exportsRequest = .ok exportsModel ∧
      exportsModel.api.services = [".exports.Exports", ".exports.Jobs"] ∧
      ∀ id ∈ exportsModel.api.services, ∃ d ∈ [exportsFile].flatMap FileDecl.declaredServices,
        d.id = id ∧
        ∃ s m, exportsModel.api.registry.service? id = some s ∧ s.id = id ∧
          s.Asks exportsModel.api.registry
            (d.methods none (exportsSet.preparation exportsRequest [exportsFile]).registered)
              m := by
  have hplain : ∀ f ∈ exportsSet.files, ∀ s ∈ f.services, s.Plain := by
    intro f hf s hs
    simp only [exportsSet, List.mem_cons, List.not_mem_nil, or_false] at hf
    rcases hf with rfl | rfl
    · nomatch hs
    · simp only [exportsFile, List.mem_cons, List.not_mem_nil, or_false] at hs
      rcases hs with rfl | rfl
      all_goals exact ⟨by decide, by decide⟩
  have h : exportsSet.StartsOperations exportsRequest [exportsFile] :=
    { generated := rfl
      starts :=
        ⟨exportsFile, List.mem_singleton.2 rfl, _, List.mem_cons_self, _, List.mem_cons_self, rfl⟩
      bundled := rfl
      absent := by decide
      copies := by decide
      rules := fun rule hrule => absurd hrule List.not_mem_nil
      services := by decide
      methods := hplain }
  exact ⟨h, buildApi_exportsSet, Api.services_annotate _ _ _,
    asks_of_buildApi h buildApi_exportsSet⟩

end ProtoApi
