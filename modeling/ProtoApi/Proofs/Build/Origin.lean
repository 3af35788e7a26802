import ProtoApi.Proofs.Build.AutoPopulation
import ProtoApi.Proofs.Build.Kept
import ProtoApi.Proofs.Build.Pagination
import ProtoApi.Proofs.Build.Registered
import ProtoApi.Proofs.Mixin.Growth

namespace ProtoApi

/-!
# Where the methods of a model come from

The services to generate declare methods, and they take over methods of mixins. No other phase
registers any.

* `Preparation.natives`, `Preparation.composed` — the methods that are declared, as far as they can
  be built, and the context once mixin methods have been taken over as well;
* `mem_natives_or_takenFrom` — all methods of that context are of the two sorts, and
  `mem_natives_or_dropped` says what has become of each declaration;
* `method?_model` — what the phases behind it make of a method;
* `Method.BuiltFrom`, `Preparation.Declares`, `exists_builtFrom_of_model` — so that each method of a
  model is what some declaration gives in some package;
* `diagnostics_composed_kept`, `diagnostics_included_kept`, `unavailable_kept` — no diagnostic is
  lost on the way.
-/

/-! ### Native methods and those of mixins -/

namespace Preparation

variable (p : Preparation) (config? : Option ServiceConfig) (ctx : Context)

/-- The methods that the services to generate declare, as far as they can be built. -/
def natives : List Method :=
  (p.targets.flatMap FileDecl.declaredServices).flatMap (·.methods config? p.registered)

/-- The context once mixin methods have been taken over, where registration has ended with `ctx`. -/
def composed : Context :=
  (p.composition config?).compose (p.included config? ctx) (p.listed config? ctx).services

/-- What the phases after composition make of a method: they write its documentation, and they mark
    it. -/
theorem method?_model (id : String) :
    (p.model config? ctx).registry.method? id
      = ((p.composed config? ctx).registry.method? id).map fun m =>
        { m with
          documentation :=
            latestDocumentation (p.targets.flatMap (·.documented)) (.method id) m.documentation
          pageable := m.pageable ||
            (p.finished config? ctx).registry.pageableMethods.any (·.method = id) } := by
  -- File by file or all at once, the comments are written in the same order.
  have hfinished : (p.finished config? ctx).registry
      = (p.composed config? ctx).registry.withDocumentation (p.targets.flatMap (·.documented)) := by
    show (p.targets.foldl attachComments (p.composed config? ctx)).registry = _
    rw [foldl_attachComments_eq]
    unfold Registry.withDocumentation
    rw [List.foldl_flatMap]
  unfold model
  rw [Api.registry_annotate, Registry.method?_markAutoPopulated, Registry.method?_markPageable]
  simp only
  rw [hfinished, Registry.method?_withDocumentation, Option.map_map]
  congr 1
  funext m
  simp only [Function.comp_apply, foldl_onMethod]

/-- The model has the methods that are there once mixin methods have been taken over. -/
theorem containsMethod_model (id : String) :
    (p.model config? ctx).registry.containsMethod id
      = (p.composed config? ctx).registry.containsMethod id := by
  have hlookup := congrArg Option.isSome (p.method?_model config? ctx id)
  rw [Option.isSome_map] at hlookup
  exact hlookup

/-- The services that the model lists are registered before mixin methods are taken over. -/
theorem exists_packageOf?_included {id : String} (hid : id ∈ (p.listed config? ctx).services) :
    ∃ package, (p.included config? ctx).registry.packageOf? id = some package := by
  obtain ⟨d, hd, hdid⟩ := List.mem_map.1 hid
  have hcontains : (p.included config? ctx).registry.services.contains id = true := by
    refine (Table.contains_foldl_insert _ _ _ _ _).trans ?_
    rw [Bool.or_eq_true]
    exact Or.inl (List.any_eq_true.2 ⟨d, hd, decide_eq_true hdid⟩)
  obtain ⟨s, hs⟩ := Table.contains_eq_true_iff.1 hcontains
  exact ⟨s.package, Registry.packageOf?_of_service? hs⟩

/-- Diagnostics from before the comments are attached are there in the end. -/
theorem diagnostics_composed_kept :
    (p.composed config? ctx).diagnostics <+: (p.finished config? ctx).diagnostics := by
  show _ <+: (p.targets.foldl attachComments (p.composed config? ctx)).diagnostics
  rw [foldl_attachComments_eq]
  exact List.prefix_append _ _

/-- So are those from before mixin methods are taken over. -/
theorem diagnostics_included_kept :
    (p.included config? ctx).diagnostics <+: (p.finished config? ctx).diagnostics :=
  ((p.composition config?).grows_compose _ _).diagnostics.trans
    (p.diagnostics_composed_kept config? ctx)

section Registered

variable {p config? ctx}
variable (h : registerTypes { diagnostics := p.unavailable } p.sources = (ctx, none))
include h

/-- What is registered is the registry that registration has ended with. -/
theorem registered_eq : p.registered = ctx.registry := by
  unfold registered
  rw [h]

/-- Mixins that are not available are reported in the end. -/
theorem unavailable_kept : p.unavailable <+: (p.finished config? ctx).diagnostics := by
  have hincluded : ctx.diagnostics <+: (p.included config? ctx).diagnostics :=
    List.prefix_append _ _
  exact ((diagnostics_registerTypes_kept h).trans hincluded).trans
    (p.diagnostics_included_kept config? ctx)

/-- Until mixin methods are taken over, all methods are declared. -/
theorem mem_natives_of_included {id : String} {m : Method}
    (hm : (p.included config? ctx).registry.method? id = some m) :
    m ∈ p.natives config? ∧ m.id = id := by
  rcases Table.get?_foldl_insert_eq_some hm with ⟨n, hn, hid, rfl⟩ | hm
  · unfold natives
    rw [registered_eq h]
    exact ⟨hn, hid⟩
  · rw [methods_registerTypes h] at hm
    nomatch hm

/-- A service is in the package of a file that declares it. -/
theorem exists_of_packageOf?_included {id package : String}
    (hp : (p.included config? ctx).registry.packageOf? id = some package) :
    ∃ d ∈ p.targets.flatMap FileDecl.declaredServices, d.id = id ∧ d.package = package := by
  obtain ⟨s, hs, rfl⟩ := Option.map_eq_some_iff.1 hp
  rcases Table.get?_foldl_insert_eq_some hs with ⟨d, hd, hid, rfl⟩ | hs
  · exact ⟨d, hd, hid, rfl⟩
  · rw [services_registerTypes h] at hs
    nomatch hs

variable (config?) in
/-- A declared method is one of them, or it is reported as dropped. -/
theorem mem_natives_or_dropped {d : DeclaredService}
    (hd : d ∈ p.targets.flatMap FileDecl.declaredServices) {decl : MethodDecl}
    (hdecl : decl ∈ d.decl.methods) :
    (∃ m ∈ p.natives config?, m.id = childId d.id decl.name) ∨
      ∃ reason, .methodDropped (childId d.id decl.name) reason
        ∈ (p.included config? ctx).diagnostics := by
  cases hn : decl.native config? ctx.registry d.package d.id with
  | ok m =>
    have hmem : m ∈ d.methods config? ctx.registry :=
      List.mem_filterMap.2 ⟨decl, hdecl, by rw [hn]; rfl⟩
    refine Or.inl ⟨m, ?_, id_of_native hn⟩
    unfold natives
    rw [registered_eq h]
    exact List.mem_flatMap.2 ⟨d, hd, hmem⟩
  | error e =>
    have hmem : dropped (childId d.id decl.name) e ∈ d.drops config? ctx.registry :=
      List.mem_filterMap.2 ⟨decl, hdecl, by rw [hn]⟩
    obtain ⟨f, hf, hd⟩ := List.mem_flatMap.1 hd
    have hreports : dropped (childId d.id decl.name) e ∈ f.reports config? ctx.registry :=
      List.mem_append_right _ (List.mem_flatMap.2 ⟨d, hd, hmem⟩)
    exact Or.inr ⟨e.message, List.mem_append_right _ (List.mem_flatMap.2 ⟨f, hf, hreports⟩)⟩

/-- Once mixin methods have been taken over, each method is a declared one, or one of them. -/
theorem mem_natives_or_takenFrom {id : String} {m : Method}
    (hm : (p.composed config? ctx).registry.method? id = some m) :
    (m ∈ p.natives config? ∧ m.id = id) ∨
      ∃ o, (p.composition config?).TakenFrom (p.included config? ctx).registry o m :=
  (Composition.method?_compose hm).imp_left (mem_natives_of_included h)

end Registered

end Preparation

/-! ### Declarations -/

/-- `m` is what a declaration gives in a package, and its types are registered in `r`. Its
    documentation, its mark as a list method and the address of its backend are left open. -/
structure Method.BuiltFrom (m : Method) (r : Registry) (decl : MethodDecl) (package : String) :
    Prop where
  input : r.messages.contains decl.inputType = true
  output : r.resolvesType decl.outputType = true
  bound : ∃ binding routing, { decl.bound m.id package binding routing with
    documentation := m.documentation, pageable := m.pageable, hostOverride := m.hostOverride } = m

/-- A method that can be built is built from its declaration, whatever its backend is. -/
theorem builtFrom_of_buildMethod {r : Registry} {decl : MethodDecl} {id package : String}
    {rule? : Option HttpRule} {m : Method} (h : buildMethod r decl id package rule? = .ok m)
    (hostOverride : Option String) : Method.BuiltFrom { m with hostOverride } r decl package := by
  obtain ⟨rule, input, binding, parameters, -, hinput, houtput, -, -, rfl⟩ :=
    buildMethod_eq_ok_iff.1 h
  exact ⟨Table.contains_eq_true_iff.2 ⟨input, hinput⟩, houtput, binding, parameters, rfl⟩

/-- What is taken over from a mixin is not documented yet. -/
theorem Composition.TakenFrom.documentation_eq {c : Composition} {r : Registry} {o : Offer}
    {m : Method} (h : c.TakenFrom r o m) : m.documentation = "" := by
  obtain ⟨serviceId, package, rule?, method, -, hb, rfl⟩ := h.built
  obtain ⟨-, -, -, -, -, -, -, -, -, rfl⟩ := buildMethod_eq_ok_iff.1 hb
  rfl

section BuiltFrom

variable {m : Method} {r s : Registry} {decl : MethodDecl} {package : String}
  (h : m.BuiltFrom r decl package)
include h

/-- A method is built from its declaration still where types have the same names. -/
theorem Method.BuiltFrom.congr (hs : r.SameNames s) : m.BuiltFrom s decl package :=
  ⟨(hs.messages _).symm.trans h.input, (hs.resolvesType _).symm.trans h.output, h.bound⟩

/-- Later phases write the documentation of a method and mark it. -/
theorem Method.BuiltFrom.annotated (documentation : String) (pageable : Bool) :
    Method.BuiltFrom { m with documentation, pageable } r decl package := by
  obtain ⟨binding, routing, hm⟩ := h.bound
  exact ⟨h.input, h.output, binding, routing,
    congrArg (fun n : Method => { n with documentation, pageable }) hm⟩

end BuiltFrom

namespace Preparation

variable {p : Preparation} {config? : Option ServiceConfig} {ctx : Context}

/-- The declarations that the methods of a model may come from, with the packages that they are
    built in. -/
inductive Declares (p : Preparation) (config? : Option ServiceConfig) :
    MethodDecl → String → Prop where
  /-- A service to generate declares the method. -/
  | native {d : DeclaredService} {decl : MethodDecl}
    (hd : d ∈ p.targets.flatMap FileDecl.declaredServices)
    (h : decl ∈ d.decl.methods) : Declares p config? decl d.package
  /-- A mixin offers it, and the configuration enables it. It is built in the package of a service
      to generate. -/
  | offer {d : DeclaredService} {o : Offer} (hd : d ∈ p.targets.flatMap FileDecl.declaredServices)
    (h : o ∈ (p.composition config?).offers) (enabled : p.plan.enabled.contains o.selector = true) :
    Declares p config? o.decl d.package

/-- A method of a file is built from a declaration of one of the services to generate. -/
theorem exists_builtFrom_of_mem_natives {m : Method} (hm : m ∈ p.natives config?) :
    ∃ decl package, p.Declares config? decl package ∧ m.BuiltFrom p.registered decl package := by
  obtain ⟨d, hd, hm⟩ := List.mem_flatMap.1 hm
  obtain ⟨decl, hdecl, hn, -⟩ := exists_of_mem_methods hm
  refine ⟨decl, d.package, .native hd hdecl, ?_⟩
  unfold MethodDecl.native at hn
  cases hb : buildMethod p.registered decl (childId d.id decl.name) d.package none with
  | error e =>
    rw [hb] at hn
    nomatch hn
  | ok method =>
    rw [hb] at hn
    cases hn
    exact builtFrom_of_buildMethod hb _

section Registered

variable (h : registerTypes { diagnostics := p.unavailable } p.sources = (ctx, none))
include h

/-- A method that is taken over is built from the declaration that was offered. -/
theorem exists_builtFrom_of_takenFrom {o : Offer} {m : Method}
    (hm : (p.composition config?).TakenFrom (p.included config? ctx).registry o m) :
    ∃ package, p.Declares config? o.decl package ∧
      m.BuiltFrom (p.included config? ctx).registry o.decl package := by
  obtain ⟨serviceId, package, rule?, method, hpackage, hb, rfl⟩ := hm.built
  obtain ⟨d, hd, -, rfl⟩ := exists_of_packageOf?_included h hpackage
  exact ⟨d.package, .offer hd hm.offered hm.enabled, builtFrom_of_buildMethod hb _⟩

/-- Each method of a model is what a declaration gives, with the types of the model. -/
theorem exists_builtFrom_of_model {id : String} {m : Method}
    (hm : (p.model config? ctx).registry.method? id = some m) :
    ∃ decl package, p.Declares config? decl package ∧
      m.BuiltFrom (p.model config? ctx).registry decl package := by
  rw [p.method?_model, Option.map_eq_some_iff] at hm
  obtain ⟨m, hm, rfl⟩ := hm
  -- Both sorts of methods are built where the types of `ctx` are registered.
  have hnames : ∀ r : Registry, r.SameTypes ctx.registry →
      r.SameNames (p.model config? ctx).registry := by
    intro r hr
    have hmodel := p.sameNames_model config? ctx
    exact hr.sameNames.trans ⟨fun id => (hmodel.messages id).symm, fun id => (hmodel.enums id).symm⟩
  rcases mem_natives_or_takenFrom h hm with ⟨hm, -⟩ | ⟨o, ho⟩
  · obtain ⟨decl, package, hdecl, hbuilt⟩ := exists_builtFrom_of_mem_natives hm
    have hregistered : p.registered.SameTypes ctx.registry := registered_eq h ▸ .refl _
    exact ⟨decl, package, hdecl, (hbuilt.congr (hnames _ hregistered)).annotated _ _⟩
  · obtain ⟨package, hdecl, hbuilt⟩ := exists_builtFrom_of_takenFrom h ho
    exact ⟨o.decl, package, hdecl, (hbuilt.congr (hnames _ ⟨rfl, rfl⟩)).annotated _ _⟩

end Registered

end Preparation

end ProtoApi
