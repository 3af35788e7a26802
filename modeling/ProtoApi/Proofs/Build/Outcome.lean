import ProtoApi.Proofs.Build.Documentation
import ProtoApi.Proofs.Build.Phases
import ProtoApi.Proofs.Build.Services
import ProtoApi.Proofs.Except
import ProtoApi.Proofs.Mixin.Selection

namespace ProtoApi

/-!
# What a build ends with

* `DescriptorSet.preparation`, `Preparation.registered`, `Preparation.included`,
  `Preparation.finished`, `Preparation.model` — what a build has made at the end of its phases,
  before references are checked; `preparation_dotless` is about the methods taken over;
* `buildApi_eq_ok_iff` — when a build succeeds, and with what;
* `Api.exists_updatePackageName` — looking for the package changes nothing else;
* `DescriptorSet.outcome`, `exists_registered_of_buildApi`, `buildApi_of_no_messages` — what a build
  of given files ends with, and a case in which it does;
* `Registry.SameNames`, `sameNames_model` — after registration no phase adds a type or takes one
  away.
-/

/-! ### The end of a build -/

/-- What is prepared for some files. -/
def DescriptorSet.preparation (set : DescriptorSet) (options : BuildOptions)
    (targets : List FileDecl) : Preparation where
  targets
  plan :=
    ((MixinPlan.make options.config? (startsOperations targets)).load
      set options.bundledMixins).2.1
  sources := set.files
    ++ ((MixinPlan.make options.config? (startsOperations targets)).load
      set options.bundledMixins).1
  unavailable :=
    ((MixinPlan.make options.config? (startsOperations targets)).load
      set options.bundledMixins).2.2

namespace Preparation

variable (p : Preparation) (config? : Option ServiceConfig) (ctx : Context)

/-- What is registered when the services of a build are about to be built. -/
def registered : Registry := (registerTypes { diagnostics := p.unavailable } p.sources).1.registry

/-- What mixin methods are taken over from. -/
def composition : Composition := { plan := p.plan, sources := p.sources, config? }

/-- The context after services have been built, where registration has ended with `ctx`. -/
def included : Context := ctx.included config? ctx.registry p.targets

/-- The model with its lists, but without a registry. -/
def listed : Api := (Api.ofConfig config?).including ctx.registry p.targets

/-- The context after all comments have been attached. -/
def finished : Context :=
  p.targets.foldl attachComments
    ((p.composition config?).compose (p.included config? ctx) (p.listed config? ctx).services)

/-- The model whose references are checked. -/
def model : Api :=
  { p.listed config? ctx with registry := (p.finished config? ctx).registry }.annotate config?
    (p.finished config? ctx).uuid4Fields

/-- A build ends with its model unless a reference of that leads nowhere. -/
theorem describe_eq : p.describe config? ctx =
    (p.model config? ctx).checkReferences.map fun _ =>
      { api := p.model config? ctx, diagnostics := (p.finished config? ctx).diagnostics } := by
  have hincluded :=
    foldl_includeFile_eq config? (.refl ctx.registry) (Api.ofConfig config?) p.targets
  unfold describe
  rw [hincluded]
  show ((p.model config? ctx).checkReferences >>= fun _ => _) = _
  cases (p.model config? ctx).checkReferences <;> rfl

end Preparation

/-- What a build takes over are methods that have no dots in their names. -/
theorem DescriptorSet.preparation_dotless (set : DescriptorSet) (options : BuildOptions)
    (targets : List FileDecl) :
    ((set.preparation options targets).composition options.config?).Dotless :=
  dotless_of_make (fun _ hm => MixinPlan.mem_of_mem_load hm) rfl

/-- A build succeeds if its files are found, registration does and the references of the model lead
    somewhere. -/
theorem buildApi_eq_ok_iff {set : DescriptorSet} {options : BuildOptions} {b : ApiBuild} :
    buildApi set options = .ok b ↔
      ∃ targets ctx, set.targets options.files = .ok targets ∧
        registerTypes { diagnostics := (set.preparation options targets).unavailable }
          (set.preparation options targets).sources = (ctx, none) ∧
        ((set.preparation options targets).model options.config? ctx).checkReferences = .ok () ∧
        b = {
          api := (set.preparation options targets).model options.config? ctx
          diagnostics :=
            ((set.preparation options targets).finished options.config? ctx).diagnostics } := by
  rw [buildApi_eq, bind_eq_ok_iff]
  constructor
  · rintro ⟨p, hp, hb⟩
    -- A build can fail in three places: the files, their registration and the references.
    cases ht : set.targets options.files with
    | error e =>
      unfold DescriptorSet.prepare at hp
      rw [ht] at hp
      nomatch hp
    | ok targets =>
      rw [prepare_of_targets ht] at hp
      have hp' : set.preparation options targets = p := Except.ok.inj hp
      subst hp'
      unfold Preparation.build at hb
      split at hb
      · nomatch hb
      · next ctx hr =>
        rw [Preparation.describe_eq] at hb
        cases hc : ((set.preparation options targets).model options.config? ctx).checkReferences
          with
        | error e =>
          rw [hc] at hb
          nomatch hb
        | ok u =>
          rw [hc] at hb
          exact ⟨targets, ctx, rfl, hr, hc, (Except.ok.inj hb).symm⟩
  · rintro ⟨targets, ctx, ht, hr, hc, rfl⟩
    refine ⟨set.preparation options targets, prepare_of_targets ht, ?_⟩
    unfold Preparation.build
    rw [hr]
    simp only
    rw [Preparation.describe_eq, hc]
    rfl

/-! ### The package -/

/-- Looking for the package changes nothing else. -/
theorem Api.exists_updatePackageName (a : Api) (config? : Option ServiceConfig) :
    ∃ name, a.updatePackageName config? = { a with packageName := name } := by
  unfold Api.updatePackageName
  simp only
  split
  · exact ⟨_, rfl⟩
  · exact ⟨_, rfl⟩

section Annotate

variable (a : Api) (config? : Option ServiceConfig) (uuid4Fields : NameSet)

/-- The registry is marked for list methods first, and then for fields that are filled in. -/
theorem Api.registry_annotate :
    (a.annotate config? uuid4Fields).registry
      = a.registry.markPageable.markAutoPopulated config? uuid4Fields := by
  obtain ⟨name, h⟩ := a.exists_updatePackageName config?
  unfold Api.annotate
  rw [h]

/-- The lists of the model are not touched by that. -/
theorem Api.services_annotate : (a.annotate config? uuid4Fields).services = a.services := by
  obtain ⟨name, h⟩ := a.exists_updatePackageName config?
  unfold Api.annotate
  rw [h]

theorem Api.messages_annotate : (a.annotate config? uuid4Fields).messages = a.messages := by
  obtain ⟨name, h⟩ := a.exists_updatePackageName config?
  unfold Api.annotate
  rw [h]

theorem Api.enums_annotate : (a.annotate config? uuid4Fields).enums = a.enums := by
  obtain ⟨name, h⟩ := a.exists_updatePackageName config?
  unfold Api.annotate
  rw [h]

end Annotate

/-! ### Builds that succeed -/

/-- What the build of some files ends with, if nothing goes wrong. -/
def DescriptorSet.outcome (set : DescriptorSet) (options : BuildOptions) (targets : List FileDecl) :
    ApiBuild :=
  let p := set.preparation options targets
  let ctx := (registerTypes { diagnostics := p.unavailable } p.sources).1
  { api := p.model options.config? ctx,
    diagnostics := (p.finished options.config? ctx).diagnostics }

section Outcome

variable {set : DescriptorSet} {options : BuildOptions} {targets : List FileDecl}
  (ht : set.targets options.files = .ok targets)
include ht

/-- A build that succeeds has registered its types, and it ends with that. -/
theorem exists_registered_of_buildApi {b : ApiBuild} (hb : buildApi set options = .ok b) :
    ∃ ctx, registerTypes { diagnostics := (set.preparation options targets).unavailable }
        (set.preparation options targets).sources = (ctx, none) ∧
      b = {
        api := (set.preparation options targets).model options.config? ctx
        diagnostics :=
          ((set.preparation options targets).finished options.config? ctx).diagnostics } := by
  obtain ⟨targets', ctx, ht', hregister, -, hb⟩ := buildApi_eq_ok_iff.1 hb
  obtain rfl : targets = targets' := Except.ok.inj (ht.symm.trans ht')
  exact ⟨ctx, hregister, hb⟩

/-- Without messages to generate there are no references to check. -/
theorem buildApi_of_no_messages
    (hr : (registerTypes { diagnostics := (set.preparation options targets).unavailable }
      (set.preparation options targets).sources).2 = none)
    (hm : ∀ f ∈ targets, f.messages = []) :
    buildApi set options = .ok (set.outcome options targets) := by
  have htop : targets.flatMap FileDecl.topMessages = [] := by
    refine List.flatMap_eq_nil_iff.2 fun f hf => ?_
    unfold FileDecl.topMessages
    rw [hm f hf, List.map_nil]
  have hmessages : (set.outcome options targets).api.messages = [] := by
    refine (Api.messages_annotate _ _ _).trans ?_
    unfold Preparation.listed Api.including DescriptorSet.preparation
    simp only
    rw [htop]
    rfl
  -- The worklist of the check is empty from the start.
  have hcheck : (set.outcome options targets).api.checkReferences = .ok () := by
    unfold Api.checkReferences
    rw [hmessages, List.reverse_nil, Registry.checkFrom]
  exact buildApi_eq_ok_iff.2 ⟨targets, _, ht, Prod.ext rfl hr, hcheck, rfl⟩

end Outcome

/-! ### Types that stay -/

namespace Registry

/-- The same ids have messages and enums. -/
structure SameNames (r s : Registry) : Prop where
  messages : ∀ id, r.messages.contains id = s.messages.contains id
  enums : ∀ id, r.enums.contains id = s.enums.contains id

/-- A registry has its own ids. -/
theorem SameNames.refl (r : Registry) : r.SameNames r := ⟨fun _ => rfl, fun _ => rfl⟩

theorem SameNames.trans {r s t : Registry} (h : r.SameNames s) (h' : s.SameNames t) :
    r.SameNames t :=
  ⟨fun id => (h.messages id).trans (h'.messages id), fun id => (h.enums id).trans (h'.enums id)⟩

/-- The same types have the same ids. -/
theorem SameTypes.sameNames {r s : Registry} (h : r.SameTypes s) : r.SameNames s :=
  ⟨fun id => by rw [h.messages], fun id => by rw [h.enums]⟩

/-- A type that is registered on one side is on the other. -/
theorem SameNames.resolvesType {r s : Registry} (h : r.SameNames s) (id : String) :
    r.resolvesType id = s.resolvesType id := by
  unfold Registry.resolvesType
  rw [h.messages, h.enums]

/-- Changing a message names the same types. -/
theorem sameNames_modifyMessage (r : Registry) (id : String) (f : Message → Message) :
    (r.modifyMessage id f).SameNames r :=
  ⟨fun other => Table.contains_modify r.messages id other f, fun _ => rfl⟩

/-- So does changing an enum. -/
theorem sameNames_modifyEnum (r : Registry) (id : String) (f : EnumType → EnumType) :
    (r.modifyEnum id f).SameNames r :=
  ⟨fun _ => rfl, fun other => Table.contains_modify r.enums id other f⟩

/-- Steps that keep names keep them one after the other. -/
theorem sameNames_foldl {α : Type} {step : Registry → α → Registry} {l : List α} (r : Registry)
    (h : ∀ a ∈ l, ∀ r, (step r a).SameNames r) : (l.foldl step r).SameNames r :=
  List.foldlRecOn l step (.refl r) fun s hs a ha => (h a ha s).trans hs

/-- So do documentations. -/
theorem sameNames_withDocumentation (r : Registry) (docs : List (DocTarget × String)) :
    (r.withDocumentation docs).SameNames r := by
  apply sameNames_foldl
  rintro ⟨t, documentation⟩ - r
  -- Messages and enums are the types, so that the documentation of others touches neither table.
  cases t
  case message => exact sameNames_modifyMessage r _ _
  case field => exact sameNames_modifyMessage r _ _
  case oneOf => exact sameNames_modifyMessage r _ _
  case enum => exact sameNames_modifyEnum r _ _
  case enumValue => exact sameNames_modifyEnum r _ _
  all_goals exact ⟨fun _ => rfl, fun _ => rfl⟩

/-- So do the marks of list methods. -/
theorem sameNames_markPageable (r : Registry) : r.markPageable.SameNames r := by
  apply sameNames_foldl
  intro p _ r
  exact ⟨fun id => Table.contains_modify r.messages p.output id _, fun _ => rfl⟩

/-- So do the marks of fields that are filled in. -/
theorem sameNames_markAutoPopulated (r : Registry) (config? : Option ServiceConfig)
    (uuid4Fields : NameSet) : (r.markAutoPopulated config? uuid4Fields).SameNames r := by
  apply sameNames_foldl
  intro settings _ r
  unfold populateListed
  split
  · exact .refl r
  · exact sameNames_modifyMessage r _ _

end Registry

/-- Taking over methods leaves all types alone. -/
theorem Composition.sameTypes_compose (c : Composition) (ctx : Context) (serviceIds : List String) :
    (c.compose ctx serviceIds).registry.SameTypes ctx.registry := by
  unfold compose
  induction serviceIds generalizing ctx with
  | nil => exact .refl _
  | cons id rest ih =>
    -- A service is extended by methods, and types are looked up only.
    rw [List.foldl_cons, composeService_eq]
    exact (ih _).trans (ctx.sameTypes_extended _ _ _)

/-- Attaching comments names the same types. -/
theorem sameNames_foldl_attachComments (ctx : Context) (files : List FileDecl) :
    (files.foldl attachComments ctx).registry.SameNames ctx.registry := by
  rw [foldl_attachComments_eq]
  exact Registry.sameNames_foldl ctx.registry fun f _ r =>
    r.sameNames_withDocumentation f.documented

/-- After registration no phase adds a type or takes one away. -/
theorem Preparation.sameNames_model (p : Preparation) (config? : Option ServiceConfig)
    (ctx : Context) : (p.model config? ctx).registry.SameNames ctx.registry := by
  unfold model
  rw [Api.registry_annotate]
  have hfinished : (p.finished config? ctx).registry.SameNames ctx.registry := by
    refine (sameNames_foldl_attachComments _ _).trans ?_
    -- Services and methods are all that inclusion and composition add.
    have hcomposed := (p.composition config?).sameTypes_compose (p.included config? ctx)
      (p.listed config? ctx).services
    have hincluded : (p.included config? ctx).registry.SameTypes ctx.registry := ⟨rfl, rfl⟩
    exact (hcomposed.trans hincluded).sameNames
  exact ((Registry.sameNames_markAutoPopulated _ _ _).trans
    (Registry.sameNames_markPageable _)).trans hfinished

end ProtoApi
