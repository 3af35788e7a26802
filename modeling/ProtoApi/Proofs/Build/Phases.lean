import ProtoApi.Build.Pipeline

namespace ProtoApi

/-!
# The phases of a build

A build first finds out what to build from which files, then registers types, then does the rest.

* `Preparation`, `DescriptorSet.prepare` — the targets, the mixins and the sources of a build;
* `Preparation.build`, `Preparation.describe` — the build of what is prepared, and its phases after
  registration;
* `buildApi_eq` — a build is the two of them, one after the other; `prepare_of_targets` says what is
  prepared.
-/

/-! ### A build in two steps -/

/-- What a build knows before it registers types. -/
structure Preparation where
  /-- The files to generate. -/
  targets : List FileDecl
  plan : MixinPlan
  /-- The files of the set, and behind them the bundled files that are loaded. -/
  sources : List FileDecl
  /-- A diagnostic for each mixin that is not available. -/
  unavailable : List Diagnostic

/-- The phases before registration. -/
def DescriptorSet.prepare (set : DescriptorSet) (options : BuildOptions) :
    Except BuildError Preparation := do
  let targets ← set.targets options.files
  let plan := MixinPlan.make options.config? (startsOperations targets)
  let (loaded, plan, unavailable) := plan.load set options.bundledMixins
  return { targets, plan, sources := set.files ++ loaded, unavailable }

namespace Preparation

/-- The phases after registration. -/
def describe (p : Preparation) (config? : Option ServiceConfig) (ctx : Context) :
    Except BuildError ApiBuild := do
  let (ctx, api) := p.targets.foldl (includeFile config?) (ctx, Api.ofConfig config?)
  let ctx := Composition.compose { plan := p.plan, sources := p.sources, config? } ctx api.services
  let ctx := p.targets.foldl attachComments ctx
  let api := { api with registry := ctx.registry }.annotate config? ctx.uuid4Fields
  api.checkReferences
  return { api, diagnostics := ctx.diagnostics }

/-- The phases from registration on. -/
def build (p : Preparation) (config? : Option ServiceConfig) : Except BuildError ApiBuild :=
  match registerTypes { diagnostics := p.unavailable } p.sources with
  | (_, some e) => .error e
  | (ctx, none) => p.describe config? ctx

end Preparation

/-- A build prepares and then goes on with what is prepared. -/
theorem buildApi_eq (set : DescriptorSet) (options : BuildOptions) :
    buildApi set options = set.prepare options >>= fun p => p.build options.config? := by
  unfold buildApi DescriptorSet.prepare
  cases set.targets options.files with
  | error e => rfl
  | ok targets =>
    -- What is loaded and what is registered are the same on both sides, so that only the matches on
    -- them are left.
    generalize hl : (MixinPlan.make options.config? (startsOperations targets)).load
      set options.bundledMixins = l
    obtain ⟨loaded, plan, unavailable⟩ := l
    generalize hr : registerTypes { diagnostics := unavailable } (set.files ++ loaded) = result
    obtain ⟨ctx, _ | e⟩ := result
    · simp [bind, Except.bind, pure, Except.pure, hl, hr, Preparation.build, Preparation.describe]
    · simp [bind, Except.bind, pure, Except.pure, hl, hr, Preparation.build]

/-- What is prepared where the files to generate are found. -/
theorem prepare_of_targets {set : DescriptorSet} {options : BuildOptions} {targets : List FileDecl}
    (ht : set.targets options.files = .ok targets) :
    set.prepare options = .ok {
      targets
      plan :=
        ((MixinPlan.make options.config? (startsOperations targets)).load
          set options.bundledMixins).2.1
      sources := set.files
        ++ ((MixinPlan.make options.config? (startsOperations targets)).load
          set options.bundledMixins).1
      unavailable :=
        ((MixinPlan.make options.config? (startsOperations targets)).load
          set options.bundledMixins).2.2 } := by
  unfold DescriptorSet.prepare
  rw [ht]
  rfl

end ProtoApi
