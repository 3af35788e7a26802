import ProtoApi.Build.Context
import ProtoApi.Mixin.Bundled
import ProtoApi.Mixin.Catalog
import ProtoApi.ServiceConfig

namespace ProtoApi

/-!
# Planning mixins

* `MixinPlan` — the mixins that an API takes methods from, and the methods;
* `MixinPlan.make` — the plan of a service configuration. It is forced to have the method that asks
  for an operation where some method starts one;
* `missingFiles`, `MixinPlan.load` — the bundled files that the plan needs and the descriptor set
  does not carry, and the plan without the mixins whose own file is nowhere to be had.
-/

/-- The mixins and methods that an API takes over. -/
structure MixinPlan where
  mixins : List Mixin := []
  /-- The selectors of the methods. -/
  enabled : NameSet := Table.empty
deriving DecidableEq

namespace MixinPlan

/-- Whether nothing is taken over. -/
def isEmpty (p : MixinPlan) : Bool := p.mixins.isEmpty

/-- The selector of the method that asks for an operation. -/
def getOperation : String := "google.longrunning.Operations.GetOperation"

/-- Adds a mixin that is not listed yet. -/
def addMixin (mixins : List Mixin) (m : Mixin) : List Mixin :=
  if m ∈ mixins then mixins else mixins ++ [m]

/-- The mixins among some APIs, each once. -/
def mixinsAmong (apis : List String) : List Mixin :=
  (apis.filterMap Mixin.wellKnown?).foldl addMixin []

/-- The plan of a configuration. The mixins come in the order in which it lists them; a method is
    taken over if it has an HTTP rule. `force` adds the mixin for operations, and its method that
    asks for one unless some of its methods are taken over anyway. -/
def make (config? : Option ServiceConfig) (force : Bool) : MixinPlan :=
  let listed := mixinsAmong ((config?.map (·.apis)).getD [])
  let mixins := if force then addMixin listed .operations else listed
  let rules := (config?.map (·.httpRules)).getD []
  let selected := (rules.map (·.selector)).filter fun s => mixins.any (·.owns s)
  let enabled := NameSet.ofNames selected
  if force && !selected.any Mixin.operations.owns then
    { mixins, enabled := enabled.add getOperation }
  else { mixins, enabled }

/-! ### Loading what is missing -/

/-- The bundled files among some names that neither the set nor what is loaded already carries. -/
def missingFiles (set : DescriptorSet) (loaded : List FileDecl) (names : List String) :
    List FileDecl :=
  names.foldl (fun loaded name =>
    if (set.findFile? name).isSome || loaded.any (·.name = name) then loaded
    else loaded ++ (Mixin.bundledFile? name).toList) loaded

/-- Loads the files of some mixins, and answers with the files, the mixins whose own file is there,
    and a diagnostic for each other one. -/
def loadFiles (set : DescriptorSet) (allowBundled : Bool) (loaded : List FileDecl) :
    List Mixin → List FileDecl × List Mixin × List Diagnostic
  | [] => (loaded, [], [])
  | m :: rest =>
    let loaded := if allowBundled then missingFiles set loaded m.files else loaded
    let (files, available, diagnostics) := loadFiles set allowBundled loaded rest
    if (set.findFile? m.file).isSome || loaded.any (·.name = m.file) then
      (files, m :: available, diagnostics)
    else (files, available, .mixinUnavailable m.api :: diagnostics)

/-- Loads the files that the plan needs and drops the mixins whose own file is not available. -/
def load (p : MixinPlan) (set : DescriptorSet) (allowBundled : Bool) :
    List FileDecl × MixinPlan × List Diagnostic :=
  let (files, available, diagnostics) := loadFiles set allowBundled [] p.mixins
  (files, { p with mixins := available }, diagnostics)

end MixinPlan

end ProtoApi
