import ProtoApi.Build.AutoPopulation
import ProtoApi.Build.Comments
import ProtoApi.Build.PackageName
import ProtoApi.Build.Pagination
import ProtoApi.Build.References
import ProtoApi.Build.Targets
import ProtoApi.Build.Types
import ProtoApi.Descriptor.Format
import ProtoApi.Mixin.Composition
import ProtoApi.Model.Digest

namespace ProtoApi

/-!
# Building a model

* `parseDescriptorSet`, `parseServiceConfig` — the inputs of a build, read from text;
* `BuildOptions`, `ApiBuild` — what a build is asked for and what comes of it;
* `includeTypes`, `includeServices` — what a file contributes to the lists of the model;
* `buildApi` — the phases in order: types of all files, services of the files to generate, mixin
  methods, comments, then what is found out about the model as a whole, and the check of its
  references.
-/

/-- Reads a descriptor set. -/
def parseDescriptorSet (text : String) : Except BuildError DescriptorSet :=
  (DescriptorSet.decoder.ofText text).mapError .descriptorJson

/-- Reads a service configuration. -/
def parseServiceConfig (text : String) : Except BuildError ServiceConfig :=
  (ServiceConfig.decoder.ofText text).mapError .serviceConfigJson

/-- What a build is asked for besides the descriptor set. -/
structure BuildOptions where
  /-- The paths of the files to generate; none stands for all files. -/
  files : List String := []
  config? : Option ServiceConfig := none
  /-- Whether bundled files may fill in for mixin files that the set does not carry. -/
  bundledMixins : Bool := true

/-- A model and all that was left out of it. -/
structure ApiBuild where
  api : Api
  diagnostics : List Diagnostic
deriving DecidableEq

/-- The written form of a build. -/
def ApiBuild.toJson (b : ApiBuild) : Json :=
  .object [("api", b.api.toJson), ("diagnostics", .ofList Diagnostic.toJson b.diagnostics)]

/-- Lists the ids that are registered and reports the others. -/
def includeIds (kind : SymbolKind) (registered : String → Bool) (ids : List String) :
    List String × List Diagnostic :=
  (ids.filter registered, (ids.filter fun id => !registered id).map (.missingSymbol kind))

/-- Lists the messages and enums that a file declares outside of messages. -/
def includeTypes (ctx : Context) (api : Api) (f : FileDecl) : Context × Api :=
  let (messages, missingMessages) :=
    includeIds .message ctx.registry.messages.contains (f.messages.map fun m =>
      topLevelId f.package m.name)
  let (enums, missingEnums) :=
    includeIds .enum ctx.registry.enums.contains (f.enums.map fun e => topLevelId f.package e.name)
  (ctx.reportAll (missingMessages ++ missingEnums),
    { api with messages := api.messages ++ messages, enums := api.enums ++ enums })

/-- Builds and lists the services of a file. -/
def includeServices (config? : Option ServiceConfig) (ctx : Context) (api : Api) (f : FileDecl) :
    Context × Api :=
  (f.services.foldl (processService config? f) ctx,
    { api with services := api.services ++ f.services.map f.serviceId })

/-- Builds what a file contributes. -/
def includeFile (config? : Option ServiceConfig) : Context × Api → FileDecl → Context × Api
  | (ctx, api), f =>
    let (ctx, api) := includeTypes ctx api f
    includeServices config? ctx api f

/-- The model of a configuration before anything is listed. -/
def Api.ofConfig (config? : Option ServiceConfig) : Api where
  name := (config?.map (·.apiName)).getD ""
  title := (config?.map (·.title)).getD ""
  description := (config?.map (·.summary)).getD ""

/-- What is found out about a model as a whole: its package, the list methods and the fields that
    clients fill in. -/
def Api.annotate (api : Api) (config? : Option ServiceConfig) (uuid4Fields : NameSet) : Api :=
  let api := api.updatePackageName config?
  { api with registry := api.registry.markPageable.markAutoPopulated config? uuid4Fields }

/-- Builds the model of a descriptor set. -/
def buildApi (set : DescriptorSet) (options : BuildOptions) : Except BuildError ApiBuild := do
  let config? := options.config?
  let targets ← set.targets options.files
  let plan := MixinPlan.make config? (startsOperations targets)
  let (loaded, plan, unavailable) := plan.load set options.bundledMixins
  let sources := set.files ++ loaded
  let ctx ←
    match registerTypes { diagnostics := unavailable } sources with
    | (_, some e) => .error e
    | (ctx, none) => .ok ctx
  let (ctx, api) := targets.foldl (includeFile config?) (ctx, Api.ofConfig config?)
  let ctx := Composition.compose { plan, sources, config? } ctx api.services
  let ctx := targets.foldl attachComments ctx
  let api := { api with registry := ctx.registry }.annotate config? ctx.uuid4Fields
  api.checkReferences
  return { api, diagnostics := ctx.diagnostics }

end ProtoApi
