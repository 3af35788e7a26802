import ProtoApi.Proofs.Build.Agreement
import ProtoApi.Proofs.Build.Locations
import ProtoApi.Proofs.Build.Outcome
import ProtoApi.Proofs.Build.References
import ProtoApi.Proofs.Build.Targets

namespace ProtoApi

/-!
# Builds of the same requests in another order

The files to generate are built one after the other, and each of them changes the registry. Where
everything in a set can be told apart by its name, they do not get into each other's way.

* `DescriptorSet.Distinct`, `not_declares_both` — what has to be told apart, so that no two files
  declare the same;
* `included_agree`, `composed_agree`, `attachComments_perm` — services, mixin methods and comments
  of some files, in any order of the files;
* `Api.Alike`, `ApiBuild.Alike` — models with the same registry and the same lists in any order;
* `buildApi_requested_perm` — so the builds are alike.
-/

/-! ### Sets in which everything can be told apart -/

/-- A set whose files, types, services and methods can be told apart by their names. -/
structure DescriptorSet.Distinct (set : DescriptorSet) : Prop where
  names : ((set.files.map (·.name)).filter (· ≠ "")).Nodup
  messages : ((set.files.flatMap FileDecl.declaredMessages).map (·.id)).Nodup
  enums : ((set.files.flatMap FileDecl.declaredEnums).map (·.id)).Nodup
  services : ((set.files.flatMap FileDecl.declaredServices).map (·.id)).Nodup
  methods : ∀ f ∈ set.files, ∀ s ∈ f.services, s.Plain

section Distinct

variable {set : DescriptorSet} (hs : set.Distinct)
include hs

/-- No two files declare the same entity. -/
theorem not_declares_both {f g : FileDecl} (hf : f ∈ set.files) (hg : g ∈ set.files) (hne : f ≠ g)
    {o : Owner} (ho : f.Declares o) : ¬ g.Declares o := by
  intro ho'
  cases o with
  | message id =>
    obtain ⟨d, hd, hid⟩ := List.mem_map.1 ho
    obtain ⟨d', hd', hid'⟩ := List.mem_map.1 ho'
    exact key_ne_of_nodup_flatMap hs.messages hf hg hne hd hd' (hid.trans hid'.symm)
  | enum id =>
    obtain ⟨e, he, hid⟩ := List.mem_map.1 ho
    obtain ⟨e', he', hid'⟩ := List.mem_map.1 ho'
    exact key_ne_of_nodup_flatMap hs.enums hf hg hne he he' (hid.trans hid'.symm)
  | service id =>
    obtain ⟨s, hmem, hid⟩ := List.mem_map.1 ho
    obtain ⟨s', hmem', hid'⟩ := List.mem_map.1 ho'
    exact key_ne_of_nodup_flatMap hs.services hf hg hne (List.mem_map_of_mem hmem)
      (List.mem_map_of_mem hmem') (hid.trans hid'.symm)
  | method id =>
    obtain ⟨s, hmem, m, hm, hid⟩ := ho
    obtain ⟨s', hmem', m', hm', hid'⟩ := ho'
    -- The names of methods have no dots, so that the services would have the same id.
    have hservice :=
      (childId_inj ((hs.methods f hf s hmem).noDot m hm) ((hs.methods g hg s' hmem').noDot m' hm')
      (hid.symm.trans hid')).1
    exact key_ne_of_nodup_flatMap hs.services hf hg hne (List.mem_map_of_mem hmem)
      (List.mem_map_of_mem hmem') hservice

/-- The comments of different files document different entities. -/
theorem owner_ne_of_mem_documented {f g : FileDecl} (hf : f ∈ set.files) (hg : g ∈ set.files)
    (hne : f ≠ g) {d d' : DocTarget × String} (hd : d ∈ f.documented) (hd' : d' ∈ g.documented) :
    d.1.owner ≠ d'.1.owner := by
  obtain ⟨path, hpath⟩ := exists_locates_of_mem_documented hd
  obtain ⟨path', hpath'⟩ := exists_locates_of_mem_documented hd'
  intro howner
  exact not_declares_both hs hf hg hne (declares_of_locates hpath)
    (howner ▸ declares_of_locates hpath')

end Distinct

/-! ### The phases, file by file -/

section Phases

variable (config? : Option ServiceConfig) {targets targets' : List FileDecl}
  (hp : targets.Perm targets')
include hp

/-- The services of some files may be built in any order of the files. -/
theorem included_agree (r : Registry) (ctx : Context)
    (hids : ((targets.flatMap FileDecl.declaredServices).map (·.id)).Nodup)
    (hplain : ∀ d ∈ targets.flatMap FileDecl.declaredServices, d.decl.Plain) :
    (ctx.included config? r targets).Agree (ctx.included config? r targets') where
  registry := by
    have hservices := hp.flatMap_right FileDecl.declaredServices
    unfold Context.included Context.withServices
    simp only
    rw [Table.foldl_insert_perm (hservices.flatMap_right _) (nodup_methods hids hplain),
      Table.foldl_insert_perm hservices hids]
  diagnostics := (hp.flatMap_right _).append_left _
  uuid4Fields := rfl

/-- The comments of files that declare different entities may be attached in any order of the
    files. -/
theorem attachComments_perm {ctx ctx' : Context} (h : ctx.Agree ctx')
    (howner : ∀ f ∈ targets, ∀ g ∈ targets, f ≠ g → ∀ d ∈ f.documented, ∀ d' ∈ g.documented,
      d.1.owner ≠ d'.1.owner) :
    (targets.foldl attachComments ctx).Agree (targets'.foldl attachComments ctx') := by
  rw [foldl_attachComments_eq, foldl_attachComments_eq]
  constructor
  · rw [h.registry]
    refine hp.foldl_eq' (fun f hf g hg r => ?_) _
    by_cases hfg : f = g
    · rw [hfg]
    · exact r.withDocumentation_comm (howner f hf g hg hfg)
  · exact h.diagnostics.append (hp.flatMap_right _)
  · exact h.uuid4Fields

end Phases

/-- Services may take over mixin methods in any order. -/
theorem composed_agree (c : Composition) (hd : c.Dotless) {ctx ctx' : Context} (h : ctx.Agree ctx')
    {serviceIds serviceIds' : List String} (hp : serviceIds.Perm serviceIds')
    (hn : serviceIds.Nodup) : (c.compose ctx serviceIds).Agree (c.compose ctx' serviceIds') := by
  rw [c.compose_eq hd hn fun _ _ => rfl, c.compose_eq hd (hp.nodup_iff.1 hn) fun _ _ => rfl]
  unfold Composition.composed
  constructor
  · simp only
    have hkeys : (serviceIds.map fun id => id).Nodup := by
      rw [List.map_id']
      exact hn
    rw [← h.registry,
      Table.foldl_insert_perm (hp.flatMap_right _) (Composition.nodup_flatMap_additions hd hn),
      Table.foldl_modify_perm hp hkeys]
  · simp only
    rw [← h.registry]
    exact h.diagnostics.append (hp.flatMap_right _)
  · exact h.uuid4Fields

/-! ### The whole build -/

/-- Models with the same registry, and with the same lists in any order. The package is the same if
    the configuration names one. -/
structure Api.Alike (config? : Option ServiceConfig) (a a' : Api) : Prop where
  registry : a.registry = a'.registry
  name : a.name = a'.name
  title : a.title = a'.title
  description : a.description = a'.description
  services : a.services.Perm a'.services
  messages : a.messages.Perm a'.messages
  enums : a.enums.Perm a'.enums
  packageName : packageFromApis "" ((config?.map (·.apis)).getD []) ≠ "" →
      a.packageName = a'.packageName

/-- Builds that are alike: both fail, or both end with models that are alike and with the same
    diagnostics in any order. -/
inductive ApiBuild.Alike (config? : Option ServiceConfig) :
    Except BuildError ApiBuild → Except BuildError ApiBuild → Prop where
  | failed (e e' : BuildError) : Alike config? (.error e) (.error e')
  | built {b b' : ApiBuild} (api : b.api.Alike config? b'.api)
      (diagnostics : b.diagnostics.Perm b'.diagnostics) : Alike config? (.ok b) (.ok b')

section Alike

variable {config? : Option ServiceConfig}

/-- A model is like itself. -/
theorem Api.Alike.refl (a : Api) : a.Alike config? a :=
  ⟨rfl, rfl, rfl, rfl, .refl _, .refl _, .refl _, fun _ => rfl⟩

theorem ApiBuild.Alike.refl (result : Except BuildError ApiBuild) :
    ApiBuild.Alike config? result result := by
  cases result with
  | error e => exact .failed e e
  | ok b => exact .built (.refl _) (.refl _)

/-- What the configuration names is the package. -/
theorem Api.packageName_annotate (a : Api) (uuid4Fields : NameSet) (ha : a.packageName = "")
    (h : packageFromApis "" ((config?.map (·.apis)).getD []) ≠ "") :
    (a.annotate config? uuid4Fields).packageName
      = packageFromApis "" ((config?.map (·.apis)).getD []) := by
  unfold Api.annotate Api.updatePackageName
  simp only [ha]
  rw [if_pos h]

/-- Models that are alike stay so when they are given the same registry. -/
theorem Api.Alike.withRegistry {a a' : Api} (h : a.Alike config? a') (r : Registry) :
    { a with registry := r }.Alike config? { a' with registry := r } :=
  ⟨rfl, h.name, h.title, h.description, h.services, h.messages, h.enums, h.packageName⟩

/-- What is found out about models that are alike leaves them alike. -/
theorem Api.Alike.annotate {a a' : Api} (h : a.Alike config? a') (uuid4Fields : NameSet)
    (ha : a.packageName = "") (ha' : a'.packageName = "") :
    (a.annotate config? uuid4Fields).Alike config? (a'.annotate config? uuid4Fields) := by
  obtain ⟨name, hname⟩ := a.exists_updatePackageName config?
  obtain ⟨name', hname'⟩ := a'.exists_updatePackageName config?
  refine ⟨?_, ?_, ?_, ?_, ?_, ?_, ?_, fun hpackage => ?_⟩
  -- Both take the name that the configuration gives, so neither falls back on its lists.
  case refine_8 => rw [a.packageName_annotate uuid4Fields ha hpackage,
    a'.packageName_annotate uuid4Fields ha' hpackage]
  all_goals
    unfold Api.annotate
    rw [hname, hname']
  · simp only [h.registry]
  · exact h.name
  · exact h.title
  · exact h.description
  · exact h.services
  · exact h.messages
  · exact h.enums

/-- The references of models that are alike are checked with the same success. -/
theorem Api.Alike.checkReferences {a a' : Api} (h : a.Alike config? a')
    (hok : a.checkReferences = .ok ()) : a'.checkReferences = .ok () := by
  unfold Api.checkReferences at hok ⊢
  rw [Registry.checkFrom_eq_ok_iff] at hok ⊢
  rw [← h.registry]
  intro id hid
  refine hok id (hid.mono fun i hi => .root ?_)
  exact List.mem_reverse.2 (h.messages.mem_iff.2 (List.mem_reverse.1 hi))

end Alike

/-- The lists of a model have the same entries in any order of the files. -/
theorem Preparation.listed_alike (p : Preparation) (config? : Option ServiceConfig) (ctx : Context)
    {targets : List FileDecl} (hp : p.targets.Perm targets) :
    (p.listed config? ctx).Alike config? ({ p with targets }.listed config? ctx) where
  registry := rfl
  name := rfl
  title := rfl
  description := rfl
  services := ((hp.flatMap_right _).map _).append_left _
  messages := ((hp.flatMap_right _).filter _).append_left _
  enums := ((hp.flatMap_right _).filter _).append_left _
  packageName _ := rfl

/-- What is registered is described alike for the same files in any order. -/
theorem Preparation.model_alike {set : DescriptorSet} (hs : set.Distinct) (p : Preparation)
    (config? : Option ServiceConfig) (ctx : Context) (hd : (p.composition config?).Dotless)
    (hsub : p.targets ⊆ set.files) (hn : p.targets.Nodup) {targets : List FileDecl}
    (hp : p.targets.Perm targets) :
    (p.model config? ctx).Alike config? ({ p with targets }.model config? ctx) ∧
      (p.finished config? ctx).diagnostics.Perm ({ p with
        targets }.finished config? ctx).diagnostics := by
  have hids : ((p.targets.flatMap FileDecl.declaredServices).map (·.id)).Nodup :=
    nodup_flatMap_of_subset hs.services hn hsub
  have hplain : ∀ d ∈ p.targets.flatMap FileDecl.declaredServices, d.decl.Plain :=
    plain_of_mem_declaredServices fun f hf => hs.methods f (hsub hf)
  have hlisted := p.listed_alike config? ctx hp
  have hcomposed : Context.Agree
      ((p.composition config?).compose (p.included config? ctx) (p.listed config? ctx).services)
      ((p.composition config?).compose ({ p with targets }.included config? ctx)
        ({ p with targets }.listed config? ctx).services) :=
    composed_agree _ hd (included_agree config? hp ctx.registry ctx hids hplain)
      hlisted.services hids
  -- Comments of different files reach different declarations, so they may come in any order.
  have hfinished : (p.finished config? ctx).Agree ({ p with targets }.finished config? ctx) :=
    attachComments_perm hp hcomposed fun f hf g hg hne d hd d' hd' =>
      owner_ne_of_mem_documented hs (hsub hf) (hsub hg) hne hd hd'
  refine ⟨?_, hfinished.diagnostics⟩
  unfold model
  rw [← hfinished.uuid4Fields, ← hfinished.registry]
  exact (hlisted.withRegistry _).annotate _ rfl rfl

/-- What is prepared for files in another order is the same, up to that order. -/
theorem DescriptorSet.preparation_perm (set : DescriptorSet) (options : BuildOptions)
    (requested : List String) {targets targets' : List FileDecl} (hp : targets.Perm targets') :
    set.preparation { options with files := requested } targets'
      = { set.preparation options targets with targets := targets' } := by
  have hforce : startsOperations targets' = startsOperations targets := hp.symm.any_eq
  unfold preparation
  rw [hforce]

/-- A build that succeeds does so for the same requests in any order, and ends with a model that is
    alike. -/
theorem exists_alike_of_buildApi {set : DescriptorSet} (hs : set.Distinct) {options : BuildOptions}
    {requested : List String} (hr : options.files ≠ []) (hp : options.files.Perm requested)
    {b : ApiBuild} (hb : buildApi set options = .ok b) :
    ∃ b', buildApi set { options with files := requested } = .ok b' ∧
      b.api.Alike options.config? b'.api ∧
      b.diagnostics.Perm b'.diagnostics := by
  obtain ⟨targets, ctx, ht, hregister, hcheck, rfl⟩ := buildApi_eq_ok_iff.1 hb
  obtain ⟨targets', ht', htargets⟩ := DescriptorSet.targets_perm_requested hs.names hr hp ht
  obtain ⟨hmodel, hdiagnostics⟩ :=
    Preparation.model_alike hs (set.preparation options targets) options.config? ctx
    (set.preparation_dotless options targets) (DescriptorSet.targets_subset ht)
    (DescriptorSet.nodup_targets hr ht).of_map htargets
  rw [← set.preparation_perm options requested htargets] at hmodel hdiagnostics
  refine ⟨_, buildApi_eq_ok_iff.2 ⟨targets', ctx, ht', ?_, hmodel.checkReferences hcheck, rfl⟩,
    hmodel, hdiagnostics⟩
  rw [set.preparation_perm options requested htargets]
  exact hregister

/-- What is built does not depend on the order of the requests: for the same requests in another
    order either both builds fail, or both end with models that are alike. -/
theorem buildApi_requested_perm (set : DescriptorSet) (hs : set.Distinct)
    (config? : Option ServiceConfig) (bundledMixins : Bool) {requested requested' : List String}
    (hp : requested.Perm requested') :
    ApiBuild.Alike config? (buildApi set { files := requested, config?, bundledMixins })
      (buildApi set { files := requested', config?, bundledMixins }) := by
  by_cases hr : requested = []
  · subst hr
    rw [List.nil_perm.1 hp]
    exact .refl _
  have hr' : requested' ≠ [] := fun he => hr (List.perm_nil.1 (he ▸ hp))
  cases hb : buildApi set { files := requested, config?, bundledMixins } with
  | ok b =>
    obtain ⟨b', hb', hapi, hdiagnostics⟩ := exists_alike_of_buildApi hs hr hp hb
    rw [hb']
    exact .built hapi hdiagnostics
  | error e =>
    cases hb' : buildApi set { files := requested', config?, bundledMixins } with
    | error e' => exact .failed e e'
    | ok b' =>
      -- A build in the second order would have succeeded in the first one.
      obtain ⟨b'', hb'', -⟩ := exists_alike_of_buildApi hs hr' hp.symm hb'
      nomatch hb.symm.trans hb''

/-- A file whose service starts operations. -/
def loansFile : FileDecl where
  name? := "loans.proto"
  package? := "library"
  messages := [{ name? := "Loan" }]
  services := [
    { name? := "Loans"
      methods := [
        { name? := "Renew"
          inputType? := ".library.Loan"
          outputType? := operationType
          options? := Mixin.bound [("post", .string "/v1/loans:renew")] }] }]
  sourceInfo? := some [⟨[6, 0, 2, 0], some " Renews a loan.\n"⟩]

/-- A file with a method that cannot be built. -/
def membersFile : FileDecl where
  name? := "members.proto"
  package? := "people"
  messages := [{ name? := "Member" }]
  services := [
    { name? := "Members"
      methods :=
        [{ name? := "Join", inputType? := ".people.Member", outputType? := ".people.Member" }] }]
  sourceInfo? := some [⟨[4, 0], some " A member.\n"⟩, ⟨[6, 0, 2, 0], some " Joins.\n"⟩]

/-- Two files may be requested in any order, also where one of them makes the other one have
    operations. -/
theorem buildApi_libraryFiles_perm :
    (DescriptorSet.mk [loansFile, membersFile]).Distinct ∧
      ["loans.proto", "members.proto"].Perm ["members.proto", "loans.proto"] ∧
      ApiBuild.Alike none
        (buildApi ⟨[loansFile, membersFile]⟩
          { files := ["loans.proto", "members.proto"], config? := none, bundledMixins := true })
        (buildApi ⟨[loansFile, membersFile]⟩
          { files := ["members.proto", "loans.proto"], config? := none,
            bundledMixins := true }) := by
  have hs : (DescriptorSet.mk [loansFile, membersFile]).Distinct :=
    { names := by decide +kernel
      messages := by decide +kernel
      enums := by decide +kernel
      services := by decide +kernel
      methods := by
        intro f hf s hs
        simp only [List.mem_cons, List.not_mem_nil, or_false] at hf
        rcases hf with rfl | rfl
        all_goals
          obtain rfl := List.mem_singleton.1 hs
          exact ⟨by decide +kernel, by decide +kernel⟩ }
  have hp : ["loans.proto", "members.proto"].Perm ["members.proto", "loans.proto"] :=
    List.Perm.swap "members.proto" "loans.proto" []
  exact ⟨hs, hp, buildApi_requested_perm _ hs none true hp⟩

end ProtoApi
