import ProtoApi.Proofs.Build.Origin

namespace ProtoApi

/-!
# What becomes of the methods that a configuration enables

Each service of a build goes through the methods that the declarations of mixins offer, not through
those that the configuration enables. So an enabled method is registered or reported wherever the
declaration of its mixin has it.

* `ApiBuild.AccountsFor` — a service has the method of a mixin, or a diagnostic says why it has not;
* `accountsFor_of_buildApi` — so it is for all services and all enabled methods, but for those that
  the declaration of the mixin does not have;
* `exists_unaccounted` — these are neither registered nor reported.
-/

/-- A service has the method of a mixin, or the build reports that the method had to be dropped, or
    that the mixin is not available. -/
inductive ApiBuild.AccountsFor (b : ApiBuild) (m : Mixin) (name serviceId : String) : Prop where
  | registered (h : b.api.registry.containsMethod (childId serviceId name) = true)
  | dropped (reason : String) (h : .methodDropped (childId serviceId name) reason ∈ b.diagnostics)
  | unavailable (h : .mixinUnavailable m.api ∈ b.diagnostics)

/-- An enabled method of a mixin is accounted for at each service of the build, unless the
    declaration of the mixin does not have it. An override that is reported as invalid is no
    exception, since the own rule of the method is tried next. -/
theorem accountsFor_of_buildApi {set : DescriptorSet} {options : BuildOptions}
    {targets : List FileDecl} (ht : set.targets options.files = .ok targets) {b : ApiBuild}
    (hb : buildApi set options = .ok b) {m : Mixin}
    (hm : m ∈ (MixinPlan.make options.config? (startsOperations targets)).mixins) {name : String}
    (he : (MixinPlan.make options.config? (startsOperations targets)).enabled.contains
      (m.selector name) = true)
    {id : String} (hid : id ∈ b.api.services) :
    b.AccountsFor m name id ∨
      ∀ s, m.service? (set.preparation options targets).sources = some s → ∀ d ∈ s.methods,
        d.name ≠ name := by
  obtain ⟨ctx, hregister, rfl⟩ := exists_registered_of_buildApi ht hb
  have hservices : ((set.preparation options targets).model options.config? ctx).services
      = ((set.preparation options targets).listed options.config? ctx).services :=
        Api.services_annotate _ _ _
  have hlisted : id ∈ ((set.preparation options targets).listed options.config? ctx).services :=
    hservices ▸ hid
  rcases MixinPlan.mem_load_or_reported set options.bundledMixins hm with hplan | hreported
  · by_cases hdeclared : ∃ s, m.service? (set.preparation options targets).sources = some s ∧
        ∃ d ∈ s.methods, d.name = name
    · obtain ⟨s, hs, d, hd, rfl⟩ := hdeclared
      -- The declaration of the mixin offers the method to all services.
      have hoffer : (⟨m, d⟩ : Offer)
          ∈ ((set.preparation options targets).composition options.config?).offers :=
        Composition.mem_offers_iff.2 ⟨hplan, s, hs, hd⟩
      obtain ⟨package, hpackage⟩ := Preparation.exists_packageOf?_included _ _ _ hlisted
      left
      rcases Composition.settled_compose hlisted hpackage hoffer he with h | ⟨reason, h⟩
      · exact .registered ((Preparation.containsMethod_model _ _ _ _).trans h)
      · exact .dropped reason ((Preparation.diagnostics_composed_kept _ _ _).subset h)
    · exact Or.inr fun s hs d hd hname => hdeclared ⟨s, hs, d, hd, hname⟩
  · exact Or.inl (.unavailable ((Preparation.unavailable_kept hregister).subset hreported))

/-- A service without methods of its own. -/
def sitesFile : FileDecl where
  name? := "sites.proto"
  package? := "sites"
  services := [{ name? := "Sites" }]

/-- The file, and a file of a mixin that does not declare the mixin. -/
def sitesSet : DescriptorSet where
  files := [
    sitesFile,
    { name? := "google/cloud/location/locations.proto"
      package? := "google.cloud.location"
      messages := [{ name? := "Location" }] }]

/-- A configuration that enables a method of that mixin, and one of a mixin without a file. -/
def sitesRequest : BuildOptions where
  files := ["sites.proto"]
  config? := some {
    apis := ["google.cloud.location.Locations", "google.iam.v1.IAMPolicy"]
    httpRules := [
      { selector := "google.cloud.location.Locations.GetLocation"
        get? := some "/v1/\x7bname=locations/*\x7d" },
      { selector := "google.iam.v1.IAMPolicy.GetIamPolicy"
        get? := some "/v1/\x7bresource=sites/*\x7d:getIamPolicy" }] }
  bundledMixins := false

theorem buildApi_sitesSet :
    buildApi sitesSet sitesRequest = .ok (sitesSet.outcome sitesRequest [sitesFile]) :=
  buildApi_of_no_messages rfl (by decide +kernel) (by simp [sitesFile])

theorem mem_services_sitesSet :
    ".sites.Sites" ∈ (sitesSet.outcome sitesRequest [sitesFile]).api.services := by
  have hservices : (sitesSet.outcome sitesRequest [sitesFile]).api.services = [".sites.Sites"] :=
    Api.services_annotate _ _ _
  rw [hservices]
  exact List.mem_singleton.2 rfl

/-- The method of the second mixin is accounted for, but not that of the first one. -/
theorem sites_accountsFor : sitesSet.targets sitesRequest.files = .ok [sitesFile] ∧
    buildApi sitesSet sitesRequest = .ok (sitesSet.outcome sitesRequest [sitesFile]) ∧
    ∀ method ∈ [(Mixin.locations, "GetLocation"), (Mixin.iamPolicy, "GetIamPolicy")],
      method.1 ∈ (MixinPlan.make sitesRequest.config? (startsOperations [sitesFile])).mixins ∧
        (MixinPlan.make sitesRequest.config? (startsOperations [sitesFile])).enabled.contains
          (method.1.selector method.2) = true ∧
        ".sites.Sites" ∈ (sitesSet.outcome sitesRequest [sitesFile]).api.services ∧
        ((sitesSet.outcome sitesRequest [sitesFile]).AccountsFor method.1 method.2 ".sites.Sites" ∨
          ∀ s, method.1.service? (sitesSet.preparation sitesRequest [sitesFile]).sources = some s →
            ∀ d ∈ s.methods, d.name ≠ method.2) := by
  have hmixins : ∀ method ∈ [(Mixin.locations, "GetLocation"), (Mixin.iamPolicy, "GetIamPolicy")],
      method.1 ∈ (MixinPlan.make sitesRequest.config? (startsOperations [sitesFile])).mixins := by
    decide
  have henabled : ∀ method ∈ [(Mixin.locations, "GetLocation"), (Mixin.iamPolicy, "GetIamPolicy")],
      (MixinPlan.make sitesRequest.config? (startsOperations [sitesFile])).enabled.contains
        (method.1.selector method.2) = true := by
    decide +kernel
  refine ⟨rfl, buildApi_sitesSet, fun method hmethod =>
      ⟨hmixins method hmethod, henabled method hmethod,
    mem_services_sitesSet, ?_⟩⟩
  exact accountsFor_of_buildApi rfl buildApi_sitesSet (hmixins method hmethod)
    (henabled method hmethod) mem_services_sitesSet

/-- An enabled method may be missing although no diagnostic says so. -/
theorem exists_unaccounted :
    ¬ ∀ (set : DescriptorSet) (options : BuildOptions) (targets : List FileDecl) (b : ApiBuild),
      set.targets options.files = .ok targets → buildApi set options = .ok b →
      ∀ m ∈ (MixinPlan.make options.config? (startsOperations targets)).mixins, ∀ name,
        m.owns (m.selector name) = true →
        (MixinPlan.make options.config? (startsOperations targets)).enabled.contains
          (m.selector name) = true →
        ∀ id ∈ b.api.services,
          b.AccountsFor m name id ∨ ∃ reason,
          .invalidOverride (m.selector name) reason ∈ b.diagnostics := by
  intro h
  have haccount := h sitesSet sitesRequest [sitesFile] _ rfl buildApi_sitesSet Mixin.locations
    (by decide) "GetLocation" (by decide) (by decide +kernel) ".sites.Sites" mem_services_sitesSet
  -- The other mixin is all that is reported, and there are no methods.
  have hdiagnostics : (sitesSet.outcome sitesRequest [sitesFile]).diagnostics
      = [.mixinUnavailable "google.iam.v1.IAMPolicy"] := by
    decide +kernel
  have hmethods : (sitesSet.outcome sitesRequest [sitesFile]).api.registry.containsMethod
      (childId ".sites.Sites" "GetLocation") = false := by
    decide +kernel
  rcases haccount with (hmethod | ⟨reason, hdropped⟩ | hunavailable) | ⟨reason, hoverride⟩
  · exact Bool.false_ne_true (hmethods.symm.trans hmethod)
  · rw [hdiagnostics, List.mem_singleton] at hdropped
    nomatch hdropped
  · rw [hdiagnostics, List.mem_singleton] at hunavailable
    exact absurd hunavailable (by decide)
  · rw [hdiagnostics, List.mem_singleton] at hoverride
    nomatch hoverride

end ProtoApi
