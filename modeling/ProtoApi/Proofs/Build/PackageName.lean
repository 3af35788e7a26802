import ProtoApi.Proofs.Build.Outcome
import ProtoApi.Proofs.Http.RoutingTemplate

namespace ProtoApi

/-!
# Which package a model gets

The APIs of a configuration are gone through up to the first one that is no mixin and has a dot in
its name. Mixins on the way there leave their package behind, which another one replaces later or
none does.

* `packageOf?_eq_some_iff`, `packageOf?_eq_none_iff` — the package of a name is what stands in front
  of its last dot;
* `IsOwnApi`, `Api.IsFallback` — an API that is no mixin, and the package of what is generated;
* `packageFromApis_of_own`, `packageFromApis_of_mixin`, `packageFromApis_of_neither` — the package
  that is found;
* `Api.TakesPackage`, `takesPackage_updatePackageName` — the package of a model that had none
  before.
-/

/-! ### The package of a name -/

/-- A name is split at its last dot as it is cut from behind at its first one. -/
theorem splitAtLastDot?_eq (name : String) :
    splitAtLastDot? name = (RoutingTemplate.cutAt? '.' name.toList.reverse).map fun cut =>
      (String.ofList cut.2.reverse, String.ofList cut.1.reverse) := by
  unfold splitAtLastDot? RoutingTemplate.cutAt?
  simp only
  cases name.toList.reverse.dropWhile (· ≠ '.') <;> rfl

/-- The package of a name is what stands in front of its last dot. -/
theorem packageOf?_eq_some_iff {name package : String} :
    packageOf? name = some package ↔ ∃ service, name = package ++ "." ++ service ∧
      '.' ∉ service.toList := by
  unfold packageOf?
  rw [splitAtLastDot?_eq, Option.map_map, Option.map_eq_some_iff]
  constructor
  · rintro ⟨⟨service, front⟩, hcut, rfl⟩
    obtain ⟨hname, hdot⟩ := RoutingTemplate.cutAt?_eq_some_iff.1 hcut
    refine ⟨String.ofList service.reverse, ?_, by simpa using hdot⟩
    rw [← String.toList_inj, ← List.reverse_reverse name.toList, hname]
    simp
  · rintro ⟨service, rfl, hdot⟩
    refine ⟨(service.toList.reverse, package.toList.reverse), ?_, by simp⟩
    exact RoutingTemplate.cutAt?_eq_some_iff.2 ⟨by simp, by simpa using hdot⟩

/-- A name without a dot has none. -/
theorem packageOf?_eq_none_iff {name : String} : packageOf? name = none ↔ '.' ∉ name.toList := by
  unfold packageOf?
  rw [splitAtLastDot?_eq, Option.map_map, Option.map_eq_none_iff,
    RoutingTemplate.cutAt?_eq_none_iff, List.mem_reverse]

/-! ### The APIs of a configuration -/

/-- That an API is no mixin. -/
def IsOwnApi (api : String) : Prop := ∀ m ∈ Mixin.catalog, m.api ≠ api

instance (api : String) : Decidable (IsOwnApi api) :=
  inferInstanceAs (Decidable (∀ m ∈ Mixin.catalog, m.api ≠ api))

/-- An API is one's own if it is none of the mixins. -/
theorem wellKnown?_eq_none_iff {api : String} : Mixin.wellKnown? api = none ↔ IsOwnApi api := by
  unfold Mixin.wellKnown? IsOwnApi
  simp

/-- A mixin stands in a package. -/
theorem exists_packageOf?_of_mem_catalog {m : Mixin} (hm : m ∈ Mixin.catalog) :
    ∃ package, packageOf? m.api = some package ∧ package ≠ "" := by
  have hall : ∀ m ∈ Mixin.catalog, (packageOf? m.api).any (· ≠ "") = true := by decide +kernel
  simpa [Option.any_eq_true] using hall m hm

/-! ### Going through the APIs -/

section Apis

variable {sofar package api : String} {before after : List String}

/-- An API without a package makes no difference. -/
theorem packageFromApis_cons_of_none (h : packageOf? api = none) (rest : List String) :
    packageFromApis sofar (api :: rest) = packageFromApis sofar rest := by
  rw [packageFromApis, h]

/-- A mixin leaves its package behind. -/
theorem packageFromApis_cons_of_mixin (h : ¬IsOwnApi api) (hp : packageOf? api = some package)
    (rest : List String) : packageFromApis sofar (api :: rest) = packageFromApis package rest := by
  rw [← wellKnown?_eq_none_iff, ← ne_eq, ← Option.isSome_iff_ne_none] at h
  rw [packageFromApis, hp]
  exact if_pos h

/-- An API with a package that is no mixin ends the search. -/
theorem packageFromApis_cons_of_own (h : IsOwnApi api) (hp : packageOf? api = some package)
    (rest : List String) : packageFromApis sofar (api :: rest) = package := by
  rw [← wellKnown?_eq_none_iff] at h
  rw [packageFromApis, hp, h]
  rfl

/-- What stands in front of it makes a difference for what is left behind only. -/
theorem exists_packageFromApis_append (sofar : String)
    (h : ∀ b ∈ before, IsOwnApi b → packageOf? b = none) (rest : List String) :
    ∃ left, packageFromApis sofar (before ++ rest) = packageFromApis left rest := by
  induction before generalizing sofar with
  | nil => exact ⟨sofar, rfl⟩
  | cons b before ih =>
    rw [List.forall_mem_cons] at h
    rw [List.cons_append]
    cases hp : packageOf? b with
    | none =>
      rw [packageFromApis_cons_of_none hp]
      exact ih sofar h.2
    | some p =>
      -- A name with a package can only be that of a mixin here, and the search goes on after it.
      have hmixin : ¬IsOwnApi b := fun hown => by
        rw [h.1 hown] at hp
        nomatch hp
      rw [packageFromApis_cons_of_mixin hmixin hp]
      exact ih p h.2

/-- The first API with a package that is no mixin is found, whatever mixins stand around it. -/
theorem packageFromApis_of_own (hbefore : ∀ b ∈ before, IsOwnApi b → packageOf? b = none)
    (h : IsOwnApi api) (hp : packageOf? api = some package) :
    packageFromApis sofar (before ++ api :: after) = package := by
  obtain ⟨left, hleft⟩ := exists_packageFromApis_append sofar hbefore (api :: after)
  rw [hleft, packageFromApis_cons_of_own h hp]

/-- Without one, nothing is found where no API has a package. -/
theorem packageFromApis_of_none (h : ∀ api ∈ after, packageOf? api = none) :
    packageFromApis sofar after = sofar := by
  induction after with
  | nil => rfl
  | cons api rest ih =>
    rw [List.forall_mem_cons] at h
    rw [packageFromApis_cons_of_none h.1, ih h.2]

/-- Otherwise the last mixin is found. -/
theorem packageFromApis_of_mixin (hbefore : ∀ b ∈ before, IsOwnApi b → packageOf? b = none)
    (h : ¬IsOwnApi api) (hp : packageOf? api = some package)
    (hafter : ∀ b ∈ after, packageOf? b = none) :
    packageFromApis sofar (before ++ api :: after) = package := by
  obtain ⟨left, hleft⟩ := exists_packageFromApis_append sofar hbefore (api :: after)
  rw [hleft, packageFromApis_cons_of_mixin h hp, packageFromApis_of_none hafter]

end Apis

/-! ### The package of a model -/

namespace Api

/-- That a package is that of what is generated: of the first service, else of the first message,
    else of the first enum. It is empty if nothing is generated. -/
def IsFallback (a : Api) (package : String) : Prop :=
  match a.listedServices, a.listedMessages, a.listedEnums with
  | s :: _, _, _ => package = s.package
  | [], m :: _, _ => package = m.package
  | [], [], e :: _ => package = e.package
  | [], [], [] => package = ""

/-- What is fallen back to is the package of the first service, message or enum that is listed. -/
theorem isFallback_fallbackPackage? (a : Api) : a.IsFallback (a.fallbackPackage?.getD "") := by
  unfold IsFallback fallbackPackage?
  split <;> simp_all

/-- The package that a model without one takes from the APIs of a configuration. -/
structure TakesPackage (a : Api) (apis : List String) (package : String) : Prop where
  /-- The first API with a dot that is no mixin decides, whatever mixins stand around it. If nothing
      stands in front of its dot, the package is that of what is generated. -/
  own : ∀ before api after front service, apis = before ++ api :: after →
    (∀ b ∈ before, IsOwnApi b → '.' ∉ b.toList) → IsOwnApi api → api = front ++ "." ++ service →
    '.' ∉ service.toList → if front = "" then a.IsFallback package else package = front
  /-- Without such an API the last mixin decides. -/
  mixin : (∀ api ∈ apis, IsOwnApi api → '.' ∉ api.toList) → ∀ before m after,
    apis = before ++ m.api :: after →
    m ∈ Mixin.catalog → (∀ b ∈ after, IsOwnApi b) → ∃ service, m.api = package ++ "." ++ service ∧
      '.' ∉ service.toList
  neither : (∀ api ∈ apis, IsOwnApi api ∧ '.' ∉ api.toList) → a.IsFallback package

end Api

/-- The package of a configuration stays, and an empty one gives way. -/
theorem packageName_updatePackageName (a : Api) (config? : Option ServiceConfig) :
    (a.updatePackageName config?).packageName =
      if packageFromApis a.packageName ((config?.map (·.apis)).getD []) = "" then
        a.fallbackPackage?.getD ""
      else packageFromApis a.packageName ((config?.map (·.apis)).getD []) := by
  unfold Api.updatePackageName
  by_cases h : packageFromApis a.packageName ((config?.map (·.apis)).getD []) = "" <;> simp [h]

/-- A model without a package takes one as `TakesPackage` says, and nothing else of it changes. -/
theorem takesPackage_updatePackageName (a : Api) (ha : a.packageName = "")
    (config? : Option ServiceConfig) :
    a.TakesPackage ((config?.map (·.apis)).getD []) (a.updatePackageName config?).packageName ∧
      a.updatePackageName config? = { a with
        packageName := (a.updatePackageName config?).packageName } := by
  have hname := packageName_updatePackageName a config?
  rw [ha] at hname
  generalize (config?.map (·.apis)).getD [] = apis at hname ⊢
  have hfallback : packageFromApis "" apis = "" →
      a.IsFallback (a.updatePackageName config?).packageName := by
    intro h
    rw [hname, if_pos h]
    exact a.isFallback_fallbackPackage?
  -- An API has no package if there is no dot in its name.
  have hplain : ∀ {b : String}, (IsOwnApi b → '.' ∉ b.toList) → IsOwnApi b → packageOf? b = none :=
    fun h hown => packageOf?_eq_none_iff.2 (h hown)
  constructor
  · constructor
    case own =>
      rintro before api after front service rfl hbefore hown hapi hservice
      have hfound : packageFromApis "" (before ++ api :: after) = front :=
        packageFromApis_of_own (fun b hb => hplain (hbefore b hb)) hown
          (packageOf?_eq_some_iff.2 ⟨service, hapi, hservice⟩)
      split
      · next hempty => exact hfallback (hfound.trans hempty)
      · next hfront => rw [hname, hfound, if_neg hfront]
    case mixin =>
      rintro hall before m after rfl hm hafter
      obtain ⟨package, hpackage, hne⟩ := exists_packageOf?_of_mem_catalog hm
      have hmixin : ¬IsOwnApi m.api := fun hown => hown m hm rfl
      have hfound : packageFromApis "" (before ++ m.api :: after) = package :=
        packageFromApis_of_mixin (fun b hb => hplain (hall b (by simp [hb]))) hmixin hpackage
          fun b hb => hplain (hall b (by simp [hb])) (hafter b hb)
      rw [hname, hfound, if_neg hne]
      exact packageOf?_eq_some_iff.1 hpackage
    case neither =>
      intro hall
      exact hfallback (packageFromApis_of_none fun b hb => packageOf?_eq_none_iff.2 (hall b hb).2)
  · obtain ⟨name, h⟩ := a.exists_updatePackageName config?
    rw [h]

/-- A model with one service, whose id and package are given. -/
def modelOfService (id package : String) : Api where
  services := [id]
  registry := ({} : Registry).addService { id, package }

/-- The package of the own API is taken from between two mixins. -/
theorem takesPackage_library :
    let a := modelOfService ".library.v1.Library" "library.v1"
    let config : ServiceConfig := {
      apis := ["google.cloud.location.Locations", "Shelves", "library.v2.Library",
        "google.iam.v1.IAMPolicy"] }
    a.packageName = "" ∧
      a.TakesPackage config.apis (a.updatePackageName (some config)).packageName ∧
      (a.updatePackageName (some config)).packageName = "library.v2" := by
  intro a config
  have ha : a.packageName = "" := rfl
  exact ⟨ha, (takesPackage_updatePackageName a ha (some config)).1, by decide +kernel⟩

/-- An own API does not keep the package of a mixin away if there is no dot in its name, though the
    package of the first service is another one. -/
theorem exists_package_of_mixin :
    ∃ (a : Api) (config : ServiceConfig), a.packageName = "" ∧ (∃ api ∈ config.apis, IsOwnApi api) ∧
      (∀ api ∈ config.apis, IsOwnApi api → '.' ∉ api.toList) ∧ a.IsFallback "library.v1" ∧
      (a.updatePackageName (some config)).packageName = "google.cloud.location" := by
  refine ⟨modelOfService ".library.v1.Library" "library.v1",
    { apis := ["google.cloud.location.Locations", "Library"] },
    rfl, ⟨"Library", by decide, by decide⟩, by decide +kernel, rfl, by decide +kernel⟩

end ProtoApi
