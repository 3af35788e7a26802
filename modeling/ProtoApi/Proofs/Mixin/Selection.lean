import ProtoApi.Proofs.Build.Names
import ProtoApi.Proofs.Mixin.Additions

namespace ProtoApi

/-!
# Which methods a plan selects

A selector is the name of a mixin, a dot and the name of a method. No mixin of the catalog has a
name that goes on from the name of another one, so that a selector tells which mixin it is of.

* `Mixin.owns_eq_true_iff`, `Mixin.selector_inj` — selectors can be taken apart;
* `MixinPlan.contains_enabled_make` — what a plan enables;
* `dotless_of_make` — the names of the methods that can be taken over have no dots.
-/

/-! ### Selectors -/

namespace Mixin

/-- A mixin owns the selectors of all methods that have no dots in their names. -/
theorem owns_eq_true_iff {m : Mixin} {selector : String} :
    m.owns selector = true ↔ ∃ name, selector = m.selector name ∧ '.' ∉ name.toList := by
  unfold owns Mixin.selector
  rw [Bool.and_eq_true, decide_eq_true_eq, List.isPrefixOf_iff_prefix]
  generalize m.api ++ "." = lead
  constructor
  · rintro ⟨⟨rest, hrest⟩, hdot⟩
    refine ⟨String.ofList rest, ?_, ?_⟩
    · rw [← String.toList_inj, ← hrest, String.toList_append, String.toList_ofList]
    · rw [← hrest, List.drop_left] at hdot
      rw [String.toList_ofList]
      exact hdot
  · rintro ⟨name, rfl, hdot⟩
    rw [String.toList_append, List.drop_left]
    exact ⟨List.prefix_append _ _, hdot⟩

/-- Mixins with the same name are the same, and no name goes on from another one. -/
private theorem catalog_apart : ∀ m ∈ catalog, ∀ m' ∈ catalog,
    (m.api = m'.api → m = m') ∧ ¬ (m.api.toList ++ ['.']) <+: m'.api.toList := by
  decide

/-- A selector tells the mixin and the method, if the name of the method has no dots. -/
theorem selector_inj {m m' : Mixin} (hm : m ∈ catalog) (hm' : m' ∈ catalog) {a b : String}
    (hb : '.' ∉ b.toList) (h : m.selector a = m'.selector b) : m = m' ∧ a = b := by
  have hlist : m.api.toList ++ '.' :: a.toList = m'.api.toList ++ '.' :: b.toList := by
    rw [← toList_childId, ← toList_childId]
    exact congrArg String.toList h
  rcases List.append_eq_append_iff.1 hlist with ⟨c, hq, hc⟩ | ⟨c, hp, hc⟩
  · cases c with
    | nil =>
      rw [List.nil_append, List.cons.injEq] at hc
      rw [List.append_nil] at hq
      exact ⟨(catalog_apart m hm m' hm').1 (String.toList_inj.1 hq.symm), String.toList_inj.1 hc.2⟩
    | cons x c =>
      -- The name of the second mixin would go on from that of the first one.
      rw [List.cons_append, List.cons.injEq] at hc
      refine absurd ⟨c, ?_⟩ (catalog_apart m hm m' hm').2
      rw [hq, ← hc.1, List.append_assoc]
      rfl
  · obtain ⟨hqp, hba⟩ := eq_of_append_dot hb hp hc
    exact ⟨(catalog_apart m hm m' hm').1 (String.toList_inj.1 hqp.symm),
      (String.toList_inj.1 hba).symm⟩

end Mixin

/-! ### Plans -/

namespace MixinPlan

/-- The selectors of a configuration that belong to a mixin of the plan. -/
def selected (config? : Option ServiceConfig) (force : Bool) : List String :=
  (((config?.map (·.httpRules)).getD []).map (·.selector)).filter fun s =>
    (make config? force).mixins.any (·.owns s)

/-- A plan enables what its configuration selects, and what it is forced to. -/
theorem enabled_make (config? : Option ServiceConfig) (force : Bool) :
    (make config? force).enabled
      = if force && !(selected config? force).any Mixin.operations.owns then
          (NameSet.ofNames (selected config? force)).add getOperation
        else NameSet.ofNames (selected config? force) := by
  unfold selected
  rw [mixins_make]
  exact apply_ite enabled _ _ _

/-- A method is enabled if the configuration selects it. If operations are started, the method that
    asks for one is enabled as well, unless the configuration selects methods of that mixin
    itself. -/
theorem contains_enabled_make {config? : Option ServiceConfig} {force : Bool} {selector : String} :
    (make config? force).enabled.contains selector = true ↔
      selector ∈ selected config? force ∨
        selector = getOperation ∧ force = true ∧
        (selected config? force).any Mixin.operations.owns = false := by
  rw [enabled_make]
  split
  · -- The forced selector is added to those that the configuration selects.
    next h =>
    rw [Bool.and_eq_true, Bool.not_eq_true'] at h
    rw [NameSet.contains_add, NameSet.contains_ofNames, Bool.or_eq_true, decide_eq_true_eq,
      decide_eq_true_eq]
    constructor
    · rintro (hs | hs)
      · exact Or.inr ⟨hs, h⟩
      · exact Or.inl hs
    · rintro (hs | ⟨hs, -⟩)
      · exact Or.inr hs
      · exact Or.inl hs
  · next h =>
    rw [Bool.and_eq_true, Bool.not_eq_true'] at h
    rw [NameSet.contains_ofNames, decide_eq_true_eq]
    exact ⟨Or.inl, fun h' => h'.resolve_right fun h'' => h ⟨h''.2.1, h''.2.2⟩⟩

/-- What a plan enables belongs to a mixin of the catalog. -/
theorem exists_owns_of_enabled {config? : Option ServiceConfig} {force : Bool} {selector : String}
    (h : (make config? force).enabled.contains selector = true) :
    ∃ m ∈ Mixin.catalog, m.owns selector = true := by
  rcases contains_enabled_make.1 h with h | ⟨rfl, -⟩
  · obtain ⟨m, hm, howns⟩ := List.any_eq_true.1 (List.mem_filter.1 h).2
    exact ⟨m, mem_catalog_of_mem_make hm, howns⟩
  · exact ⟨Mixin.operations, by decide, by decide⟩

end MixinPlan

/-- The methods that a plan takes over have names without dots, wherever the mixins are found. -/
theorem dotless_of_make {c : Composition} {config? : Option ServiceConfig} {force : Bool}
    (hmixins : ∀ m ∈ c.plan.mixins, m ∈ (MixinPlan.make config? force).mixins)
    (henabled : c.plan.enabled = (MixinPlan.make config? force).enabled) : c.Dotless := by
  intro o ho he
  obtain ⟨hm, -⟩ := Composition.mem_offers_iff.1 ho
  rw [henabled] at he
  obtain ⟨m', hm', howns⟩ := MixinPlan.exists_owns_of_enabled he
  obtain ⟨name, hname, hdot⟩ := Mixin.owns_eq_true_iff.1 howns
  obtain ⟨-, rfl⟩ :=
    Mixin.selector_inj (MixinPlan.mem_catalog_of_mem_make (hmixins o.mixin hm)) hm' hdot hname
  exact hdot

end ProtoApi
