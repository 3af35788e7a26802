import ProtoApi.Build.Targets
import ProtoApi.Proofs.Except
import Mathlib.Data.List.Lattice
import Mathlib.Data.List.Nodup
import Mathlib.Data.List.Pairwise
import Mathlib.Data.List.Perm.Basic

namespace ProtoApi

/-!
# Which files are generated

* `DescriptorSet.meant?`, `addNew`, `targets_eq_ok_iff` — requests are met if each of them means a
  file, by these files without repetitions;
* `mem_foldl_addNew_iff`, `nodup_foldl_addNew` — the files without repetitions;
* `targets_subset`, `nodup_flatMap_targets` — they are files of the set, and their parts can be told
  apart where those of all files can;
* `targets_perm_requested` — requests in another order are met by the same files in another order.
-/

/-! ### Parts of files -/

section Parts

variable {α β : Type} {parts : α → List β} {key : β →
  String} {l : List α} (h : ((l.flatMap parts).map key).Nodup)
include h

/-- Parts of different elements have different keys where all parts have. -/
theorem disjoint_of_nodup_flatMap {a b : α} (ha : a ∈ l) (hb : b ∈ l) (hne : a ≠ b) :
    ((parts a).map key).Disjoint ((parts b).map key) := by
  have hsymm : Std.Symm (Function.onFun List.Disjoint fun a => (parts a).map key) :=
    ⟨fun _ _ hd => List.Disjoint.symm hd⟩
  rw [List.map_flatMap, List.nodup_flatMap] at h
  exact h.2.forall ha hb hne

/-- Parts of different elements have different keys, if all parts together have. -/
theorem key_ne_of_nodup_flatMap {a b : α} (ha : a ∈ l) (hb : b ∈ l) (hne : a ≠ b) {x y : β}
    (hx : x ∈ parts a) (hy : y ∈ parts b) : key x ≠ key y := by
  intro heq
  exact disjoint_of_nodup_flatMap h ha hb hne (List.mem_map_of_mem hx)
    (heq ▸ List.mem_map_of_mem hy)

/-- Parts of some of the elements have different keys where all parts have. -/
theorem nodup_flatMap_of_subset {chosen : List α} (hn : chosen.Nodup) (hs : chosen ⊆ l) :
    ((chosen.flatMap parts).map key).Nodup := by
  have hdisjoint := fun a (ha : a ∈ chosen) b (hb : b ∈ chosen) =>
    disjoint_of_nodup_flatMap h (hs ha) (hs hb)
  rw [List.map_flatMap, List.nodup_flatMap] at h ⊢
  exact ⟨fun a ha => h.1 a (hs ha), hn.imp_of_mem fun ha hb hne => hdisjoint _ ha _ hb hne⟩

end Parts

/-! ### Files without repetitions -/

/-- Adds a file unless there is one of its name. -/
def addNew (targets : List FileDecl) (f : FileDecl) : List FileDecl :=
  if targets.any (·.name = f.name) then targets else targets ++ [f]

section AddNew

variable {before files : List FileDecl}

/-- Among files that are told apart by their names, none is lost. -/
theorem mem_foldl_addNew_iff
    (h : ∀ f ∈ before ++ files, ∀ g ∈ before ++ files, f.name = g.name → f = g) {x : FileDecl} :
    x ∈ files.foldl addNew before ↔ x ∈ before ++ files := by
  induction files generalizing before with
  | nil =>
    rw [List.append_nil]
    rfl
  | cons f rest ih =>
    rw [List.foldl_cons]
    by_cases hf : before.any (·.name = f.name) = true
    · -- The file is there already, since no other one has its name.
      obtain ⟨g, hg, hname⟩ := List.any_eq_true.1 hf
      have hgf : g = f :=
        h g (List.mem_append_left _ hg) f (List.mem_append_right _ List.mem_cons_self)
        (of_decide_eq_true hname)
      subst hgf
      have hsub : ∀ y ∈ before ++ rest, y ∈ before ++ g :: rest := fun y hy =>
        (List.mem_append.1 hy).elim (List.mem_append_left _) fun hr =>
          List.mem_append_right _ (List.mem_cons_of_mem _ hr)
      have hadd : addNew before g = before := if_pos hf
      rw [hadd, ih fun y hy z hz => h y (hsub y hy) z (hsub z hz)]
      refine ⟨hsub x, fun hx => ?_⟩
      rw [List.mem_append, List.mem_cons] at hx
      rw [List.mem_append]
      rcases hx with hx | rfl | hx
      · exact Or.inl hx
      · exact Or.inl hg
      · exact Or.inr hx
    · have hadd : addNew before f = before ++ [f] := if_neg hf
      rw [hadd, ih, List.append_assoc]
      · rfl
      · rw [List.append_assoc]
        exact h

/-- No file comes from elsewhere. -/
theorem mem_of_mem_foldl_addNew {x : FileDecl} (h : x ∈ files.foldl addNew before) :
    x ∈ before ++ files := by
  induction files generalizing before with
  | nil => exact List.mem_append_left _ h
  | cons f rest ih =>
    have hx : x ∈ addNew before f ++ rest := ih h
    unfold addNew at hx
    split at hx
    · exact (List.mem_append.1 hx).elim (List.mem_append_left _) fun hr =>
        List.mem_append_right _ (List.mem_cons_of_mem _ hr)
    · rw [List.append_assoc] at hx
      exact hx

/-- No name comes twice. -/
theorem nodup_foldl_addNew (h : (before.map (·.name)).Nodup) :
    ((files.foldl addNew before).map (·.name)).Nodup := by
  induction files generalizing before with
  | nil => exact h
  | cons f rest ih =>
    rw [List.foldl_cons]
    -- A file is appended only if no file of its name is there.
    refine ih ?_
    unfold addNew
    split
    · exact h
    · next hf =>
      rw [List.map_append]
      refine List.nodup_append.2 ⟨h, List.nodup_singleton _, ?_⟩
      intro a ha b hb hab
      obtain ⟨g, hg, rfl⟩ := List.mem_map.1 ha
      obtain rfl := List.mem_singleton.1 hb
      exact hf (List.any_eq_true.2 ⟨g, hg, decide_eq_true hab⟩)

end AddNew

/-! ### Requests -/

namespace DescriptorSet

variable {s : DescriptorSet}

/-- The first file that a path means. -/
def meant? (s : DescriptorSet) (path : String) : Option FileDecl := s.files.find? (·.matches path)

/-- A file that is meant is a file of the set, and it has a name. -/
theorem mem_of_meant? {path : String} {f : FileDecl} (h : s.meant? path = some f) :
    f ∈ s.files ∧ f.name ≠ "" := by
  refine ⟨List.mem_of_find?_eq_some h, ?_⟩
  unfold meant? at h
  have hmatches : f.matches path = true :=
    List.find?_some (p := fun f : FileDecl => f.matches path) h
  unfold FileDecl.matches at hmatches
  rw [Bool.and_eq_true, decide_eq_true_eq] at hmatches
  exact hmatches.1

/-- Going through the paths succeeds if each of them means a file, and what it adds are these files,
    in the order of the paths and each of them once. -/
theorem foldlM_addTarget_eq_ok_iff {requested : List String} {before targets : List FileDecl} :
    requested.foldlM s.addTarget before = .ok targets ↔
      (∀ path ∈ requested, (s.meant? path).isSome = true) ∧
        (requested.filterMap s.meant?).foldl addNew before = targets := by
  induction requested generalizing before with
  | nil => simp [pure, Except.pure]
  | cons path rest ih =>
    rw [List.foldlM_cons, bind_eq_ok_iff]
    simp only [ih, List.forall_mem_cons]
    unfold addTarget
    cases hf : s.meant? path with
    | none =>
      have hnone : s.files.find? (·.matches path) = none := hf
      simp [hnone]
    | some f =>
      have hsome : s.files.find? (·.matches path) = some f := hf
      simp [hsome, hf, addNew]

/-- Requests are met if each of them means a file. -/
theorem targets_eq_ok_iff {requested : List String} (hr : requested ≠ [])
    {targets : List FileDecl} :
    s.targets requested = .ok targets ↔
      (∀ path ∈ requested, (s.meant? path).isSome = true) ∧
        (requested.filterMap s.meant?).foldl addNew [] = targets := by
  unfold DescriptorSet.targets
  rw [if_neg fun he => hr (List.isEmpty_iff.1 he)]
  exact foldlM_addTarget_eq_ok_iff

/-- Files that are told apart by their names. -/
theorem eq_of_name_eq (hn : ((s.files.map (·.name)).filter (· ≠ "")).Nodup) {f g : FileDecl}
    (hf : f ∈ s.files) (hg : g ∈ s.files) (hname : f.name ≠ "") (h : f.name = g.name) : f = g := by
  rw [List.filter_map] at hn
  have hmem : ∀ x ∈ s.files, x.name ≠ "" →
      x ∈ s.files.filter ((fun n => decide (n ≠ "")) ∘ (·.name)) :=
    fun x hx hne => List.mem_filter.2 ⟨hx, decide_eq_true hne⟩
  exact List.inj_on_of_nodup_map hn (hmem f hf hname) (hmem g hg (h ▸ hname)) h

section Requests

variable (hn : ((s.files.map (·.name)).filter (· ≠ "")).Nodup) {requested requested' : List String}
include hn

/-- The files that meet requests are those that are meant. -/
theorem mem_targets_iff (hr : requested ≠ []) {targets : List FileDecl}
    (h : s.targets requested = .ok targets) {x : FileDecl} :
    x ∈ targets ↔ ∃ path ∈ requested, s.meant? path = some x := by
  obtain ⟨-, rfl⟩ := (targets_eq_ok_iff hr).1 h
  have hinj : ∀ f ∈ [] ++ requested.filterMap s.meant?, ∀ g ∈ [] ++ requested.filterMap s.meant?,
      f.name = g.name → f = g := by
    intro f hf g hg hname
    obtain ⟨path, -, hf⟩ := List.mem_filterMap.1 hf
    obtain ⟨path', -, hg⟩ := List.mem_filterMap.1 hg
    exact eq_of_name_eq hn (mem_of_meant? hf).1 (mem_of_meant? hg).1 (mem_of_meant? hf).2 hname
  rw [mem_foldl_addNew_iff hinj, List.nil_append, List.mem_filterMap]

omit hn in
/-- No file is generated twice. -/
theorem nodup_targets (hr : requested ≠ []) {targets : List FileDecl}
    (h : s.targets requested = .ok targets) : (targets.map (·.name)).Nodup := by
  obtain ⟨-, rfl⟩ := (targets_eq_ok_iff hr).1 h
  exact nodup_foldl_addNew List.nodup_nil

omit hn in
/-- All files that are generated are files of the set. -/
theorem targets_subset {targets : List FileDecl} (h : s.targets requested = .ok targets) :
    targets ⊆ s.files := by
  by_cases hr : requested = []
  · subst hr
    obtain rfl : s.files = targets := Except.ok.inj h
    exact fun _ hf => hf
  · obtain ⟨-, rfl⟩ := (targets_eq_ok_iff hr).1 h
    intro f hf
    obtain ⟨path, -, hmeant⟩ := List.mem_filterMap.1 (mem_of_mem_foldl_addNew hf)
    exact (mem_of_meant? hmeant).1

omit hn in
/-- Parts of the files that are generated have different keys where those of all files have. -/
theorem nodup_flatMap_targets {β : Type} {parts : FileDecl → List β} {key : β → String}
    (hparts : ((s.files.flatMap parts).map key).Nodup) {targets : List FileDecl}
    (h : s.targets requested = .ok targets) : ((targets.flatMap parts).map key).Nodup := by
  by_cases hr : requested = []
  · subst hr
    obtain rfl : s.files = targets := Except.ok.inj h
    exact hparts
  · exact nodup_flatMap_of_subset hparts (nodup_targets hr h).of_map (targets_subset h)

/-- Requests in another order are met by the same files, in some order. -/
theorem targets_perm_requested (hr : requested ≠ []) (hp : requested.Perm requested')
    {targets : List FileDecl} (h : s.targets requested = .ok targets) :
    ∃ targets', s.targets requested' = .ok targets' ∧ targets.Perm targets' := by
  have hr' : requested' ≠ [] := fun he => hr (List.perm_nil.1 (he ▸ hp))
  have h' : s.targets requested' = .ok ((requested'.filterMap s.meant?).foldl addNew []) :=
    (targets_eq_ok_iff hr').2 ⟨fun path hpath =>
      ((targets_eq_ok_iff hr).1 h).1 path (hp.mem_iff.2 hpath), rfl⟩
  refine ⟨_, h', ?_⟩
  -- Neither list has a file twice, and both have the files that are meant.
  rw [List.perm_ext_iff_of_nodup (nodup_targets hr h).of_map (nodup_targets hr' h').of_map]
  intro x
  rw [mem_targets_iff hn hr h, mem_targets_iff hn hr' h']
  simp only [hp.mem_iff]

end Requests

end DescriptorSet

end ProtoApi
