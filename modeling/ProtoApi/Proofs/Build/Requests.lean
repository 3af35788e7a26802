import ProtoApi.Proofs.Build.Targets
import Mathlib.Data.List.Forall2

namespace ProtoApi

/-!
# Which file a path means

A path means a file if it ends with the name of the file, be it behind a slash or in the middle of a
name.

* `FileDecl.IsMeant`, `matches_eq_true_iff`, `isSome_meant?_iff` — what a path has to be for a file;
* `DescriptorSet.IsChosen`, `isChosen_iff` — the file that a path alone is met by;
* `DescriptorSet.Meets`, `meets_targets` — several paths are met by the files that they are met by
  alone, and if one of them means no file, the first of these is reported;
* `exists_chosen_within_name` — a path may mean a file whose name begins in the middle of one of its
  own.
-/

/-- The path ends with the name of the file. -/
def FileDecl.IsMeant (f : FileDecl) (path : String) : Prop :=
  f.name ≠ "" ∧ f.name.toList <:+ path.toList

/-- A path means a file if it ends with the name of the file. -/
theorem FileDecl.matches_eq_true_iff {f : FileDecl} {path : String} :
    f.matches path = true ↔ f.IsMeant path := by
  unfold FileDecl.matches FileDecl.IsMeant
  rw [Bool.and_eq_true, decide_eq_true_eq, List.isSuffixOf_iff_suffix]

namespace DescriptorSet

variable {s : DescriptorSet}

/-- A path means a file if it is that of any. -/
theorem isSome_meant?_iff {path : String} :
    (s.meant? path).isSome = true ↔ ∃ f ∈ s.files, f.IsMeant path := by
  unfold meant?
  rw [List.find?_isSome]
  simp only [FileDecl.matches_eq_true_iff]

/-- `f` is the file that a path is met by. -/
structure IsChosen (s : DescriptorSet) (path : String) (f : FileDecl) : Prop where
  targets : s.targets [path] = .ok [f]
  mem : f ∈ s.files
  meant : f.IsMeant path
  /-- No other file is chosen if there is only one that the path ends with the name of, wherever
      that stands. -/
  only : ∀ g ∈ s.files, (∀ g' ∈ s.files, g'.IsMeant path → g' = g) → f = g

/-- The first file that a path means is the one that it is met by. -/
theorem isChosen_iff {path : String} {f : FileDecl} :
    s.IsChosen path f ↔ s.meant? path = some f := by
  have htargets : s.targets [path] = .ok [f] ↔ s.meant? path = some f := by
    rw [targets_eq_ok_iff (List.cons_ne_nil _ _)]
    cases hf : s.meant? path with
    | none => simp [hf]
    | some g => simp [hf, addNew]
  constructor
  · exact fun h => htargets.1 h.targets
  · intro h
    have hmeant : f.IsMeant path :=
      FileDecl.matches_eq_true_iff.1 (List.find?_some (p := fun f : FileDecl => f.matches path) h)
    exact ⟨htargets.2 h, (mem_of_meant? h).1, hmeant, fun g _ hg => hg f (mem_of_meant? h).1 hmeant⟩

/-- What requests are met by: all files if there are none, and otherwise the files that the paths
    are met by, each file once. If some path means no file, the first such path is reported. -/
structure Meets (s : DescriptorSet) (requested : List String)
    (result : Except BuildError (List FileDecl)) : Prop where
  all : requested = [] → result = .ok s.files
  chosen : requested ≠ [] → ∀ targets, result = .ok targets ↔
    ∃ chosen, List.Forall₂ s.IsChosen requested chosen ∧ chosen.foldl addNew [] = targets
  missing : ∀ e, result = .error e ↔ ∃ before path after, requested = before ++ path :: after ∧
    (∀ p ∈ before, ∃ f ∈ s.files, f.IsMeant p) ∧ (∀ f ∈ s.files, ¬ f.IsMeant path) ∧
    e = .missingFile path

/-- Paths that all mean a file. -/
theorem forall₂_isChosen_iff {requested : List String} {chosen : List FileDecl} :
    List.Forall₂ s.IsChosen requested chosen ↔
      (∀ path ∈ requested, (s.meant? path).isSome = true) ∧
      requested.filterMap s.meant? = chosen := by
  induction requested generalizing chosen with
  | nil =>
    rw [List.forall₂_nil_left_iff]
    exact ⟨fun h => ⟨fun _ hp => absurd hp List.not_mem_nil, h.symm⟩, fun h => h.2.symm⟩
  | cons path rest ih =>
    rw [List.forall₂_cons_left_iff, List.forall_mem_cons]
    constructor
    · rintro ⟨f, others, hf, hothers, rfl⟩
      rw [isChosen_iff] at hf
      obtain ⟨hmeant, hfiles⟩ := ih.1 hothers
      exact ⟨⟨Option.isSome_iff_exists.2 ⟨f, hf⟩,
        hmeant⟩, by rw [List.filterMap_cons_some hf, hfiles]⟩
    · rintro ⟨⟨hpath, hmeant⟩, rfl⟩
      obtain ⟨f, hf⟩ := Option.isSome_iff_exists.1 hpath
      exact ⟨f, rest.filterMap s.meant?, isChosen_iff.2 hf, ih.2 ⟨hmeant, rfl⟩,
        List.filterMap_cons_some hf⟩

/-- A path is met by the file that it means, or it is reported. -/
theorem addTarget_eq (targets : List FileDecl) (path : String) :
    s.addTarget targets path
      = (s.meant? path).elim (.error (.missingFile path)) fun f => .ok (addNew targets f) := by
  unfold addTarget meant?
  cases s.files.find? (·.matches path) <;> rfl

/-- Paths are met one after the other until one of them means no file. -/
theorem foldlM_addTarget_eq_error_iff {requested : List String} {met : List FileDecl}
    {e : BuildError} :
    requested.foldlM s.addTarget met = .error e ↔
      ∃ path, requested.find? (fun p => (s.meant? p).isNone) = some path ∧
      e = .missingFile path := by
  induction requested generalizing met with
  | nil => exact ⟨nofun, nofun⟩
  | cons first rest ih =>
    rw [List.foldlM_cons, addTarget_eq, List.find?_cons]
    cases s.meant? first with
    | none =>
      constructor
      · intro h
        cases h
        exact ⟨first, rfl, rfl⟩
      · rintro ⟨path, hpath, rfl⟩
        cases hpath
        rfl
    | some f => exact ih

/-- The first path that means no file. -/
theorem find?_isNone_meant?_eq_some_iff {requested : List String} {path : String} :
    requested.find? (fun p => (s.meant? p).isNone) = some path ↔
      ∃ before after, requested = before ++ path :: after ∧
        (∀ p ∈ before, ∃ f ∈ s.files, f.IsMeant p) ∧ ∀ f ∈ s.files, ¬ f.IsMeant path := by
  have hnone : ∀ p, (s.meant? p).isNone = true ↔ ¬ ∃ f ∈ s.files, f.IsMeant p := by
    intro p
    rw [← isSome_meant?_iff, Option.not_isSome_iff_eq_none, Option.isNone_iff_eq_none]
  rw [List.find?_eq_some_iff_append, hnone]
  simp only [Bool.not_eq_true', ← Bool.not_eq_true, hnone, not_not]
  constructor
  · rintro ⟨hpath, before, after, hsplit, hbefore⟩
    exact ⟨before, after, hsplit, hbefore, fun f hf hm => hpath ⟨f, hf, hm⟩⟩
  · rintro ⟨before, after, hsplit, hbefore, hpath⟩
    exact ⟨fun ⟨f, hf, hm⟩ => hpath f hf hm, before, after, hsplit, hbefore⟩

/-- Requests are met path by path. -/
theorem meets_targets (s : DescriptorSet) (requested : List String) :
    s.Meets requested (s.targets requested) := by
  constructor
  case all =>
    rintro rfl
    rfl
  case chosen =>
    intro hr targets
    rw [targets_eq_ok_iff hr]
    constructor
    · rintro ⟨hmeant, htargets⟩
      exact ⟨_, forall₂_isChosen_iff.2 ⟨hmeant, rfl⟩, htargets⟩
    · rintro ⟨chosen, hchosen, htargets⟩
      obtain ⟨hmeant, rfl⟩ := forall₂_isChosen_iff.1 hchosen
      exact ⟨hmeant, htargets⟩
  case missing =>
    intro e
    -- An empty request does not fail, and neither does the fold over it.
    have hfold : s.targets requested = .error e ↔ requested.foldlM s.addTarget [] = .error e := by
      unfold DescriptorSet.targets
      cases requested with
      | nil => exact ⟨nofun, nofun⟩
      | cons path rest => exact Iff.rfl
    rw [hfold, foldlM_addTarget_eq_error_iff]
    simp only [find?_isNone_meant?_eq_some_iff]
    constructor
    · rintro ⟨path, ⟨before, after, hsplit, hbefore, hpath⟩, he⟩
      exact ⟨before, path, after, hsplit, hbefore, hpath, he⟩
    · rintro ⟨before, path, after, hsplit, hbefore, hpath, he⟩
      exact ⟨path, ⟨before, after, hsplit, hbefore, hpath⟩, he⟩

end DescriptorSet

/-- A file whose name is the end of a longer one. -/
def widgetSet : DescriptorSet where
  files := [{ name? := "widget.proto" }]

/-- A path may be met by a file whose name begins in the middle of one of its own. -/
theorem exists_chosen_within_name :
    ¬ ∀ (s : DescriptorSet) (path : String) (f : FileDecl), (∀ g ∈ s.files, g.name ≠ "") →
      (s.files.map (·.name)).Nodup → s.targets [path] = .ok [f] →
      (f.name = path ∨ '/' :: f.name.toList <:+ path.toList) ∧
        ∀ g ∈ s.files, g.name = path ∨ '/' :: g.name.toList <:+ path.toList →
          g.name.length ≤ f.name.length := by
  intro h
  have hclaim :=
    h widgetSet "gizmo/subwidget.proto" { name? := "widget.proto" } (by decide) (by decide) rfl
  exact absurd hclaim.1 (by decide)

end ProtoApi
