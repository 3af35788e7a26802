import ProtoApi.Command.FileTree
import ProtoApi.Proofs.Except

namespace ProtoApi.FileTree

/-!
# Files that are written

* `resolve_put` — a path that leads somewhere leads there still when a file has been written;
* `readText_of_writeText` — what is written under a path is read under it, and other files stay as
  they are;
* `files_makeDirectories` — making directories changes no file, be it that all of them can be made
  or not.
-/

variable {t t' : FileTree} {path text : String}

/-! ### Paths after a file is written -/

@[simp] theorem isDirectory_put (t : FileTree) (p q : Place) (text : String) :
    (t.put p text).isDirectory q = t.isDirectory q := rfl

/-- What is written is there. -/
@[simp] theorem contains_put_self (t : FileTree) (p : Place) (text : String) :
    (t.put p text).contains p = true := by
  simp [contains]

/-- Nothing goes away. -/
theorem contains_put_of_contains {q : Place} (h : t.contains q = true) (p : Place) (text : String) :
    (t.put p text).contains q = true := by
  by_cases hq : q = p
  · rw [hq]
    exact contains_put_self t p text
  · unfold contains at *
    rw [file?_put_of_ne t text hq, isDirectory_put]
    exact h

/-- A step that can be taken can be taken still. -/
theorem step_put {here there : Place} {piece : String} (h : t.step here piece = .ok there)
    (p : Place) (text : String) : (t.put p text).step here piece = .ok there := by
  unfold step at *
  rw [ite_error_eq_ok_iff] at h ⊢
  obtain ⟨hhere, h⟩ := h
  refine ⟨hhere, ?_⟩
  by_cases hstays : Path.stays piece = true
  · rwa [if_pos hstays] at h ⊢
  · rw [if_neg hstays] at h ⊢
    by_cases hup : piece = ".."
    · rwa [if_pos hup] at h ⊢
    · rw [if_neg hup, ite_error_eq_ok_iff] at h ⊢
      obtain ⟨hlong, h⟩ := h
      refine ⟨hlong, ?_⟩
      -- Only the last question is about what there is, and a file that is written takes nothing
      -- away.
      split at h
      · next hthere => rwa [if_pos (contains_put_of_contains hthere p text)]
      · cases h

/-- A way that can be gone can be gone still. -/
theorem foldlM_step_put {pieces : List String} {here there : Place}
    (h : pieces.foldlM t.step here = .ok there) (p : Place) (text : String) :
    pieces.foldlM (t.put p text).step here = .ok there := by
  induction pieces generalizing here with
  | nil => exact h
  | cons piece rest ih =>
    rw [List.foldlM_cons] at h ⊢
    obtain ⟨next, hstep, hrest⟩ := bind_eq_ok_iff.1 h
    exact bind_eq_ok_iff.2 ⟨next, step_put hstep p text, ih hrest⟩

/-! ### Writing and reading -/

/-- The pieces of a path that does not end in a slash are all kept. -/
theorem eq_of_trimmed_length {pieces : List String}
    (h : pieces.length ≤ (pieces.reverse.dropWhile (·.isEmpty)).reverse.length) :
    (pieces.reverse.dropWhile (·.isEmpty)).reverse = pieces := by
  have hsuffix : pieces.reverse.dropWhile (·.isEmpty) <:+ pieces.reverse := List.dropWhile_suffix _
  have hlength : (pieces.reverse.dropWhile (·.isEmpty)).length = pieces.reverse.length := by
    have hle := hsuffix.length_le
    simp only [List.length_reverse] at h hle ⊢
    omega
  rw [hsuffix.eq_of_length hlength, List.reverse_reverse]

/-- Where the pieces of a path start does not depend on the last one, unless that is empty. -/
theorem origin_dropLast {pieces : List String} {name : String} (hlast : pieces.getLast? = some name)
    (hname : name ≠ "") : origin pieces.dropLast = origin pieces := by
  match pieces with
  | [] => rfl
  | [first] =>
    obtain rfl : first = name := by simpa using hlast
    simp [origin, hname]
  | first :: second :: rest => simp [origin]

/-- What a file is written to is a place that its path leads to from then on. -/
theorem exists_put_of_writeText (h : t.writeText path text = .ok t') :
    ∃ p, t' = t.put p text ∧ t'.resolve path = .ok p := by
  unfold writeText at h
  obtain ⟨checked, hlength, h⟩ := bind_eq_ok_iff.1 h
  obtain ⟨here, hfollow, h⟩ := bind_eq_ok_iff.1 h
  split at h
  · cases h
  · next name hlast =>
    simp only [ite_error_eq_ok_iff] at h
    obtain ⟨hhere, hname, hlong, -, h⟩ := h
    obtain rfl : t.put (here ++ [name]) text = t' := Except.ok.inj h
    simp only [Bool.or_eq_true, decide_eq_true_eq, not_or, Nat.not_lt] at hname
    obtain ⟨⟨htrimmed, hstays⟩, hup⟩ := hname
    rw [eq_of_trimmed_length htrimmed] at hlast hfollow
    have hne : name ≠ "" := by
      rintro rfl
      exact hstays rfl
    refine ⟨here ++ [name], rfl, ?_⟩
    -- The way to the directory is the same as before, and the last step leads to the file.
    have hpieces : Path.pieces path = (Path.pieces path).dropLast ++ [name] := by
      obtain ⟨before, hbefore⟩ := List.getLast?_eq_some_iff.1 hlast
      rw [hbefore, List.dropLast_concat]
    have hway := foldlM_step_put hfollow (here ++ [name]) text
    rw [origin_dropLast hlast hne] at hway
    have hstep : (t.put (here ++ [name]) text).step here name = .ok (here ++ [name]) := by
      unfold step
      rw [isDirectory_put, if_neg hhere, if_neg hstays, if_neg hup, if_neg hlong, contains_put_self,
        if_pos rfl]
    unfold resolve follow
    refine bind_eq_ok_iff.2 ⟨checked, hlength, ?_⟩
    rw [hpieces, List.foldlM_append, ← hpieces]
    exact bind_eq_ok_iff.2 ⟨here, hway, bind_eq_ok_iff.2 ⟨_, hstep, rfl⟩⟩

/-- What is written under a path is read under it, and other files stay as they are. -/
theorem readText_of_writeText (h : t.writeText path text = .ok t') :
    t'.readText path = .ok text ∧ ∃ p, t'.resolve path = .ok p ∧ ∀ q, q ≠ p →
      t'.file? q = t.file? q := by
  obtain ⟨p, rfl, hresolve⟩ := exists_put_of_writeText h
  refine ⟨?_, p, hresolve, fun q hq => file?_put_of_ne t text hq⟩
  refine bind_eq_ok_iff.2 ⟨p, hresolve, ?_⟩
  rw [file?_put_self]
  rfl

/-! ### Making directories -/

@[simp] theorem files_addDirectory (t : FileTree) (p : Place) :
    (t.addDirectory p).files = t.files := by
  unfold addDirectory
  split <;> rfl

/-- Making a directory leaves all files as they are. -/
theorem files_of_makeDirectory {start : Place} {names : List String}
    (h : t.makeDirectory start names = .ok t') : t'.files = t.files := by
  unfold makeDirectory at h
  split at h
  · cases h
  · obtain ⟨here, -, h⟩ := bind_eq_ok_iff.1 h
    simp only [ite_error_eq_ok_iff] at h
    obtain ⟨-, -, -, -, h⟩ := h
    rw [← Except.ok.inj h, files_addDirectory]

/-- So does making sure that there is one. -/
theorem files_of_ensureDirectory {start : Place} {names : List String}
    (h : t.ensureDirectory start names = .ok t') : t'.files = t.files := by
  unfold ensureDirectory at h
  split at h
  · split at h
    · rw [Except.ok.inj h]
    · cases h
  · exact files_of_makeDirectory h

/-- So does an access that fails, as long as one that succeeds does. -/
theorem files_afterAccess {access : Except OsError FileTree}
    (h : ∀ t', access = .ok t' → t'.files = t.files) :
    (t.afterAccess access).1.files = t.files := by
  cases access with
  | ok t' => exact h t' rfl
  | error e => rfl

/-- Making a directory and those above it changes no file. -/
theorem files_ensureDirectories (t : FileTree) (start : Place) (names : List String) :
    (t.ensureDirectories start names).1.files = t.files := by
  induction names with
  | nil => rfl
  | cons name above ih =>
    unfold ensureDirectories
    split
    · -- The directory above is made first, and then the access is tried once more.
      split
      · next habove =>
        rw [habove] at ih
        exact ih
      · next made habove =>
        rw [habove] at ih
        exact (files_afterAccess fun _ h => files_of_ensureDirectory h).trans ih
    · exact files_afterAccess fun _ h => files_of_ensureDirectory h

/-- Making directories changes no file. -/
theorem files_makeDirectories (t : FileTree) (path : String) :
    (t.makeDirectories path).1.files = t.files := by
  unfold makeDirectories
  split
  · rfl
  · exact files_ensureDirectories t _ _

end ProtoApi.FileTree
