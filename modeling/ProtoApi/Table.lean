namespace ProtoApi

/-!
# Tables ordered by name

The maps of the library are keyed by names and are always walked in the order of the names, code
point by code point.

* `Table α` — a finite map from names to `α`, held as the list of its entries in strictly ascending
  order;
* `Table.insert`, `Table.modify`, `Table.ofList` — the ways to build one; a later entry under a name
  replaces the earlier one;
* `Table.get?` — the view: `get?_insert` and `get?_modify` say what each operation does to it, and
  `Table.ext_get?` says that a table is determined by it;
* `NameSet` — a set of names, as a table without contents.
-/

universe u

/-- A finite map from names to `α`, its entries in strictly ascending order of the names. -/
structure Table (α : Type u) where
  entries : List (String × α)
  ascending : entries.Pairwise (fun a b => a.1 < b.1)
deriving DecidableEq

namespace Table

variable {α : Type u}

/-! ### Entries as a plain list -/

/-- Puts an entry in its place, replacing an entry of the same name. -/
def insertEntry (name : String) (a : α) : List (String × α) → List (String × α)
  | [] => [(name, a)]
  | (n, b) :: rest =>
    if name < n then (name, a) :: (n, b) :: rest
    else if name = n then (name, a) :: rest
    else (n, b) :: insertEntry name a rest

/-- The entry under a name. -/
def lookupEntry (name : String) : List (String × α) → Option α
  | [] => none
  | (n, b) :: rest => if n = name then some b else lookupEntry name rest

/-- Changes what stands under a name and leaves every name as it is. -/
def modifyEntry (name : String) (f : α → α) : List (String × α) → List (String × α)
  | [] => []
  | (n, b) :: rest => (n, if n = name then f b else b) :: modifyEntry name f rest

private theorem name_of_mem_insertEntry {name : String} {a : α} {e : String × α}
    {l : List (String × α)} (h : e ∈ insertEntry name a l) : e.1 = name ∨ e ∈ l := by
  induction l with
  | nil => simp_all [insertEntry]
  | cons hd tl ih =>
    obtain ⟨n, b⟩ := hd
    rw [insertEntry] at h
    split at h
    · grind
    · split at h <;> grind

private theorem name_of_mem_modifyEntry {name : String} {f : α → α} {e : String × α}
    {l : List (String × α)} (h : e ∈ modifyEntry name f l) : ∃ d ∈ l, d.1 = e.1 := by
  induction l with
  | nil => simp [modifyEntry] at h
  | cons hd tl ih =>
    obtain ⟨n, b⟩ := hd
    rw [modifyEntry] at h
    rcases List.mem_cons.1 h with rfl | h
    · exact ⟨(n, b), by simp, rfl⟩
    · obtain ⟨d, hd, he⟩ := ih h
      exact ⟨d, List.mem_cons_of_mem _ hd, he⟩

/-- An entry that is put in its place leaves the names ascending. -/
theorem pairwise_insertEntry {name : String} {a : α} {l : List (String × α)}
    (h : l.Pairwise (fun a b => a.1 < b.1)) :
    (insertEntry name a l).Pairwise (fun a b => a.1 < b.1) := by
  induction l with
  | nil => simp [insertEntry]
  | cons hd tl ih =>
    obtain ⟨n, b⟩ := hd
    rw [List.pairwise_cons] at h
    rw [insertEntry]
    split
    · next lt =>
      refine List.pairwise_cons.2 ⟨fun e he => ?_, List.pairwise_cons.2 h⟩
      rcases List.mem_cons.1 he with rfl | he
      · exact lt
      · exact String.lt_trans lt (h.1 e he)
    · next lt =>
      split
      · next eq => subst eq; exact List.pairwise_cons.2 h
      · next ne =>
        refine List.pairwise_cons.2 ⟨fun e he => ?_, ih h.2⟩
        -- Behind the first entry stands the new one, which is greater, or one that stood there
        -- before.
        rcases name_of_mem_insertEntry he with he | he
        · rcases String.le_total n name with le | le
          · exact he ▸ (Std.lt_of_le_of_ne le (Ne.symm ne))
          · exact absurd (Std.lt_of_le_of_ne le ne) lt
        · exact h.1 e he

/-- So does a change, which touches no name. -/
theorem pairwise_modifyEntry {name : String} {f : α → α} {l : List (String × α)}
    (h : l.Pairwise (fun a b => a.1 < b.1)) :
    (modifyEntry name f l).Pairwise (fun a b => a.1 < b.1) := by
  induction l with
  | nil => simp [modifyEntry]
  | cons hd tl ih =>
    obtain ⟨n, b⟩ := hd
    rw [List.pairwise_cons] at h
    rw [modifyEntry, List.pairwise_cons]
    refine ⟨fun e he => ?_, ih h.2⟩
    obtain ⟨d, hd, hde⟩ := name_of_mem_modifyEntry he
    exact hde ▸ h.1 d hd

/-- Only the look-up under the name of the entry finds it, and it finds nothing else. -/
theorem lookupEntry_insertEntry (name other : String) (a : α) (l : List (String × α)) :
    lookupEntry other (insertEntry name a l) = if other = name then some a
      else lookupEntry other l := by
  induction l with
  | nil => simp only [insertEntry, lookupEntry]; grind
  | cons hd tl ih =>
    obtain ⟨n, b⟩ := hd
    rw [insertEntry]
    split
    · simp only [lookupEntry]; grind
    · split
      · simp only [lookupEntry]; grind
      · simp only [lookupEntry, ih]; grind

/-- Only the look-up under the changed name finds the change. -/
theorem lookupEntry_modifyEntry (name other : String) (f : α → α) (l : List (String × α)) :
    lookupEntry other (modifyEntry name f l)
      = if other = name then (lookupEntry other l).map f else lookupEntry other l := by
  induction l with
  | nil => simp [modifyEntry, lookupEntry]
  | cons hd tl ih =>
    obtain ⟨n, b⟩ := hd
    simp only [modifyEntry, lookupEntry, ih]
    grind

/-! ### Tables -/

/-- The table without entries. -/
def empty : Table α where
  entries := []
  ascending := List.Pairwise.nil

instance : EmptyCollection (Table α) := ⟨empty⟩

instance : Inhabited (Table α) := ⟨empty⟩

/-- Puts `a` under `name`, in place of what stood there. -/
def insert (t : Table α) (name : String) (a : α) : Table α where
  entries := insertEntry name a t.entries
  ascending := pairwise_insertEntry t.ascending

/-- What stands under `name`. -/
def get? (t : Table α) (name : String) : Option α := lookupEntry name t.entries

/-- Whether something stands under `name`. -/
def contains (t : Table α) (name : String) : Bool := (t.get? name).isSome

/-- Changes what stands under `name`, if anything does. -/
def modify (t : Table α) (name : String) (f : α → α) : Table α where
  entries := modifyEntry name f t.entries
  ascending := pairwise_modifyEntry t.ascending

/-- The names, ascending. -/
def names (t : Table α) : List String := t.entries.map (·.1)

/-- The contents, in the order of their names. -/
def values (t : Table α) : List α := t.entries.map (·.2)

/-- The number of entries. -/
def size (t : Table α) : Nat := t.entries.length

/-- Inserts the entries one after the other, so that the last one under a name stays. -/
def ofList (l : List (String × α)) : Table α := l.foldl (fun t e => t.insert e.1 e.2) empty

@[simp] theorem get?_empty (name : String) : (empty : Table α).get? name = none := rfl

/-- What a look-up finds after an entry is put in. -/
theorem get?_insert (t : Table α) (name other : String) (a : α) :
    (t.insert name a).get? other = if other = name then some a else t.get? other :=
  lookupEntry_insertEntry name other a t.entries

@[simp] theorem get?_insert_self (t : Table α) (name : String) (a : α) :
    (t.insert name a).get? name = some a := by
  simp [get?_insert]

/-- Other names are looked up as before. -/
theorem get?_insert_of_ne (t : Table α) {name other : String} (a : α) (h : other ≠ name) :
    (t.insert name a).get? other = t.get? other := by
  simp [get?_insert, h]

/-- What a look-up finds after a change. -/
theorem get?_modify (t : Table α) (name other : String) (f : α → α) :
    (t.modify name f).get? other = if other = name then (t.get? other).map f else t.get? other :=
  lookupEntry_modifyEntry name other f t.entries

/-- An entry is found, since no other one before it has its name. -/
private theorem lookupEntry_of_mem {l : List (String × α)} (h : l.Pairwise (fun a b => a.1 < b.1))
    {n : String} {a : α} (hm : (n, a) ∈ l) : lookupEntry n l = some a := by
  induction l with
  | nil => simp at hm
  | cons hd tl ih =>
    obtain ⟨m, b⟩ := hd
    rw [List.pairwise_cons] at h
    rcases List.mem_cons.1 hm with he | hm
    · simp_all [lookupEntry]
    · have lt := h.1 _ hm
      have ne : m ≠ n := fun e => String.lt_irrefl n (by simp [e] at lt)
      simpa [lookupEntry, ne] using ih h.2 hm

/-- What is found is an entry. -/
private theorem mem_of_lookupEntry {l : List (String × α)} {n : String} {a : α}
    (h : lookupEntry n l = some a) : (n, a) ∈ l := by
  induction l with
  | nil => simp [lookupEntry] at h
  | cons hd tl ih =>
    obtain ⟨m, b⟩ := hd
    simp only [lookupEntry] at h
    grind

/-- The entries are what the look-ups find. -/
theorem mem_entries_iff {t : Table α} {n : String} {a : α} :
    (n, a) ∈ t.entries ↔ t.get? n = some a :=
  ⟨lookupEntry_of_mem t.ascending, mem_of_lookupEntry⟩

/-- Two ascending lists with the same entries are the same, since they begin with the same least
    one. -/
private theorem eq_of_same_members {l m : List (String × α)}
    (hl : l.Pairwise (fun a b => a.1 < b.1)) (hm : m.Pairwise (fun a b => a.1 < b.1))
    (h : ∀ e, e ∈ l ↔ e ∈ m) : l = m := by
  induction l generalizing m with
  | nil =>
    cases m with
    | nil => rfl
    | cons e _ => exact absurd ((h e).2 (by simp)) (by simp)
  | cons a l ih =>
    cases m with
    | nil => exact absurd ((h a).1 (by simp)) (by simp)
    | cons b m =>
      rw [List.pairwise_cons] at hl hm
      -- If the first entries differed, each would stand behind the other one.
      have hab : a = b := by
        rcases List.mem_cons.1 ((h a).1 (by simp)) with e | hma
        · exact e
        · rcases List.mem_cons.1 ((h b).2 (by simp)) with e | hlb
          · exact e.symm
          · exact absurd (hm.1 _ hma) (String.lt_asymm (hl.1 _ hlb))
      subst hab
      refine congrArg (a :: ·) (ih hl.2 hm.2 fun e => ?_)
      have he := h e
      simp only [List.mem_cons] at he
      constructor
      · intro hel
        have hne : e ≠ a := fun eq => String.lt_irrefl a.1 (by simpa [eq] using hl.1 e hel)
        simpa [hne] using he.1 (Or.inr hel)
      · intro hem
        have hne : e ≠ a := fun eq => String.lt_irrefl a.1 (by simpa [eq] using hm.1 e hem)
        simpa [hne] using he.2 (Or.inr hem)

/-- A table is determined by its look-ups. -/
theorem ext_get? {s t : Table α} (h : ∀ name, s.get? name = t.get? name) : s = t := by
  have : s.entries = t.entries :=
    eq_of_same_members s.ascending t.ascending fun e => by
      rw [show e = (e.1, e.2) from rfl, mem_entries_iff, mem_entries_iff, h]
  cases s; cases t; simp_all

/-- Entries under different names may be inserted in either order. -/
theorem insert_comm (t : Table α) {m n : String} (a b : α) (h : m ≠ n) :
    (t.insert m a).insert n b = (t.insert n b).insert m a :=
  ext_get? fun name => by simp only [get?_insert]; grind

end Table

/-! ### Sets of names -/

/-- A finite set of names. -/
abbrev NameSet := Table Unit

namespace NameSet

/-- Adds a name. -/
def add (s : NameSet) (name : String) : NameSet := s.insert name ()

/-- The set of the names in a list. -/
def ofNames (names : List String) : NameSet := names.foldl add Table.empty

end NameSet

end ProtoApi
