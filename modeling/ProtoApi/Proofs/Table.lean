import ProtoApi.Table
import Mathlib.Data.List.Nodup

namespace ProtoApi

/-!
# Tables that are changed several times

* `contains_insert`, `contains_modify`, `names_modify` — which names a table has after one change;
* `get?_modify_eq_map`, `modify_eq_self`, `modify_modify` — a change as a function, a change that
  changes nothing, and two changes of one entry;
* `get?_foldl_insert` — after many entries have been put into a table, the last one under a name
  stands there;
* `get?_foldl_insert_of_mem`, `get?_foldl_modify_of_mem` — one of many entries that are put under
  different names, or changed there;
* `get?_foldl_insert_eq_some` — nothing stands there that has not been put in;
* `foldl_insert_perm`, `foldl_modify_perm`, `NameSet.foldl_add_perm` — entries under different names
  may be put in, or changed, in any order;
* `map`, `eq_of_map_eq` — a change of all entries alike, and what is known of a table from two of
  them;
* `NameSet.contains_add`, `NameSet.contains_ofNames` — the names of a set; it is determined by them,
  `NameSet.ext_contains`;
* `ofList_entries`, `NameSet.ofNames_names` — a table is what comes of its entries, and a set of its
  names.
-/

/-- Where keys are told apart, the last element of a key is the only one. -/
theorem find?_reverse_of_nodup {α : Type} {key : α → String} {l : List α} (hn : (l.map key).Nodup)
    {a : α} (ha : a ∈ l) : l.reverse.find? (fun b => key b = key a) = some a := by
  cases hf : l.reverse.find? fun b => key b = key a with
  | none => exact absurd (decide_eq_true rfl) (List.find?_eq_none.1 hf a (List.mem_reverse.2 ha))
  | some b =>
    have hmem : b ∈ l := List.mem_reverse.1 (List.mem_of_find?_eq_some hf)
    have hkey := List.find?_some (p := fun b => decide (key b = key a)) hf
    rw [List.inj_on_of_nodup_map hn hmem ha (of_decide_eq_true hkey)]

namespace Table

universe u v

variable {α : Type u} {β : Type v}

/-! ### Names -/

/-- A name is in a table if something stands under it. -/
theorem contains_eq_true_iff {t : Table α} {name : String} :
    t.contains name = true ↔ ∃ a, t.get? name = some a := by
  rw [contains, Option.isSome_iff_exists]

/-- An entry that is put in adds its name. -/
@[simp] theorem contains_insert (t : Table α) (name other : String) (a : α) :
    (t.insert name a).contains other = (decide (other = name) || t.contains other) := by
  rw [contains, get?_insert]
  by_cases h : other = name <;> simp [h, contains]

/-- A change neither adds nor takes a name. -/
@[simp] theorem contains_modify (t : Table α) (name other : String) (f : α → α) :
    (t.modify name f).contains other = t.contains other := by
  rw [contains, get?_modify]
  by_cases h : other = name <;> simp [h, contains]

/-- Nor does it move one. -/
theorem names_modify (t : Table α) (name : String) (f : α → α) :
    (t.modify name f).names = t.names := by
  unfold names modify
  simp only
  induction t.entries with
  | nil => rfl
  | cons e rest ih => rw [modifyEntry, List.map_cons, List.map_cons, ih]

/-- An entry of a changed table is an entry of the table, possibly changed. -/
theorem get?_modify_eq_some {t : Table α} {name other : String} {f : α → α} {b : α}
    (h : (t.modify name f).get? other = some b) :
    (∃ a, t.get? other = some a ∧ other = name ∧ b = f a) ∨ t.get? other = some b := by
  rw [get?_modify] at h
  split at h
  · next hn =>
    obtain ⟨a, ha, hb⟩ := Option.map_eq_some_iff.1 h
    exact Or.inl ⟨a, ha, hn, hb.symm⟩
  · exact Or.inr h

/-- A change as a function on whatever stands under a name. -/
theorem get?_modify_eq_map (t : Table α) (name other : String) (f : α → α) :
    (t.modify name f).get? other = (t.get? other).map fun a => if other = name then f a else a := by
  rw [get?_modify]
  by_cases h : other = name <;> simp [h]

/-- A change that leaves what stands under a name as it is. -/
theorem modify_eq_self {t : Table α} {name : String} {f : α → α}
    (h : ∀ a, t.get? name = some a → f a = a) : t.modify name f = t := by
  refine ext_get? fun other => ?_
  rw [get?_modify]
  split
  · next hn =>
    rw [hn]
    cases hg : t.get? name with
    | none => rfl
    | some a => rw [Option.map_some, h a hg]
  · rfl

/-- Two changes of one entry. -/
theorem modify_modify (t : Table α) (name : String) (f g : α → α) :
    (t.modify name f).modify name g = t.modify name (g ∘ f) := by
  refine ext_get? fun other => ?_
  simp only [get?_modify]
  split
  · rw [Option.map_map]
  · rfl

/-! ### Many changes -/

/-- Of the entries that are put under a name, the last one stays. -/
theorem get?_foldl_insert (key : β → String) (val : β → α) (l : List β) (t : Table α)
    (name : String) :
    (l.foldl (fun t b => t.insert (key b) (val b)) t).get? name
      = ((l.reverse.find? fun b => key b = name).map val).or (t.get? name) := by
  induction l generalizing t with
  | nil => simp
  | cons b l ih =>
    rw [List.foldl_cons, ih, get?_insert, List.reverse_cons, List.find?_append]
    -- The entry that is put in first stays only if no later one has its name.
    by_cases h : key b = name
    · cases l.reverse.find? fun b => key b = name <;> simp [h]
    · have hne : name ≠ key b := fun e => h e.symm
      simp [h, hne]

/-- Entries under different names all stay. -/
theorem get?_foldl_insert_of_mem {β : Type} {key : β → String} {val : β → α} {l : List β}
    (hn : (l.map key).Nodup) {b : β} (hb : b ∈ l) (t : Table α) :
    (l.foldl (fun t b => t.insert (key b) (val b)) t).get? (key b) = some (val b) := by
  rw [get?_foldl_insert, find?_reverse_of_nodup hn hb]
  rfl

/-- An entry stays if nothing is put under its name. -/
theorem get?_foldl_insert_of_ne {key : β → String} {val : β → α} {l : List β} {name : String}
    (h : ∀ b ∈ l, key b ≠ name) (t : Table α) :
    (l.foldl (fun t b => t.insert (key b) (val b)) t).get? name = t.get? name := by
  rw [get?_foldl_insert, List.find?_eq_none.2]
  · rfl
  · exact fun b hb he => h b (List.mem_reverse.1 hb) (of_decide_eq_true he)

/-- What stands under a name after many entries have been put in is one of them, or it has been
    there before. -/
theorem get?_foldl_insert_eq_some {key : β → String} {val : β → α} {l : List β} {t : Table α}
    {name : String} {a : α}
    (h : (l.foldl (fun t b => t.insert (key b) (val b)) t).get? name = some a) :
    (∃ b ∈ l, key b = name ∧ val b = a) ∨ t.get? name = some a := by
  rw [get?_foldl_insert, Option.or_eq_some_iff] at h
  rcases h with h | ⟨-, h⟩
  · obtain ⟨b, hb, hval⟩ := Option.map_eq_some_iff.1 h
    have hkey := List.find?_some (p := fun b => decide (key b = name)) hb
    exact Or.inl ⟨b, List.mem_reverse.1 (List.mem_of_find?_eq_some hb),
      of_decide_eq_true hkey, hval⟩
  · exact Or.inr h

/-- A name that many entries have been put under. -/
theorem contains_foldl_insert (key : β → String) (val : β → α) (l : List β) (t : Table α)
    (name : String) :
    (l.foldl (fun t b => t.insert (key b) (val b)) t).contains name
      = (l.any (fun b => key b = name) || t.contains name) := by
  induction l generalizing t with
  | nil => simp
  | cons b l ih =>
    rw [List.foldl_cons, ih, contains_insert, List.any_cons]
    have comm : decide (name = key b) = decide (key b = name) := by simp [eq_comm]
    rw [comm, ← Bool.or_assoc, Bool.or_comm (l.any _)]

/-- Changes of entries keep the names. -/
theorem contains_foldl_modify (key : β → String) (f : β → α → α) (l : List β) (t : Table α)
    (name : String) :
    (l.foldl (fun t b => t.modify (key b) (f b)) t).contains name = t.contains name := by
  induction l generalizing t with
  | nil => rfl
  | cons b l ih => rw [List.foldl_cons, ih, contains_modify]

/-- Changes of other entries leave an entry alone. -/
theorem get?_foldl_modify_of_ne {key : β → String} {f : β → α → α} {l : List β} {name : String}
    (h : ∀ b ∈ l, key b ≠ name) (t : Table α) :
    (l.foldl (fun t b => t.modify (key b) (f b)) t).get? name = t.get? name := by
  induction l generalizing t with
  | nil => rfl
  | cons b l ih =>
    rw [List.foldl_cons, ih fun c hc => h c (List.mem_cons_of_mem _ hc), get?_modify,
      if_neg (h b List.mem_cons_self).symm]

/-- An entry changes once where no two of the changes are of one entry. -/
theorem get?_foldl_modify_of_mem {key : β → String} {f : β → α → α} {l : List β}
    (hn : (l.map key).Nodup) {b : β} (hb : b ∈ l) (t : Table α) :
    (l.foldl (fun t b => t.modify (key b) (f b)) t).get? (key b) = (t.get? (key b)).map (f b) := by
  induction l generalizing t with
  | nil => exact absurd hb List.not_mem_nil
  | cons c l ih =>
    rw [List.map_cons, List.nodup_cons] at hn
    rw [List.foldl_cons]
    rcases List.mem_cons.1 hb with rfl | hb
    · have hne : ∀ c ∈ l, key c ≠ key b := fun c hc he => hn.1 (he ▸ List.mem_map_of_mem hc)
      rw [get?_foldl_modify_of_ne hne, get?_modify, if_pos rfl]
    · have hne : key b ≠ key c := fun he => hn.1 (he ▸ List.mem_map_of_mem hb)
      rw [ih hn.2 hb, get?_modify, if_neg hne]

/-! ### The order of changes -/

/-- What stands under different names may be changed in either order. -/
theorem modify_comm (t : Table α) {m n : String} (f g : α → α) (h : m ≠ n) :
    (t.modify m f).modify n g = (t.modify n g).modify m f := by
  refine ext_get? fun name => ?_
  simp only [get?_modify]
  by_cases hm : name = m
  · subst hm
    simp [h]
  · simp [hm]

/-- Entries under different names may be put in in any order. -/
theorem foldl_insert_perm {key : β → String} {val : β → α} {l l' : List β} (hp : l.Perm l')
    (hn : (l.map key).Nodup) (t : Table α) :
    l.foldl (fun t b => t.insert (key b) (val b)) t
      = l'.foldl (fun t b => t.insert (key b) (val b)) t := by
  -- It is enough that any two of them may be put in in either order.
  refine hp.foldl_eq' ?_ t
  intro b hb c hc t
  by_cases h : key b = key c
  · rw [List.inj_on_of_nodup_map hn hb hc h]
  · exact insert_comm t _ _ h

/-- What stands under different names may be changed in any order. -/
theorem foldl_modify_perm {key : β → String} {f : β → α → α} {l l' : List β} (hp : l.Perm l')
    (hn : (l.map key).Nodup) (t : Table α) :
    l.foldl (fun t b => t.modify (key b) (f b)) t
      = l'.foldl (fun t b => t.modify (key b) (f b)) t := by
  refine hp.foldl_eq' ?_ t
  intro b hb c hc t
  by_cases h : key b = key c
  · rw [List.inj_on_of_nodup_map hn hb hc h]
  · exact modify_comm t _ _ h

/-! ### All entries alike -/

/-- Changes all contents alike and leaves every name as it is. -/
def map (g : α → α) (t : Table α) : Table α where
  entries := t.entries.map fun e => (e.1, g e.2)
  ascending := List.pairwise_map.2 t.ascending

/-- A look-up finds what the change makes of the entry. -/
theorem get?_map (g : α → α) (t : Table α) (name : String) :
    (t.map g).get? name = (t.get? name).map g := by
  unfold get? map
  simp only
  induction t.entries with
  | nil => rfl
  | cons e rest ih =>
    rw [List.map_cons, lookupEntry, lookupEntry, ih]
    split <;> rfl

theorem names_map (g : α → α) (t : Table α) : (t.map g).names = t.names := by
  unfold names map
  rw [List.map_map]
  rfl

theorem values_map (g : α → α) (t : Table α) : (t.map g).values = t.values.map g := by
  unfold values map
  rw [List.map_map, List.map_map]
  rfl

/-- Two changes of all entries tell tables apart if they tell their contents apart. -/
theorem eq_of_map_eq {g g' : α → α} (h : ∀ a b, g a = g b → g' a = g' b → a = b) {s t : Table α}
    (hg : s.map g = t.map g) (hg' : s.map g' = t.map g') : s = t := by
  refine ext_get? fun name => ?_
  have hname : (s.get? name).map g = (t.get? name).map g := by rw [← get?_map, hg, get?_map]
  have hname' : (s.get? name).map g' = (t.get? name).map g' := by rw [← get?_map, hg', get?_map]
  cases hs : s.get? name <;> cases ht : t.get? name
  case none.none => rfl
  case some.some a b =>
    rw [hs, ht] at hname hname'
    rw [h a b (Option.some.inj hname) (Option.some.inj hname')]
  all_goals simp [hs, ht] at hname

/-! ### Tables from their entries -/

/-- A table is what comes of its entries. -/
theorem ofList_entries (t : Table α) : ofList t.entries = t := by
  refine ext_get? fun name => ?_
  unfold ofList
  rw [get?_foldl_insert, get?_empty, Option.or_none]
  -- A name stands in one entry at most, so that the last one is the one of the table.
  cases hf : t.entries.reverse.find? fun e => e.1 = name with
  | none =>
    cases hg : t.get? name with
    | none => rfl
    | some a =>
      have hmem : (name, a) ∈ t.entries.reverse := List.mem_reverse.2 (mem_entries_iff.2 hg)
      exact absurd (decide_eq_true rfl) (List.find?_eq_none.1 hf (name, a) hmem)
  | some e =>
    have hmem : (e.1, e.2) ∈ t.entries := List.mem_reverse.1 (List.mem_of_find?_eq_some hf)
    have hname : e.1 = name :=
      of_decide_eq_true (List.find?_some (p := fun e : String × α => decide (e.1 = name)) hf)
    rw [mem_entries_iff, hname] at hmem
    exact hmem.symm

end Table

namespace NameSet

/-- A name that is added is in the set. -/
theorem contains_add (s : NameSet) (name other : String) :
    (s.add name).contains other = (decide (other = name) || s.contains other) :=
  Table.contains_insert s name other ()

/-- Adding names adds nothing else. -/
theorem contains_foldl_add (names : List String) (s : NameSet) (name : String) :
    (names.foldl add s).contains name = (decide (name ∈ names) || s.contains name) := by
  refine (Table.contains_foldl_insert id (fun _ => ()) names s name).trans ?_
  simp [List.any_eq]

/-- The set of some names has these. -/
theorem contains_ofNames (names : List String) (name : String) :
    (ofNames names).contains name = decide (name ∈ names) :=
  (contains_foldl_add names Table.empty name).trans (Bool.or_false _)

/-- Sets with the same names are the same. -/
theorem ext_contains {s t : NameSet} (h : ∀ name, s.contains name = t.contains name) : s = t := by
  refine Table.ext_get? fun name => ?_
  have hname := h name
  unfold Table.contains at hname
  cases hs : s.get? name <;> cases ht : t.get? name <;> simp_all

/-- A set is what comes of its names. -/
theorem ofNames_names (s : NameSet) : ofNames s.names = s := by
  unfold ofNames Table.names
  rw [List.foldl_map]
  exact s.ofList_entries

/-- Names may be added in any order. -/
theorem foldl_add_perm {names names' : List String} (hp : names.Perm names') (s : NameSet) :
    names.foldl add s = names'.foldl add s := by
  refine hp.foldl_eq' ?_ s
  intro m _ n _ s
  by_cases h : m = n
  · rw [h]
  · exact Table.insert_comm s () () h

end NameSet

end ProtoApi
