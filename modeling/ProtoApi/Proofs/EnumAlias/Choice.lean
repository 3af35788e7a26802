import ProtoApi.Proofs.EnumAlias
import Mathlib.Data.List.Basic
import Mathlib.Order.RelClasses

namespace ProtoApi

/-!
# Which name of a number is canonical

Names are looked at one after the other, and of each number the best one so far is held. Preference
is a strict weak order, so that the one that is held has beaten all names in front of it: a name
that the one before could beat is beaten by its successor too. What is held in the end is therefore
the first name that no other one beats, and the order of the values matters only among names that
are tied.

* `isStrictWeakOrder_isPreferred` — preference is a strict weak order;
* `Canonical.IsChoice` — a name that beats all earlier ones of its number and that no later one
  beats;
* `Canonical.Chosen`, `Canonical.chosen_add`, `Canonical.chosen_foldl_add` — the names that are held
  are the choices of their numbers, in ascending order, and one more name keeps it so;
* `IsFirstUnbeaten`, `isFirstUnbeaten_of_isChoice` — a choice as a position of an enum;
* `SettlesAliases`, `settlesAliases_uniqueNumberValues` — what the canonical positions are.
-/

/-! ### Preference -/

/-- The style of a name comes before its length. -/
theorem isPreferred_iff {a b : String} :
    isPreferred a b = true ↔
      (isUpper a = true ∧ isUpper b = false) ∨
      (isUpper a = isUpper b ∧ a.utf8ByteSize < b.utf8ByteSize) := by
  unfold isPreferred
  cases isUpper a <;> cases isUpper b <;> simp

/-- A name that beats another one beats a third one, or the third one beats the other. -/
theorem isPreferred_or_isPreferred {a c : String} (h : isPreferred a c = true) (b : String) :
    isPreferred a b = true ∨ isPreferred b c = true := by
  simp only [isPreferred_iff] at h ⊢
  cases ha : isUpper a <;> cases hb : isUpper b <;> cases hc : isUpper c <;> simp_all <;> omega

/-- Preference is transitive: capital letters first, then length, and then the order of the
    letters. -/
theorem isPreferred_trans {a b c : String} (hab : isPreferred a b = true)
    (hbc : isPreferred b c = true) : isPreferred a c = true := by
  simp only [isPreferred_iff] at hab hbc ⊢
  cases ha : isUpper a <;> cases hb : isUpper b <;> cases hc : isUpper c <;> simp_all <;> omega

/-- Of two names, at most one beats the other. -/
theorem isPreferred_asymm {a b : String} (h : isPreferred a b = true) :
    isPreferred b a = false := by
  rw [Bool.eq_false_iff]
  intro hba
  have haa := isPreferred_trans h hba
  rw [isPreferred_irrefl] at haa
  nomatch haa

/-- Neither of two names beats the other. -/
def Tied (a b : String) : Prop := isPreferred a b = false ∧ isPreferred b a = false

/-- Preference is irreflexive and transitive, and so is being tied transitive. -/
theorem isStrictWeakOrder_isPreferred :
    IsStrictWeakOrder String fun a b => isPreferred a b = true where
  irrefl a h := by rw [isPreferred_irrefl] at h; nomatch h
  trans _ _ _ := isPreferred_trans
  incomp_trans a b c hab hbc := by
    constructor
    · intro hac
      exact (isPreferred_or_isPreferred hac b).elim hab.1 hbc.1
    · intro hca
      exact (isPreferred_or_isPreferred hca b).elim hbc.2 hab.2

/-! ### The best names so far -/

namespace Canonical

/-- A name beats all earlier ones of its number, and no later one beats it. -/
def IsChoice (names : List Canonical) (b : Canonical) : Prop :=
  ∃ before after, names = before ++ b :: after ∧
    (∀ c ∈ before, c.number = b.number → isPreferred b.name c.name = true) ∧
    ∀ c ∈ after, c.number = b.number → isPreferred c.name b.name = false

section Choice

variable {names : List Canonical} {b c : Canonical}

/-- A choice stays one unless the next name beats it. -/
theorem IsChoice.append_of_not (h : IsChoice names b)
    (hc : c.number = b.number → isPreferred c.name b.name = false) : IsChoice (names ++ [c]) b := by
  obtain ⟨before, after, rfl, hbefore, hafter⟩ := h
  refine ⟨before, after ++ [c], by simp, hbefore, fun x hx => ?_⟩
  rcases List.mem_append.1 hx with hx | hx
  · exact hafter x hx
  · rw [List.mem_singleton] at hx
    exact hx ▸ hc

/-- A name that beats the choice of its number is the next choice. -/
theorem IsChoice.append_of_isPreferred (h : IsChoice names b) (hn : c.number = b.number)
    (hc : isPreferred c.name b.name = true) : IsChoice (names ++ [c]) c := by
  obtain ⟨before, after, rfl, hbefore, hafter⟩ := h
  refine ⟨_, [], rfl, fun x hx hxn => ?_, by simp⟩
  have hxb : x.number = b.number := hxn.trans hn
  rcases List.mem_append.1 hx with hx | hx
  · exact isPreferred_trans hc (hbefore x hx hxb)
  · rcases List.mem_cons.1 hx with rfl | hx
    · exact hc
    -- A later name does not beat the old choice, so that it cannot keep up with the new one.
    · refine (isPreferred_or_isPreferred hc x.name).resolve_right ?_
      rw [hafter x hx hxb]
      exact Bool.false_ne_true

/-- The first name of a number is its choice. -/
theorem isChoice_append_of_new (h : ∀ x ∈ names, x.number ≠ c.number) : IsChoice (names ++ [c]) c :=
  ⟨names, [], rfl, fun x hx hn => absurd hn (h x hx), by simp⟩

end Choice

section Add

variable {best : List Canonical}

/-- A number has a best name if it had one before or if the name is one of its own. -/
theorem mem_numbers_add (best : List Canonical) (c : Canonical) (n : Int32) :
    n ∈ (add best c).map (·.number) ↔ n = c.number ∨ n ∈ best.map (·.number) := by
  induction best with
  | nil => simp [add]
  | cons b rest ih =>
    rw [add]
    split
    · simp
    · split
      · next hn => split <;> simp [hn]
      · rw [List.map_cons, List.mem_cons, ih, List.map_cons, List.mem_cons]
        exact or_left_comm

/-- The numbers stay in ascending order. -/
theorem pairwise_add (h : best.Pairwise (·.number < ·.number)) (c : Canonical) :
    (add best c).Pairwise (·.number < ·.number) := by
  induction best with
  | nil => exact List.pairwise_singleton _ c
  | cons b rest ih =>
    obtain ⟨hb, hrest⟩ := List.pairwise_cons.1 h
    rw [add]
    split
    · -- A new smallest number goes to the front.
      next hlt =>
      refine List.pairwise_cons.2 ⟨fun x hx => ?_, h⟩
      rcases List.mem_cons.1 hx with rfl | hx
      · exact hlt
      · exact Int32.lt_trans hlt (hb x hx)
    · next hlt =>
      split
      · -- The number is there already, and it keeps its place whichever name wins.
        next hn =>
        refine List.pairwise_cons.2 ⟨fun x hx => ?_, hrest⟩
        split
        · exact hn ▸ hb x hx
        · exact hb x hx
      · next hn =>
        have hbc : b.number < c.number := Int32.lt_of_le_of_ne (Int32.not_lt.1 hlt) (Ne.symm hn)
        refine List.pairwise_cons.2 ⟨fun x hx => ?_, ih hrest⟩
        rcases mem_of_mem_add hx with rfl | hx
        · exact hbc
        · exact hb x hx

/-- A name stays among the best ones unless the next name beats it, and the next name is there only
    if it beats the best name of its number. -/
theorem stays_or_new_of_mem_add {c x : Canonical} (h : best.Pairwise (·.number < ·.number))
    (hx : x ∈ add best c) :
    (x ∈ best ∧ (c.number = x.number → isPreferred c.name x.name = false)) ∨
      (x = c ∧ ∀ b ∈ best, c.number = b.number → isPreferred c.name b.name = true) := by
  induction best with
  | nil => exact .inr ⟨List.mem_singleton.1 hx, by simp⟩
  | cons b rest ih =>
    obtain ⟨hb, hrest⟩ := List.pairwise_cons.1 h
    rw [add] at hx
    split at hx
    -- All best names have greater numbers.
    · next hlt =>
      have hne : ∀ y ∈ b :: rest, c.number ≠ y.number := by
        intro y hy
        rcases List.mem_cons.1 hy with rfl | hy
        · exact Int32.ne_of_lt hlt
        · exact Int32.ne_of_lt (Int32.lt_trans hlt (hb y hy))
      rcases List.mem_cons.1 hx with rfl | hx
      · exact .inr ⟨rfl, fun y hy hn => absurd hn (hne y hy)⟩
      · exact .inl ⟨hx, fun hn => absurd hn (hne x hx)⟩
    · next hlt =>
      split at hx
      -- The first one has the number, and the others have greater ones.
      · next hn =>
        have hne : ∀ y ∈ rest, c.number ≠ y.number := fun y hy => hn ▸ Int32.ne_of_lt (hb y hy)
        rcases List.mem_cons.1 hx with hx | hx
        · split at hx
          · next hc =>
            refine .inr ⟨hx, fun y hy hny => ?_⟩
            rcases List.mem_cons.1 hy with rfl | hy
            · exact hc
            · exact absurd hny (hne y hy)
          · next hc => exact .inl ⟨hx ▸ List.mem_cons_self, fun _ => hx ▸ Bool.eq_false_iff.2 hc⟩
        · exact .inl ⟨List.mem_cons_of_mem b hx, fun hny => absurd hny (hne x hx)⟩
      · next hn =>
        rcases List.mem_cons.1 hx with rfl | hx
        · exact .inl ⟨List.mem_cons_self, fun hnx => absurd hnx hn⟩
        · rcases ih hrest hx with ⟨hmem, hkept⟩ | ⟨rfl, hnew⟩
          · exact .inl ⟨List.mem_cons_of_mem b hmem, hkept⟩
          · refine .inr ⟨rfl, fun y hy hny => ?_⟩
            rcases List.mem_cons.1 hy with rfl | hy
            · exact absurd hny hn
            · exact hnew y hy hny

end Add

/-- What is held after some names have been looked at. -/
structure Chosen (names best : List Canonical) : Prop where
  ascending : best.Pairwise (·.number < ·.number)
  choice : ∀ b ∈ best, IsChoice names b
  /-- Every number has a best name. -/
  numbers : ∀ n, n ∈ best.map (·.number) ↔ n ∈ names.map (·.number)

/-- Of no names none is chosen. -/
theorem chosen_nil : Chosen [] [] := ⟨.nil, by simp, by simp⟩

/-- With one more name, the best names are the choices still. -/
theorem chosen_add {names best : List Canonical} (h : Chosen names best) (c : Canonical) :
    Chosen (names ++ [c]) (add best c) where
  ascending := pairwise_add h.ascending c
  choice x hx := by
    rcases stays_or_new_of_mem_add h.ascending hx with ⟨hmem, hkept⟩ | ⟨rfl, hnew⟩
    · exact (h.choice x hmem).append_of_not hkept
    · by_cases hn : x.number ∈ names.map (·.number)
      · obtain ⟨b, hb, hbn⟩ := List.mem_map.1 ((h.numbers x.number).2 hn)
        exact (h.choice b hb).append_of_isPreferred hbn.symm (hnew b hb hbn.symm)
      · exact isChoice_append_of_new fun y hy hyn => hn (List.mem_map.2 ⟨y, hy, hyn⟩)
  numbers n := by
    rw [mem_numbers_add, h.numbers, List.map_append, List.mem_append, List.map_singleton,
      List.mem_singleton]
    exact or_comm

/-- After any number of names, the best ones are the choices. -/
theorem chosen_foldl_add {names best : List Canonical} (h : Chosen names best)
    (more : List Canonical) : Chosen (names ++ more) (more.foldl add best) := by
  induction more generalizing names best with
  | nil => rwa [List.append_nil]
  | cons c rest ih =>
    have hc := ih (chosen_add h c)
    rwa [List.append_assoc] at hc

end Canonical

/-! ### The values of an enum -/

/-- The names of an enum with their numbers and positions. -/
def namesOf (values : List EnumValue) : List Canonical :=
  values.zipIdx.map fun (v, position) => ⟨v.number, v.name, position⟩

/-- Each name comes with the number and the position of its value. -/
theorem getElem?_namesOf (values : List EnumValue) (i : Nat) :
    (namesOf values)[i]? = values[i]?.map fun v => ⟨v.number, v.name, i⟩ := by
  unfold namesOf
  rw [List.getElem?_map, List.getElem?_zipIdx, Option.map_map, Nat.zero_add]
  rfl

theorem numbers_namesOf (values : List EnumValue) :
    (namesOf values).map (·.number) = values.map (·.number) := by
  have h : (namesOf values).map (·.number) = (values.zipIdx.map Prod.fst).map (·.number) := by
    unfold namesOf
    rw [List.map_map, List.map_map]
    rfl
  rw [h, List.zipIdx_map_fst]

/-- The canonical names are chosen among all names of the values. -/
theorem chosen_canonicalNames (values : List EnumValue) :
    Canonical.Chosen (namesOf values) (canonicalNames values) :=
  Canonical.chosen_foldl_add Canonical.chosen_nil (namesOf values)

/-- The value at a position has a number, and no value of that number is preferred to it. -/
def IsUnbeaten (values : List EnumValue) (n : Int32) (i : Nat) : Prop :=
  ∃ v, values[i]? = some v ∧ v.number = n ∧ ∀ w ∈ values, w.number = n →
    isPreferred w.name v.name = false

/-- The first such position. -/
def IsFirstUnbeaten (values : List EnumValue) (n : Int32) (i : Nat) : Prop :=
  IsUnbeaten values n i ∧ ∀ j < i, ¬IsUnbeaten values n j

/-- A choice stands at its position. Its value beats the earlier ones of its number, and no later
    one beats it. -/
theorem exists_value_of_isChoice {values : List EnumValue} {b : Canonical}
    (h : Canonical.IsChoice (namesOf values) b) :
    ∃ v, values[b.position]? = some v ∧ v.number = b.number ∧
      (∀ j < b.position, ∀ w, values[j]? = some w → w.number = b.number →
        isPreferred v.name w.name = true) ∧
      ∀ j > b.position, ∀ w, values[j]? = some w → w.number = b.number →
        isPreferred w.name v.name = false := by
  obtain ⟨before, after, hsplit, hbefore, hafter⟩ := h
  have hname : ∀ {j w}, values[j]? = some w →
      (before ++ b :: after)[j]? = some (Canonical.mk w.number w.name j) := by
    intro j w hw
    rw [← hsplit, getElem?_namesOf, hw, Option.map_some]
  -- The value of the choice stands where the names in front of it end.
  have hb := getElem?_namesOf values before.length
  rw [hsplit, List.getElem?_append_right (Nat.le_refl _), Nat.sub_self,
    List.getElem?_cons_zero] at hb
  obtain ⟨v, hv, rfl⟩ := Option.map_eq_some_iff.1 hb.symm
  refine ⟨v, hv, rfl, fun j hj w hw hn => ?_, fun j hj w hw hn => ?_⟩
  · have hj' := hname hw
    rw [List.getElem?_append_left hj] at hj'
    exact hbefore ⟨w.number, w.name, j⟩ (List.mem_of_getElem? hj') hn
  · have hj' := hname hw
    obtain ⟨k, hk⟩ : ∃ k, j - before.length = k + 1 := ⟨j - before.length - 1, by simp at hj; omega⟩
    rw [List.getElem?_append_right (Nat.le_of_lt hj), hk, List.getElem?_cons_succ] at hj'
    exact hafter ⟨w.number, w.name, j⟩ (List.mem_of_getElem? hj') hn

/-- The position of a choice is the first one that is not beaten. -/
theorem isFirstUnbeaten_of_isChoice {values : List EnumValue} {b : Canonical}
    (h : Canonical.IsChoice (namesOf values) b) : IsFirstUnbeaten values b.number b.position := by
  obtain ⟨v, hv, hn, hbefore, hafter⟩ := exists_value_of_isChoice h
  constructor
  · refine ⟨v, hv, hn, fun w hw hwn => ?_⟩
    obtain ⟨j, hj⟩ := List.mem_iff_getElem?.1 hw
    rcases Nat.lt_trichotomy j b.position with hlt | rfl | hgt
    · exact isPreferred_asymm (hbefore j hlt w hj hwn)
    · obtain rfl : w = v := Option.some.inj (hj.symm.trans hv)
      exact isPreferred_irrefl w.name
    · exact hafter j hgt w hj hwn
  · rintro j hj ⟨u, hu, hun, hunbeaten⟩
    have hbeaten := hbefore j hj u hu hun
    rw [hunbeaten v (List.mem_of_getElem? hv) hn] at hbeaten
    nomatch hbeaten

/-- The canonical values of an enum. -/
def canonicalValues (values : List EnumValue) : List EnumValue :=
  (uniqueNumberValues values).filterMap (values[·]?)

/-- The position of a best name is the first one that is not beaten. -/
theorem isFirstUnbeaten_of_mem {values : List EnumValue} {b : Canonical}
    (h : b ∈ canonicalNames values) : IsFirstUnbeaten values b.number b.position :=
  isFirstUnbeaten_of_isChoice ((chosen_canonicalNames values).choice b h)

/-- The numbers of the canonical values are those of the best names. -/
theorem numbers_canonicalValues (values : List EnumValue) :
    (canonicalValues values).map (·.number) = (canonicalNames values).map (·.number) := by
  unfold canonicalValues uniqueNumberValues
  rw [List.filterMap_map, List.map_filterMap, List.filterMap_eq_map_iff_forall_eq_some]
  intro b hb
  obtain ⟨⟨v, hv, hn, -⟩, -⟩ := isFirstUnbeaten_of_mem hb
  show Option.map (·.number) values[b.position]? = some b.number
  rw [hv, Option.map_some, hn]

/-- A canonical value is one of the values, and none of its number is preferred to it. -/
theorem unbeaten_of_mem_canonicalValues {values : List EnumValue} {v : EnumValue}
    (h : v ∈ canonicalValues values) :
    v ∈ values ∧ ∀ w ∈ values, w.number = v.number → isPreferred w.name v.name = false := by
  obtain ⟨i, hi, hv⟩ := List.mem_filterMap.1 h
  obtain ⟨b, hb, rfl⟩ := List.mem_map.1 hi
  obtain ⟨⟨v', hv', hn, hunbeaten⟩, -⟩ := isFirstUnbeaten_of_mem hb
  obtain rfl : v' = v := Option.some.inj (hv'.symm.trans hv)
  exact ⟨List.mem_of_getElem? hv, hn ▸ hunbeaten⟩

/-- What is settled about the names of an enum. -/
structure SettlesAliases (values : List EnumValue) : Prop where
  lt_length : ∀ i ∈ uniqueNumberValues values, i < values.length
  /-- Each number of the enum comes once, and the smallest one, which may be negative, comes
      first. -/
  ascending : ((canonicalValues values).map (·.number)).Pairwise (· < ·)
  numbers : ∀ n, n ∈ (canonicalValues values).map (·.number) ↔ n ∈ values.map (·.number)
  /-- Of its number, a canonical value is the first one that no other is preferred to. -/
  first : ∀ i ∈ uniqueNumberValues values, ∀ v, values[i]? = some v →
      IsFirstUnbeaten values v.number i
  /-- In another order of the values a name that is tied may be the canonical one. -/
  tied : ∀ values', values.Perm values' → ∀ v ∈ canonicalValues values,
    ∀ v' ∈ canonicalValues values', v'.number = v.number → Tied v.name v'.name
  /-- If different names are never tied, it is the same one. -/
  name_eq : ∀ values', values.Perm values' → ∀ v ∈ canonicalValues values,
    ∀ v' ∈ canonicalValues values', v'.number = v.number →
      (∀ u ∈ values, ∀ w ∈ values, u.number = v.number → w.number = v.number → Tied u.name w.name →
        u.name = w.name) →
      v.name = v'.name

/-- No value beats a canonical one, in whichever order they come. -/
theorem tied_of_perm {values values' : List EnumValue} (h : values.Perm values') {v v' : EnumValue}
    (hv : v ∈ canonicalValues values) (hv' : v' ∈ canonicalValues values')
    (hn : v'.number = v.number) : Tied v.name v'.name := by
  obtain ⟨hmem, hunbeaten⟩ := unbeaten_of_mem_canonicalValues hv
  obtain ⟨hmem', hunbeaten'⟩ := unbeaten_of_mem_canonicalValues hv'
  exact ⟨hunbeaten' v (h.mem_iff.1 hmem) hn.symm, hunbeaten v' (h.mem_iff.2 hmem') hn⟩

/-- Preference is a strict weak order, and with it all aliases are settled. -/
theorem settlesAliases_uniqueNumberValues (values : List EnumValue) :
    (IsStrictWeakOrder String fun a b => isPreferred a b = true) ∧ SettlesAliases values := by
  refine ⟨isStrictWeakOrder_isPreferred, ?_⟩
  have hchosen := chosen_canonicalNames values
  constructor
  case lt_length => exact fun i hi => lt_length_of_mem_uniqueNumberValues hi
  case ascending =>
    rw [numbers_canonicalValues, List.pairwise_map]
    exact hchosen.ascending
  case numbers =>
    intro n
    rw [numbers_canonicalValues, hchosen.numbers, numbers_namesOf]
  case first =>
    intro i hi v hv
    -- The position is that of a canonical name, which is the first unbeaten one of its number.
    obtain ⟨b, hb, rfl⟩ := List.mem_map.1 hi
    obtain ⟨⟨v', hv', hn, -⟩, -⟩ := isFirstUnbeaten_of_mem hb
    obtain rfl : v' = v := Option.some.inj (hv'.symm.trans hv)
    rw [hn]
    exact isFirstUnbeaten_of_mem hb
  case tied => exact fun values' h v hv v' hv' => tied_of_perm h hv hv'
  case name_eq =>
    intro values' h v hv v' hv' hn hdistinct
    have hmem := (unbeaten_of_mem_canonicalValues hv).1
    have hmem' := h.mem_iff.2 (unbeaten_of_mem_canonicalValues hv').1
    exact hdistinct v hmem v' hmem' rfl hn (tied_of_perm h hv hv' hn)

/-- Lengths are counted in bytes, so that the later name of 1 is the shorter one. -/
example :
    uniqueNumberValues
        [⟨"CAFÉ", 1, "", "", false⟩, ⟨"tea", -2, "", "", false⟩, ⟨"CAFE", 1, "", "", false⟩]
          = [1, 2] := by
  decide +kernel

end ProtoApi
