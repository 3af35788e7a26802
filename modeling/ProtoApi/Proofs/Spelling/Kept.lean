import ProtoApi.Proofs.Decoder.ReadsBack
import ProtoApi.Proofs.Except
import ProtoApi.Proofs.Spelling.Formats
import Mathlib.Data.List.Pairwise

namespace ProtoApi

open Json (Tree memberTrees itemTrees)

/-!
# Values that are kept as they are

Options are kept as values, the members of their objects in ascending order of the keys. What two
ways of writing a record leave behind there has the same fields in the same order.

* `Json.sorted`, `anyValue_eq_ok_iff` — what is kept of a value, if there is room for it;
* `Respelled.height_le_iff` — there is room for both ways of writing or for none;
* `Aligned` — two kept values whose records have the same fields in the same order, with whatever
  else;
* `Respelled.aligned` — so it is with what is kept of two ways of writing.
-/

/-! ### What is kept -/

namespace Json

mutual

/-- A value with the members of its objects in ascending order, the last one of each key. -/
def sorted : Json → Json
  | .array items => .array (sortedItems items)
  | .object members => .ofTable (Table.ofList (sortedMembers members))
  | .null => .null
  | .boolean b => .boolean b
  | .number n => .number n
  | .string s => .string s

/-- The items of a list, each of them sorted. -/
def sortedItems : List Json → List Json
  | [] => []
  | v :: rest => v.sorted :: sortedItems rest

/-- The members of an object, each of them sorted. -/
def sortedMembers : List (String × Json) → List (String × Json)
  | [] => []
  | (key, v) :: rest => (key, v.sorted) :: sortedMembers rest

end

/-- The items of a list are sorted one by one. -/
theorem sortedItems_eq (items : List Json) : sortedItems items = items.map sorted := by
  induction items with
  | nil => rfl
  | cons v rest ih => rw [sortedItems, ih, List.map_cons]

/-- So are the members of an object, each under its key. -/
theorem sortedMembers_eq (members : List (String × Json)) :
    sortedMembers members = members.map fun m => (m.1, m.2.sorted) := by
  induction members with
  | nil => rfl
  | cons m rest ih => rw [sortedMembers, ih, List.map_cons]

/-- A pair of values, each of them sorted. -/
def sortedBoth (i : Json × Json) : Json × Json := (i.1.sorted, i.2.sorted)

/-- Sorting one side of some pairs is sorting both and looking at that side. -/
theorem sortedItems_map_fst (items : List (Json × Json)) :
    sortedItems (items.map Prod.fst) = (items.map sortedBoth).map Prod.fst := by
  rw [sortedItems_eq, List.map_map, List.map_map]
  rfl

theorem sortedItems_map_snd (items : List (Json × Json)) :
    sortedItems (items.map Prod.snd) = (items.map sortedBoth).map Prod.snd := by
  rw [sortedItems_eq, List.map_map, List.map_map]
  rfl

/-- Items are as high as the highest of them. -/
theorem itemsHeight_le_iff {items : List Json} {n : Nat} :
    itemsHeight items ≤ n ↔ ∀ v ∈ items, v.height ≤ n := by
  induction items with
  | nil => simp [itemsHeight]
  | cons v rest ih => rw [itemsHeight, Nat.max_le, ih, List.forall_mem_cons]

/-- So are members. -/
theorem membersHeight_le_iff {members : List (String × Json)} {n : Nat} :
    membersHeight members ≤ n ↔ ∀ m ∈ members, m.2.height ≤ n := by
  induction members with
  | nil => simp [membersHeight]
  | cons m rest ih => rw [membersHeight, Nat.max_le, ih, List.forall_mem_cons]

end Json

namespace Decoder

/-- A list is read if each of its items is. -/
theorem mapM_eq_ok_iff {ε β γ : Type} {f : β → Except ε γ} {xs : List β} {ys : List γ} :
    xs.mapM f = .ok ys ↔ List.Forall₂ (fun x y => f x = .ok y) xs ys := by
  induction xs generalizing ys with
  | nil =>
    rw [List.mapM_nil, List.forall₂_nil_left_iff]
    constructor
    · intro h
      exact (Except.ok.inj h).symm
    · rintro rfl
      rfl
  | cons x xs ih =>
    rw [List.mapM_cons, List.forall₂_cons_left_iff, bind_eq_ok_iff]
    constructor
    · rintro ⟨y, hy, h⟩
      obtain ⟨ys', hys, h⟩ := bind_eq_ok_iff.1 h
      exact ⟨y, ys', hy, ih.1 hys, (Except.ok.inj h).symm⟩
    · rintro ⟨y, ys', hy, hys, rfl⟩
      exact ⟨y, hy, bind_eq_ok_iff.2 ⟨ys', ih.2 hys, rfl⟩⟩

/-- Each item is read as what a function gives, provided that it is in order. -/
theorem mapM_map_eq_ok_iff {ε β γ δ : Type} {f : β → Except ε γ} {g : δ → β} {P : δ → Prop}
    {h : δ → γ} {xs : List δ} (hf : ∀ x ∈ xs, ∀ y, f (g x) = .ok y ↔ P x ∧ y = h x) {ys : List γ} :
    (xs.map g).mapM f = .ok ys ↔ (∀ x ∈ xs, P x) ∧ ys = xs.map h := by
  rw [mapM_eq_ok_iff]
  induction xs generalizing ys with
  | nil => simp
  | cons x xs ih =>
    rw [List.forall_mem_cons] at hf
    rw [List.map_cons, List.forall₂_cons_left_iff, List.forall_mem_cons]
    simp only [hf.1, ih hf.2]
    constructor
    · rintro ⟨y, ys', ⟨hx, rfl⟩, ⟨hxs, rfl⟩, rfl⟩
      exact ⟨⟨hx, hxs⟩, rfl⟩
    · rintro ⟨⟨hx, hxs⟩, rfl⟩
      exact ⟨h x, xs.map h, ⟨hx, rfl⟩, ⟨hxs, rfl⟩, rfl⟩

/-- The members of an object are read if their values are. -/
theorem mapM_memberTrees_eq_ok_iff {d : Tree → Except DecodeError Json} {P : Json → Prop}
    {members : List (String × Json)}
    (hd : ∀ m ∈ members, ∀ w, d m.2.toTree = .ok w ↔ P m.2 ∧ w = m.2.sorted)
    {ws : List (String × Json)} :
    (memberTrees members).mapM (fun (key, t) => do return (← read key, ← d t)) = .ok ws ↔
      (∀ m ∈ members, P m.2) ∧ ws = Json.sortedMembers members := by
  rw [memberTrees_eq, Json.sortedMembers_eq]
  refine mapM_map_eq_ok_iff (P := fun m : String × Json => P m.2) fun m hm e => ?_
  show (d m.2.toTree >>= fun w => Except.ok (m.1, w)) = .ok e ↔ _
  rw [bind_eq_ok_iff]
  constructor
  · rintro ⟨w, hw, he⟩
    obtain ⟨hP, rfl⟩ := (hd m hm w).1 hw
    exact ⟨hP, (Except.ok.inj he).symm⟩
  · rintro ⟨hP, rfl⟩
    exact ⟨m.2.sorted, (hd m hm _).2 ⟨hP, rfl⟩, rfl⟩

/-- A value that holds no others is kept as it is and needs no room. -/
theorem ok_eq_ok_iff_zero_le {room : Nat} {v w : Json} :
    (Except.ok v : Except DecodeError Json) = .ok w ↔ 0 ≤ room ∧ w = v := by
  constructor
  · intro h
    exact ⟨Nat.zero_le _, (Except.ok.inj h).symm⟩
  · rintro ⟨-, rfl⟩
    rfl

/-- A value is kept if there is room for it. -/
theorem anyValue_eq_ok_iff {form : Form} {room : Nat} {v w : Json} :
    anyValue form room v.toTree = .ok w ↔ v.height ≤ room ∧ w = v.sorted := by
  induction room generalizing v w with
  | zero =>
    cases v with
    | null | boolean | number | string => exact ok_eq_ok_iff_zero_le
    -- A container needs room of its own.
    | array items => exact iff_of_false (fun h => by cases h) (by simp [Json.height])
    | object members => exact iff_of_false (fun h => by cases h) (by simp [Json.height])
  | succ room ih =>
    cases v with
    | null | boolean | number | string => exact ok_eq_ok_iff_zero_le
    | array items =>
      -- The items have one place less than their container.
      have hitems : ∀ ws, (itemTrees items).mapM (anyValue form room) = .ok ws ↔
          (∀ v ∈ items, v.height ≤ room) ∧ ws = Json.sortedItems items := by
        intro ws
        rw [itemTrees_eq, Json.sortedItems_eq]
        exact mapM_map_eq_ok_iff fun v _ w => ih
      rw [Json.height, Json.sorted, Nat.succ_le_succ_iff, Json.itemsHeight_le_iff]
      show ((itemTrees items).mapM (anyValue form room) >>= fun vs => Except.ok (Json.array vs))
        = .ok w ↔ _
      rw [bind_eq_ok_iff]
      simp only [hitems]
      constructor
      · rintro ⟨ws, ⟨hheight, rfl⟩, hw⟩
        exact ⟨hheight, (Except.ok.inj hw).symm⟩
      · rintro ⟨hheight, rfl⟩
        exact ⟨_, ⟨hheight, rfl⟩, rfl⟩
    | object members =>
      have hmembers :=
        @mapM_memberTrees_eq_ok_iff (anyValue form room) (fun v => v.height ≤ room) members
        fun m _ w => ih
      rw [Json.height, Json.sorted, Nat.succ_le_succ_iff, Json.membersHeight_le_iff]
      show ((memberTrees members).mapM _ >>= fun entries =>
        Except.ok (Json.ofTable (Table.ofList entries))) = .ok w ↔ _
      rw [bind_eq_ok_iff]
      simp only [hmembers]
      constructor
      · rintro ⟨ws, ⟨hheight, rfl⟩, hw⟩
        exact ⟨hheight, (Except.ok.inj hw).symm⟩
      · rintro ⟨hheight, rfl⟩
        exact ⟨_, ⟨hheight, rfl⟩, rfl⟩

end Decoder

/-! ### Room for both -/

namespace Json

/-- There is room for a list if there is one level for it and room below for its items. -/
theorem height_array_le_iff {items : List Json} {room : Nat} :
    (Json.array items).height ≤ room ↔ 0 < room ∧ ∀ v ∈ items, v.height ≤ room - 1 := by
  rw [height, ← itemsHeight_le_iff]
  omega

/-- So it is for an object. -/
theorem height_object_le_iff {members : List (String × Json)} {room : Nat} :
    (Json.object members).height ≤ room ↔ 0 < room ∧ ∀ m ∈ members, m.2.height ≤ room - 1 := by
  rw [height, ← membersHeight_le_iff]
  omega

end Json

/-- The items of a list belong to a field each, or there are no fields left for them. -/
theorem mem_zip_or_mem_drop {α β : Type} {items : List α} {fs : List β} {i : α} (hi : i ∈ items) :
    (∃ f, (i, f) ∈ items.zip fs) ∨ i ∈ items.drop fs.length := by
  induction items generalizing fs with
  | nil => cases hi
  | cons j items ih =>
    cases fs with
    | nil => exact Or.inr hi
    | cons f fs =>
      rcases List.mem_cons.1 hi with rfl | hi
      · exact Or.inl ⟨f, List.mem_cons_self⟩
      · rcases ih hi with ⟨g, hg⟩ | hdrop
        · exact Or.inl ⟨g, List.mem_cons_of_mem _ hg⟩
        · exact Or.inr hdrop

/-- There is room for both ways of writing an extension, or for none. -/
theorem Respelled.height_le_iff {room : Nat} {shape : Shape} {v v' : Json}
    (h : Respelled true room shape v v') : v.height ≤ room ↔ v'.height ≤ room := by
  generalize hkept : true = kept at h
  induction h with
  | same => rfl
  | @object kept room k changes others added members members' hfields honce hvalues hothers hadded
    hold hnew ih =>
    subst hkept
    rw [Json.height_object_le_iff, Json.height_object_le_iff]
    refine and_congr_right fun hroom => ?_
    simp only [hold.mem_iff, hnew.mem_iff, List.mem_append, or_imp, forall_and, List.forall_mem_map]
    -- What has come in is less high than the room that is left for it.
    have hadded' : ∀ m ∈ added, m.2.height ≤ room - 1 := by
      intro m hm
      have hlt := (hadded m hm).2 rfl
      omega
    have hchanges : (∀ c ∈ changes, (Change.old c).2.height ≤ room - 1) ↔
        ∀ c ∈ changes, (Change.new c).2.height ≤ room - 1 :=
      forall_congr' fun c => forall_congr' fun hc => ih c hc rfl
    rw [hchanges]
    exact ⟨fun h => ⟨h.1, h.2, hadded'⟩, fun h => ⟨h.1, h.2.1⟩⟩
  | @positional kept room k items hitems hsurplus ih =>
    subst hkept
    rw [Json.height_array_le_iff, Json.height_array_le_iff]
    refine and_congr_right fun hroom => ?_
    simp only [List.forall_mem_map]
    refine forall_congr' fun i => forall_congr' fun hi => ?_
    rcases mem_zip_or_mem_drop hi with ⟨f, hf⟩ | hdrop
    · exact ih (i, f) hf rfl
    · rw [hsurplus i hdrop]
  | @records kept room k items hitems ih =>
    subst hkept
    rw [Json.height_array_le_iff, Json.height_array_le_iff]
    refine and_congr_right fun hroom => ?_
    simp only [List.forall_mem_map]
    exact forall_congr' fun i => forall_congr' fun hi => ih i hi rfl
  | options => cases hkept

/-! ### What two ways of writing leave behind -/

/-- Two kept values whose records have the same fields in the same order, each of them under one of
    its names. Of other members there may be any. -/
inductive Aligned : Shape → Json → Json → Prop
  | same {shape : Shape} (v : Json) : Aligned shape v v
  | object {k : RecordKind} {pairs : List Change} {members members' : List (String × Json)}
      (hfields : ∀ c ∈ pairs, c.IsFor k.fields)
      (hvalues : ∀ c ∈ pairs, Aligned c.field.shape c.value c.value')
      (hold : members.filter (fun m => k.knows m.1) = pairs.map Change.old)
      (hnew : members'.filter (fun m => k.knows m.1) = pairs.map Change.new) :
      Aligned (.record k) (.object members) (.object members')
  | positional {k : RecordKind} {items : List (Json × Json)}
      (hitems : ∀ i ∈ items.zip k.fields, Aligned i.2.shape i.1.1 i.1.2) :
      Aligned (.record k) (.array (items.map Prod.fst)) (.array (items.map Prod.snd))
  | records {k : RecordKind} {items : List (Json × Json)} (hitems : ∀ i ∈ items,
      Aligned (.record k) i.1 i.2) :
      Aligned (.records k) (.array (items.map Prod.fst)) (.array (items.map Prod.snd))

/-- Lists of entries in ascending order are equal if they have the same entries. -/
theorem eq_of_ascending {α : Type} {l m : List (String × α)} (hl : l.Pairwise fun a b => a.1 < b.1)
    (hm : m.Pairwise fun a b => a.1 < b.1) (h : ∀ key a, (key, a) ∈ l ↔ (key, a) ∈ m) : l = m := by
  have htables : (⟨l, hl⟩ : Table α) = ⟨m, hm⟩ := by
    refine Table.ext_get? fun key => Option.ext fun a => ?_
    rw [← Table.mem_entries_iff, ← Table.mem_entries_iff]
    exact h key a
  exact congrArg Table.entries htables

namespace RecordKind

/-- Changes in the order of the fields of a record. -/
def arrange (k : RecordKind) (changes : List Change) : List Change :=
  k.ordered.filterMap fun f => changes.find? (·.field = f)

/-- Arranging changes loses none, since each is of a field of the record. -/
theorem mem_arrange {k : RecordKind} {changes : List Change}
    (hfields : ∀ c ∈ changes, c.field ∈ k.fields) (honce : (changes.map (·.field)).Nodup)
    {c : Change} : c ∈ k.arrange changes ↔ c ∈ changes := by
  unfold arrange
  rw [List.mem_filterMap]
  constructor
  · rintro ⟨f, -, hfind⟩
    exact List.mem_of_find?_eq_some hfind
  · intro hc
    refine ⟨c.field, mem_ordered.2 (hfields c hc), ?_⟩
    cases hfind : changes.find? (·.field = c.field) with
    | none => exact absurd (decide_eq_true rfl) (List.find?_eq_none.1 hfind c hc)
    | some d =>
      have hfield : d.field = c.field := by simpa using List.find?_some hfind
      rw [List.inj_on_of_nodup_map honce (List.mem_of_find?_eq_some hfind) hc hfield]

/-- No name belongs to two fields of a record. -/
theorem eq_of_answers {k : RecordKind} {f g : KnownField} (hf : f ∈ k.fields) (hg : g ∈ k.fields)
    {key : String} (hkey : f.answers key = true) (hkey' : g.answers key = true) : f = g := by
  by_contra hne
  -- That two fields are told apart is the same in both directions.
  have hsymm : Std.Symm KnownField.Apart := by
    refine ⟨fun f g h key hg => Bool.eq_false_iff.2 fun hf => ?_⟩
    rw [h key hf] at hg
    cases hg
  have hfalse := k.fields_apart.forall hf hg hne key hkey
  rw [hfalse] at hkey'
  cases hkey'

/-- What a table keeps of the fields of a record stands in the order of the fields. -/
theorem known_entries_eq {k : RecordKind} {changes : List Change} {member : Change → String × Json}
    (hfields : ∀ c ∈ changes, c.field ∈ k.fields ∧ c.field.answers (member c).1 = true)
    (honce : (changes.map (·.field)).Nodup) {others members : List (String × Json)}
    (hothers : ∀ m ∈ others, k.knows m.1 = false)
    (hp : members.Perm (changes.map member ++ others)) :
    (Table.ofList members).entries.filter (fun m => k.knows m.1)
      = (k.arrange changes).map member := by
  have hmem : ∀ c, c ∈ k.arrange changes ↔ c ∈ changes :=
    fun c => mem_arrange (fun c hc => (hfields c hc).1) honce
  have hknown : ∀ c ∈ changes, k.knows (member c).1 = true := by
    intro c hc
    exact List.any_eq_true.2 ⟨c.field, (hfields c hc).1, (hfields c hc).2⟩
  -- Under a name of a field there is what a change says.
  have hget : ∀ key a, k.knows key = true → (Table.ofList members).get? key = some a →
      ∃ c ∈ changes, member c = (key, a) := by
    intro key a hkey h
    rcases Table.get?_foldl_insert_eq_some h with ⟨m, hm, rfl, rfl⟩ | h
    · rcases List.mem_append.1 (hp.mem_iff.1 hm) with hm | hm
      · obtain ⟨c, hc, heq⟩ := List.mem_map.1 hm
        exact ⟨c, hc, heq⟩
      · rw [hothers m hm] at hkey
        cases hkey
    · cases h
  -- Both lists ascend, so that it is enough to compare their entries.
  refine eq_of_ascending ((Table.ofList members).ascending.filter _) ?_ fun key a => ?_
  · rw [List.pairwise_map, arrange, List.pairwise_filterMap]
    refine k.ordered_before.imp fun {f g} hbefore c hc d hd => ?_
    have hcf : c.field = f := by simpa using List.find?_some hc
    have hdg : d.field = g := by simpa using List.find?_some hd
    have hcans := (hfields c (List.mem_of_find?_eq_some hc)).2
    have hdans := (hfields d (List.mem_of_find?_eq_some hd)).2
    rw [hcf] at hcans
    rw [hdg] at hdans
    exact hbefore _ _ hcans hdans
  · rw [List.mem_filter, Table.mem_entries_iff, List.mem_map]
    constructor
    · rintro ⟨h, hkey⟩
      obtain ⟨c, hc, heq⟩ := hget key a hkey h
      exact ⟨c, (hmem c).2 hc, heq⟩
    · rintro ⟨c, hc, heq⟩
      have hc := (hmem c).1 hc
      have hkey : k.knows key = true := by
        have h := hknown c hc
        rw [heq] at h
        exact h
      have hcontains : (Table.ofList members).contains key = true := by
        unfold Table.ofList
        rw [Table.contains_foldl_insert, Bool.or_eq_true, List.any_eq_true]
        refine Or.inl ⟨member c, hp.mem_iff.2 (List.mem_append_left _ (List.mem_map_of_mem hc)), ?_⟩
        rw [heq]
        exact decide_eq_true rfl
      obtain ⟨b, hb⟩ := Option.isSome_iff_exists.1 hcontains
      obtain ⟨d, hd, hdeq⟩ := hget key b hkey hb
      have hcans := (hfields c hc).2
      have hdans := (hfields d hd).2
      rw [heq] at hcans
      rw [hdeq] at hdans
      have hfield := eq_of_answers (hfields d hd).1 (hfields c hc).1 hdans hcans
      rw [List.inj_on_of_nodup_map honce hd hc hfield, heq] at hdeq
      rw [hb, (Prod.mk.inj hdeq).2]
      exact ⟨rfl, hkey⟩

end RecordKind

/-- A change of what is kept. -/
def Change.sorted (c : Change) : Change :=
  { c with value := c.value.sorted, value' := c.value'.sorted }

/-- What is kept of the fields of a record, on one side of its changes. -/
theorem RecordKind.known_sorted_entries_eq {k : RecordKind} {changes : List Change}
    {member : Change → String × Json}
    (hmember : ∀ c, member c.sorted = ((member c).1, (member c).2.sorted))
    (hfields : ∀ c ∈ changes, c.field ∈ k.fields ∧ c.field.answers (member c).1 = true)
    (honce : (changes.map (·.field)).Nodup) {others members : List (String × Json)}
    (hothers : ∀ m ∈ others, k.knows m.1 = false)
    (hp : members.Perm (changes.map member ++ others)) :
    (Table.ofList (Json.sortedMembers members)).entries.filter (fun m => k.knows m.1)
      = (k.arrange (changes.map Change.sorted)).map member := by
  refine @known_entries_eq k _ member ?_ ?_ (others.map fun m => (m.1, m.2.sorted)) _ ?_ ?_
  · rw [List.forall_mem_map]
    intro c hc
    rw [hmember]
    exact hfields c hc
  · rw [List.map_map]
    exact honce
  · rw [List.forall_mem_map]
    exact hothers
  · have h := hp.map fun m => (m.1, m.2.sorted)
    rw [List.map_append, List.map_map] at h
    rw [Json.sortedMembers_eq, List.map_map]
    simp only [Function.comp_def, hmember] at h ⊢
    exact h

/-- What is kept of two ways of writing an extension has the same fields in the same order. -/
theorem Respelled.aligned {room : Nat} {shape : Shape} {v v' : Json}
    (h : Respelled true room shape v v') : Aligned shape v.sorted v'.sorted := by
  generalize hkept : true = kept at h
  induction h with
  | same v => exact .same _
  | @object kept room k changes others added members members' hfields honce hvalues hothers hadded
    hold hnew ih =>
    -- The arranged changes are sorted ones.
    have harrange : ∀ c ∈ k.arrange (changes.map Change.sorted), ∃ d ∈ changes, d.sorted = c := by
      intro c hc
      obtain ⟨f, -, hfind⟩ := List.mem_filterMap.1 hc
      exact List.mem_map.1 (List.mem_of_find?_eq_some hfind)
    rw [Json.sorted, Json.sorted]
    refine @Aligned.object k (k.arrange (changes.map Change.sorted)) _ _ ?_ ?_ ?_ ?_
    · intro c hc
      obtain ⟨d, hd, rfl⟩ := harrange c hc
      exact ⟨(hfields d hd).mem, (hfields d hd).old, (hfields d hd).new⟩
    · intro c hc
      obtain ⟨d, hd, rfl⟩ := harrange c hc
      exact ih d hd hkept
    · exact RecordKind.known_sorted_entries_eq (fun _ => rfl) (fun c hc =>
        ⟨(hfields c hc).mem, (hfields c hc).old⟩) honce hothers hold
    · refine RecordKind.known_sorted_entries_eq (fun _ => rfl)
        (fun c hc => ⟨(hfields c hc).mem, (hfields c hc).new⟩) honce ?_ hnew
      intro m hm
      rcases List.mem_append.1 hm with hm | hm
      · exact hothers m hm
      · exact (hadded m hm).1
  | @positional kept room k items hitems hsurplus ih =>
    rw [Json.sorted, Json.sorted, Json.sortedItems_map_fst, Json.sortedItems_map_snd]
    refine .positional fun i hi => ?_
    rw [List.zip_map_left] at hi
    obtain ⟨⟨i, f⟩, hj, rfl⟩ := List.mem_map.1 hi
    exact ih (i, f) hj hkept
  | @records kept room k items hitems ih =>
    rw [Json.sorted, Json.sorted, Json.sortedItems_map_fst, Json.sortedItems_map_snd]
    refine .records fun i hi => ?_
    obtain ⟨j, hj, rfl⟩ := List.mem_map.1 hi
    exact ih j hj hkept
  | options => cases hkept

end ProtoApi
