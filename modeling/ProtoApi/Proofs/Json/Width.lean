import ProtoApi.Json.Tree

namespace ProtoApi.Json

/-!
# How wide the tree of a text can be

Every item of an array takes a token, and every token takes a character.

* `Tree.IsNarrow` — no array of a tree has more than `n` items;
* `State.IsNarrow`, `isNarrow_step`, `isNarrow_finish` — so it is with all that has been read after
  `n` tokens;
* `length_tokens_le`, `isNarrow_ofText` — a text has no more tokens than characters, and its arrays
  at most one more item than that, where the text ends in front of an item.
-/

/-- No array, at any depth, has more than `n` items. -/
inductive Tree.IsNarrow (n : Nat) : Tree → Prop
  | null : IsNarrow n .null
  | boolean (b : Bool) : IsNarrow n (.boolean b)
  | number (l : Lexeme Number) : IsNarrow n (.number l)
  | string (s : Lexeme String) : IsNarrow n (.string s)
  | array {items : List Tree} {closing : Closing} (hlength : items.length ≤ n)
      (hitems : ∀ t ∈ items, IsNarrow n t) : IsNarrow n (.array items closing)
  | object {members : List TreeMember} {closing : Closing}
      (hmembers : ∀ m ∈ members, IsNarrow n m.2) : IsNarrow n (.object members closing)
  | fault (f : Fault) : IsNarrow n (.fault f)

variable {n : Nat}

/-- A narrow tree is narrow for a greater bound. -/
theorem Tree.IsNarrow.succ {t : Tree} (h : t.IsNarrow n) : t.IsNarrow (n + 1) := by
  induction h with
  | null => exact .null
  | boolean b => exact .boolean b
  | number l => exact .number l
  | string s => exact .string s
  | array hlength _ ih => exact .array (Nat.le_succ_of_le hlength) ih
  | object _ ih => exact .object ih
  | fault f => exact .fault f

/-! ### What has been read -/

/-- What stands in front of a value that is read is narrow. -/
def Frame.IsNarrow (n : Nat) : Frame → Prop
  | .array before => before.length ≤ n ∧ ∀ t ∈ before, t.IsNarrow n
  | .member before _ => ∀ m ∈ before, m.2.IsNarrow n

/-- So it is for what stands in front of a value. -/
theorem Frame.IsNarrow.succ {f : Frame} (h : f.IsNarrow n) : f.IsNarrow (n + 1) := by
  cases f with
  | array before => exact ⟨Nat.le_succ_of_le h.1, fun t ht => (h.2 t ht).succ⟩
  | member before key => exact fun m hm => (h m hm).succ

theorem forall_isNarrow_succ {outer : List Frame} (h : ∀ f ∈ outer, f.IsNarrow n) :
    ∀ f ∈ outer, f.IsNarrow (n + 1) := fun f hf => (h f hf).succ

namespace State

/-- All that has been read is narrow. -/
def IsNarrow (n : Nat) : State → Prop
  | .value outer => ∀ f ∈ outer, f.IsNarrow n
  | .itemOrEnd outer before _ => ∀ f ∈ Frame.array before :: outer, f.IsNarrow n
  | .afterItem outer before => ∀ f ∈ Frame.array before :: outer, f.IsNarrow n
  | .keyOrEnd outer before _ => (∀ m ∈ before, m.2.IsNarrow n) ∧ ∀ f ∈ outer, f.IsNarrow n
  | .colon outer before _ => (∀ m ∈ before, m.2.IsNarrow n) ∧ ∀ f ∈ outer, f.IsNarrow n
  | .afterMember outer before => (∀ m ∈ before, m.2.IsNarrow n) ∧ ∀ f ∈ outer, f.IsNarrow n
  | .complete root => root.IsNarrow n
  | .stopped document => document.root.IsNarrow n

end State

/-- A frame has room for one more item. -/
theorem isNarrow_cons_of_frame {before : List Tree} {t : Tree} (h : (Frame.array before).IsNarrow n)
    (ht : t.IsNarrow (n + 1)) : (Frame.array (t :: before)).IsNarrow (n + 1) := by
  refine ⟨Nat.succ_le_succ h.1, ?_⟩
  rw [List.forall_mem_cons]
  exact ⟨ht, fun u hu => (h.2 u hu).succ⟩

section Step

variable {outer : List Frame} {t : Tree} (houter : ∀ f ∈ outer, f.IsNarrow n)
  (ht : t.IsNarrow (n + 1))
include houter ht

/-- What is read up to a fault is closed container by container, and each of them takes the tree
    that is inside it as one more item. -/
theorem isNarrow_enclose (f : Fault) : (enclose f outer t).IsNarrow (n + 1) := by
  induction outer generalizing t with
  | nil => exact ht
  | cons frame outer ih =>
    rw [List.forall_mem_cons] at houter
    obtain ⟨hframe, houter⟩ := houter
    -- Closing reverses what has been collected, and a reversed list is as long as before.
    cases frame with
    | array before =>
      obtain ⟨hlength, hitems⟩ := isNarrow_cons_of_frame hframe ht
      refine ih houter (.array ?_ ?_)
      · rwa [List.length_reverse]
      · intro u hu
        exact hitems u (List.mem_reverse.1 hu)
    | member before key =>
      refine ih houter (.object ?_)
      intro m hm
      rcases List.mem_cons.1 (List.mem_reverse.1 hm) with rfl | hm
      · exact ht
      · exact (hframe m hm).succ

/-- A value that is complete becomes one more item of the container around it. -/
theorem isNarrow_put : (State.put t outer).IsNarrow (n + 1) := by
  match outer, houter with
  | [], _ => exact ht
  | .array before :: outer, houter =>
    rw [List.forall_mem_cons] at houter
    show ∀ f ∈ Frame.array (t :: before) :: outer, f.IsNarrow (n + 1)
    rw [List.forall_mem_cons]
    exact ⟨isNarrow_cons_of_frame houter.1 ht, forall_isNarrow_succ houter.2⟩
  | .member before key :: outer, houter =>
    rw [List.forall_mem_cons] at houter
    refine ⟨?_, forall_isNarrow_succ houter.2⟩
    rw [List.forall_mem_cons]
    exact ⟨ht, fun m hm => (houter.1 m hm).succ⟩

end Step

/-- What stands in front of the closing bracket is an array. -/
theorem isNarrow_array_of_frame {before : List Tree} (h : (Frame.array before).IsNarrow n)
    (closing : Closing) : (Tree.array before.reverse closing).IsNarrow (n + 1) := by
  refine .array ?_ ?_
  · rw [List.length_reverse]
    exact Nat.le_succ_of_le h.1
  · intro t ht
    exact (h.2 t (List.mem_reverse.1 ht)).succ

/-- What stands in front of the closing brace is an object. -/
theorem isNarrow_object_of_members {before : List TreeMember} (h : ∀ m ∈ before, m.2.IsNarrow n)
    (closing : Closing) : (Tree.object before.reverse closing).IsNarrow (n + 1) :=
  .object fun m hm => (h m (List.mem_reverse.1 hm)).succ

/-- A token that begins a value opens a container, is a value itself, or is a fault. -/
theorem isNarrow_begin {outer : List Frame} (houter : ∀ f ∈ outer, f.IsNarrow n) (t : Token) :
    (State.begin outer t).IsNarrow (n + 1) := by
  -- A container that is opened holds nothing yet.
  have hnone : (Frame.array []).IsNarrow (n + 1) := ⟨Nat.zero_le _, by simp⟩
  cases t with
  | openBracket =>
    show ∀ f ∈ Frame.array [] :: outer, f.IsNarrow (n + 1)
    rw [List.forall_mem_cons]
    exact ⟨hnone, forall_isNarrow_succ houter⟩
  | openBrace => exact ⟨by simp, forall_isNarrow_succ houter⟩
  | null => exact isNarrow_put houter .null
  | boolean b => exact isNarrow_put houter (.boolean b)
  | number l =>
    simp only [State.begin]
    split
    · exact isNarrow_enclose houter (.number l) _
    · exact isNarrow_put houter (.number l)
  | string s =>
    simp only [State.begin]
    split
    · exact isNarrow_enclose houter (.string s) _
    · exact isNarrow_put houter (.string s)
  | misspelt f => exact isNarrow_enclose houter (.fault f) _
  | closeBracket | closeBrace | comma | colon | stray => exact isNarrow_enclose houter (.fault _) _

/-- Each token makes what has been read wider by one item at most. -/
theorem isNarrow_step {s : State} (h : s.IsNarrow n) (t : Token) : (s.step t).IsNarrow (n + 1) := by
  cases s with
  | value outer => exact isNarrow_begin h t
  -- What has been read of a container is as narrow as its frame, and so is all that is around it.
  | itemOrEnd outer before first =>
    have houter := (List.forall_mem_cons.1 h).2
    have hbefore := (List.forall_mem_cons.1 h).1
    simp only [State.step]
    split
    · split
      · exact isNarrow_put houter (.array (Nat.zero_le _) (by simp))
      · exact isNarrow_enclose houter (isNarrow_array_of_frame hbefore _) _
    · exact isNarrow_begin h t
  | afterItem outer before =>
    have houter := (List.forall_mem_cons.1 h).2
    have hbefore := (List.forall_mem_cons.1 h).1
    simp only [State.step]
    split
    · exact forall_isNarrow_succ h
    · exact isNarrow_put houter (isNarrow_array_of_frame hbefore _)
    · exact isNarrow_enclose houter (isNarrow_array_of_frame hbefore _) _
  | keyOrEnd outer before first =>
    obtain ⟨hbefore, houter⟩ := h
    simp only [State.step]
    split
    · next s =>
      split
      · -- A key with a fault is kept as a member, with the fault for a value.
        refine isNarrow_enclose houter (.object ?_) _
        intro m hm
        rcases List.mem_cons.1 (List.mem_reverse.1 hm) with rfl | hm
        · exact .fault _
        · exact (hbefore m hm).succ
      · exact ⟨fun m hm => (hbefore m hm).succ, forall_isNarrow_succ houter⟩
    · split
      · exact isNarrow_put houter (.object (by simp))
      · exact isNarrow_enclose houter (isNarrow_object_of_members hbefore _) _
    · exact isNarrow_enclose houter (isNarrow_object_of_members hbefore _) _
  | colon outer before key =>
    obtain ⟨hbefore, houter⟩ := h
    have hframes : ∀ f ∈ Frame.member before key :: outer, f.IsNarrow n := by
      rw [List.forall_mem_cons]
      exact ⟨hbefore, houter⟩
    simp only [State.step]
    split
    · exact forall_isNarrow_succ hframes
    · exact isNarrow_enclose hframes (.fault _) _
  | afterMember outer before =>
    obtain ⟨hbefore, houter⟩ := h
    simp only [State.step]
    split
    · exact ⟨fun m hm => (hbefore m hm).succ, forall_isNarrow_succ houter⟩
    · exact isNarrow_put houter (isNarrow_object_of_members hbefore _)
    · exact isNarrow_enclose houter (isNarrow_object_of_members hbefore _) _
  | complete root => exact Tree.IsNarrow.succ h
  | stopped document => exact Tree.IsNarrow.succ h

/-- Where the tokens end one more item may be missing. -/
theorem isNarrow_finish {s : State} (h : s.IsNarrow n) : s.finish.root.IsNarrow (n + 1) := by
  cases s with
  | value outer => exact isNarrow_enclose h (.fault _) _
  | itemOrEnd outer before first =>
    exact isNarrow_enclose (List.forall_mem_cons.1 h).2
      (isNarrow_array_of_frame (List.forall_mem_cons.1 h).1 _) _
  | afterItem outer before =>
    exact isNarrow_enclose (List.forall_mem_cons.1 h).2
      (isNarrow_array_of_frame (List.forall_mem_cons.1 h).1 _) _
  | keyOrEnd outer before first => exact isNarrow_enclose h.2 (isNarrow_object_of_members h.1 _) _
  | colon outer before key =>
    -- The member whose value is missing is a frame of its own.
    have hframes : ∀ f ∈ Frame.member before key :: outer, f.IsNarrow n := by
      rw [List.forall_mem_cons]
      exact h
    exact isNarrow_enclose hframes (.fault _) _
  | afterMember outer before => exact isNarrow_enclose h.2 (isNarrow_object_of_members h.1 _) _
  | complete root => exact Tree.IsNarrow.succ h
  | stopped document => exact Tree.IsNarrow.succ h

/-! ### Whole documents -/

/-- Each token widens the bound by one. -/
theorem isNarrow_foldl_step {s : State} (h : s.IsNarrow n) (ts : List Token) :
    (ts.foldl State.step s).IsNarrow (n + ts.length) := by
  induction ts generalizing n s with
  | nil => exact h
  | cons t ts ih =>
    have hrest := ih (isNarrow_step h t)
    rwa [List.foldl_cons, List.length_cons, ← Nat.add_assoc, Nat.add_right_comm]

/-- A text has no more tokens than characters. -/
theorem length_tokens_le (cs : List Char) : (tokens cs).length ≤ cs.length := by
  fun_induction tokens cs with
  | case1 => exact Nat.le_refl _
  | case2 c cs _ ih => exact Nat.le_succ_of_le ih
  | case3 c cs _ ih => exact Nat.succ_le_succ (Nat.le_trans ih (length_scanToken_le c cs))

/-- The bound may be any greater one. -/
theorem Tree.IsNarrow.mono {m : Nat} {t : Tree} (h : t.IsNarrow n) (hle : n ≤ m) :
    t.IsNarrow m := by
  induction hle with
  | refl => exact h
  | step _ ih => exact ih.succ

/-- No array of a text has more than one item more than the text has characters. -/
theorem isNarrow_ofText (text : String) :
    (Document.ofText text).root.IsNarrow (text.length + 1) := by
  have hstart : (State.value []).IsNarrow 0 := by
    show ∀ f ∈ [], Frame.IsNarrow 0 f
    simp
  have hend := isNarrow_finish (isNarrow_foldl_step hstart (tokens text.toList))
  have hlength : (tokens text.toList).length ≤ text.length := by
    rw [← String.length_toList]
    exact length_tokens_le text.toList
  exact hend.mono (by omega)

end ProtoApi.Json
