import ProtoApi.Build.Comments

namespace ProtoApi

/-!
# Comments line by line

A documentation is written as a comment with a blank in front of each line and a line break at the
end, and it is read back by taking both away.

* `textLines` — the lines of a text, between its line breaks;
* `unindent`, `splitOn_dropLineBlanks` — dropping the blanks that lines begin with works on each
  line by itself;
* `getLast?_eq_break_iff`, `splitOn_dropFinalBreak` — dropping the line break at the end drops an
  empty line;
* `commentOf`, `commentOf_eq`, `trimComment_commentOf` — the comment that a documentation is written
  in, its lines, and that it reads back;
* `IsTrimmed`, `trimComment_readsBack` — the lines of the documentation that any comment gives.
-/

/-! ### Lines -/

/-- The lines of a text. There is one more of them than line breaks. -/
def textLines (text : String) : List (List Char) := text.toList.splitOn '\n'

/-- A line without the blank that it begins with, if it begins with one. -/
def unindent : List Char → List Char
  | ' ' :: rest => rest
  | line => line

/-- A line that does not begin with a space is not shortened. -/
theorem unindent_of_ne {c : Char} (h : c ≠ ' ') (rest : List Char) :
    unindent (c :: rest) = c :: rest := by
  unfold unindent
  split
  · next heq => exact absurd (List.cons.inj heq).1 h
  · rfl

theorem exists_splitOn_eq_cons (cs : List Char) : ∃ line lines, cs.splitOn '\n' = line :: lines :=
  List.exists_cons_of_ne_nil (List.splitOn_ne_nil '\n' cs)

/-- Lines are joined with a last one. -/
theorem intercalate_concat {α : Type} {sep : List α} {lines : List (List α)} (h : lines ≠ [])
    (line : List α) : sep.intercalate (lines ++ [line]) = sep.intercalate lines ++ sep ++ line := by
  induction lines with
  | nil => exact absurd rfl h
  | cons first rest ih =>
    rw [List.cons_append, List.intercalate_cons_of_ne_nil (by simp)]
    by_cases hrest : rest = []
    · simp [hrest]
    · rw [ih hrest, List.intercalate_cons_of_ne_nil hrest]
      simp

/-- A text ends with a line break if it has several lines and the last one is empty. -/
theorem getLast?_eq_break_iff (cs : List Char) :
    cs.getLast? = some '\n' ↔ 1 < (cs.splitOn '\n').length ∧
      (cs.splitOn '\n').getLast? = some [] := by
  constructor
  · intro h
    obtain ⟨before, rfl⟩ := List.getLast?_eq_some_iff.1 h
    rw [List.splitOn_append_cons_self, List.splitOn_nil, List.getLast?_concat, List.length_append]
    have hlines := List.length_pos_iff.2 (List.splitOn_ne_nil '\n' before)
    exact ⟨Nat.lt_add_of_pos_left hlines, rfl⟩
  · rintro ⟨hseveral, hlast⟩
    obtain ⟨lines, hlines⟩ := List.getLast?_eq_some_iff.1 hlast
    -- With an empty line only, the text would have one line and not several.
    have hnil : lines ≠ [] := by
      rintro rfl
      rw [hlines] at hseveral
      exact absurd hseveral (by decide)
    have hcs : ['\n'].intercalate (cs.splitOn '\n') = cs := List.intercalate_splitOn '\n'
    rw [hlines, intercalate_concat hnil, List.append_nil] at hcs
    exact List.getLast?_eq_some_iff.2 ⟨_, hcs.symm⟩

/-- Dropping the line break at the end drops an empty line. -/
theorem splitOn_dropFinalBreak (cs : List Char) :
    cs.splitOn '\n' = (dropFinalBreak cs).splitOn '\n' ++ if cs.getLast? = some '\n' then [[]]
      else [] := by
  unfold dropFinalBreak
  split
  · next h =>
    obtain ⟨before, rfl⟩ := List.getLast?_eq_some_iff.1 h
    rw [List.splitOn_append_cons_self, List.splitOn_nil, List.dropLast_concat]
  · rw [List.append_nil]

/-! ### Blanks in front of lines -/

/-- The blank at the beginning of each line is dropped; in the middle of a line the rest of it stays
    as it is. -/
theorem splitOn_dropLineBlanks {cs line : List Char} {lines : List (List Char)}
    (h : cs.splitOn '\n' = line :: lines) (fresh : Bool) :
    (dropLineBlanks fresh cs).splitOn '\n'
      = (if fresh then unindent line else line) :: lines.map unindent := by
  induction cs generalizing line lines fresh with
  | nil =>
    obtain ⟨rfl, rfl⟩ := List.cons.inj h
    cases fresh <;> rfl
  | cons c cs ih =>
    obtain ⟨first, rest, hcs⟩ := exists_splitOn_eq_cons cs
    rw [List.splitOn_cons_eq_if_modifyHead, hcs] at h
    by_cases hbreak : c = '\n'
    · -- The line is empty, and a new one begins.
      subst hbreak
      rw [if_pos (beq_self_eq_true _)] at h
      obtain ⟨rfl, rfl⟩ := List.cons.inj h
      have hrest := ih hcs true
      cases fresh <;> simp [dropLineBlanks, List.splitOn_cons_eq_if_modifyHead, hrest, unindent]
    · rw [if_neg (by simpa using hbreak), List.modifyHead_cons] at h
      obtain ⟨rfl, rfl⟩ := List.cons.inj h
      have hrest := ih hcs false
      by_cases hblank : fresh = true ∧ c = ' '
      · obtain ⟨rfl, rfl⟩ := hblank
        simpa [dropLineBlanks, unindent] using hrest
      · have hkept : (if fresh then unindent (c :: first) else c :: first) = c :: first := by
          split
          · next hfresh => exact unindent_of_ne (fun hc => hblank ⟨hfresh, hc⟩) first
          · rfl
        have hmiddle : (c == '\n') = false := beq_false_of_ne hbreak
        rw [hkept]
        simp [dropLineBlanks, hblank, hmiddle, List.splitOn_cons_eq_if_modifyHead, hrest]

/-! ### Written comments -/

/-- Puts a blank in front of each line but the first. -/
def indentLines : List Char → List Char
  | [] => []
  | c :: cs => if c = '\n' then '\n' :: ' ' :: indentLines cs else c :: indentLines cs

/-- The comment that a documentation is written in: each line with a blank in front, and a line
    break at the end. -/
def commentOf (documentation : String) : String :=
  String.ofList (' ' :: indentLines documentation.toList ++ ['\n'])

/-- Each line is written with a blank in front. -/
theorem splitOn_indentLines (cs : List Char) :
    (' ' :: indentLines cs).splitOn '\n' = (cs.splitOn '\n').map (' ' :: ·) := by
  induction cs with
  | nil => rfl
  | cons c cs ih =>
    obtain ⟨first, rest, hcs⟩ := exists_splitOn_eq_cons cs
    by_cases hbreak : c = '\n'
    · simp [indentLines, hbreak, List.splitOn_cons_eq_if_modifyHead, ih]
    · obtain ⟨first', rest', hindented⟩ := exists_splitOn_eq_cons (indentLines cs)
      rw [List.splitOn_cons_eq_if_modifyHead, hindented, hcs] at ih
      simp_all [indentLines, List.splitOn_cons_eq_if_modifyHead]

/-- The comment of a documentation has its lines with a blank in front of each, and a line break
    behind them. -/
theorem commentOf_eq (text : String) :
    commentOf text
      = String.ofList (['\n'].intercalate ((textLines text).map (' ' :: ·)) ++ ['\n']) := by
  unfold commentOf textLines
  rw [← splitOn_indentLines, List.intercalate_splitOn]

/-- Dropping blanks undoes the indentation, up to the line break at the end. -/
theorem dropLineBlanks_indentLines (cs : List Char) :
    dropLineBlanks false (indentLines cs ++ ['\n']) = cs ++ ['\n'] := by
  induction cs with
  | nil => rfl
  | cons c cs ih =>
    by_cases hbreak : c = '\n'
    · simp [indentLines, dropLineBlanks, hbreak, ih]
    · have hmiddle : (c == '\n') = false := beq_false_of_ne hbreak
      simp [indentLines, dropLineBlanks, hbreak, hmiddle, ih]

/-- A written comment is read back. -/
theorem trimComment_commentOf (text : String) : trimComment (commentOf text) = text := by
  unfold trimComment commentOf
  rw [String.toList_ofList, List.cons_append]
  have hblanks : dropLineBlanks true (' ' :: (indentLines text.toList ++ ['\n']))
      = text.toList ++ ['\n'] :=
    dropLineBlanks_indentLines text.toList
  rw [hblanks]
  simp [dropFinalBreak]

/-! ### All comments -/

/-- That a text has the lines of a comment, each without one blank that it begins with, but for an
    empty line at the end. -/
structure IsTrimmed (comment text : String) : Prop where
  lines : ∃ final, (textLines comment).map unindent = textLines text ++ final ∧
      (final = [] ∨ final = [[]])
  /-- There is one line less if the last of several lines is empty or a single blank. -/
  shorter_iff : (textLines text).length < (textLines comment).length ↔
    1 < (textLines comment).length ∧ ((textLines comment).map unindent).getLast? = some []

/-- The lines of a comment without their blanks. -/
theorem splitOn_dropLineBlanks_toList (comment : String) :
    (dropLineBlanks true comment.toList).splitOn '\n' = (textLines comment).map unindent := by
  obtain ⟨line, lines, hlines⟩ := exists_splitOn_eq_cons comment.toList
  unfold textLines
  rw [splitOn_dropLineBlanks hlines true, hlines]
  rfl

/-- Trimming does to each line what it should, and it drops the final empty line when it should. -/
theorem isTrimmed_trimComment (comment : String) : IsTrimmed comment (trimComment comment) := by
  have hlines := splitOn_dropFinalBreak (dropLineBlanks true comment.toList)
  have htext : textLines (trimComment comment)
      = (dropFinalBreak (dropLineBlanks true comment.toList)).splitOn '\n' := by
    unfold textLines trimComment
    rw [String.toList_ofList]
  -- Blanks are dropped within the lines, so there are as many lines as in the comment.
  have hbreak := getLast?_eq_break_iff (dropLineBlanks true comment.toList)
  rw [splitOn_dropLineBlanks_toList] at hlines hbreak
  rw [← htext] at hlines
  rw [List.length_map] at hbreak
  have hlength := congrArg List.length hlines
  rw [List.length_map, List.length_append] at hlength
  refine ⟨⟨_, hlines, ?_⟩, ?_⟩
  · split <;> simp
  · rw [← hbreak, hlength]
    split
    · next h => simp [h]
    · next h => simp [h]

/-- The documentation that a comment gives: what a comment is written of is read back exactly, and
    of any comment each line stays but for one blank that it begins with, and but for an empty line
    at the end. -/
theorem trimComment_readsBack :
    (∀ text : String,
      trimComment (String.ofList (['\n'].intercalate ((textLines text).map (' ' :: ·)) ++ ['\n']))
        = text) ∧
      ∀ comment : String, IsTrimmed comment (trimComment comment) := by
  refine ⟨fun text => ?_, isTrimmed_trimComment⟩
  rw [← commentOf_eq, trimComment_commentOf]

end ProtoApi
