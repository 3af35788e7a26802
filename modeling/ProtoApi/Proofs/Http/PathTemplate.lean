import ProtoApi.Http.PathTemplate.Written
import ProtoApi.Http.Rule
import ProtoApi.Proofs.Http.Cutting
import Mathlib.Data.List.TakeWhile

namespace ProtoApi.PathTemplate

/-!
# The grammar of path templates

A template is cut into pieces first, and then each piece is judged by how it begins and ends, so
that what is taken for one variable may be several of them.

* `Piece.isRead` — the pieces that stand for a segment, `segment_render` and
  `exists_piece_of_segment`; `Piece.isWellFormed_of_count` says that those with one variable at most
  are well formed;
* `segments_render_of_isRead`, `exists_render_of_segments` — whole templates, from either side;
* `parse_eq_ok_iff` — what is accepted; `exists_parse_of_two_variables` is a template whose
  variables share a piece;
* `parse_render` — a template of well-formed pieces is read as what it is written for.
-/

/-! ### Pieces -/

/-- What stands in front of the first mark of a text. -/
theorem takeWhile_ne_eq_iff {mark : Char} {cs start : List Char} :
    cs.takeWhile (· ≠ mark) = start ↔
      mark ∉ start ∧ (cs = start ∨ ∃ rest, cs = start ++ mark :: rest) := by
  constructor
  · rintro rfl
    refine ⟨fun hmem => by simpa using List.mem_takeWhile_imp hmem, ?_⟩
    have hsplit : cs.takeWhile (· ≠ mark) ++ cs.dropWhile (· ≠ mark) = cs :=
      List.takeWhile_append_dropWhile
    cases hd : cs.dropWhile (· ≠ mark) with
    | nil => exact Or.inl (by rw [hd, List.append_nil] at hsplit; exact hsplit.symm)
    | cons d rest =>
      -- The first character that is not taken is the mark.
      have hmark : d = mark := by
        have hstop := List.head?_dropWhile_not (· ≠ mark) cs
        rw [hd] at hstop
        simpa using hstop
      rw [hd, hmark] at hsplit
      exact Or.inr ⟨rest, hsplit.symm⟩
  · rintro ⟨hmark, hcs⟩
    have hstart : ∀ c ∈ start, decide (c ≠ mark) = true :=
      fun c hc => decide_eq_true fun e => hmark (e ▸ hc)
    rcases hcs with rfl | ⟨rest, rfl⟩
    · exact List.takeWhile_eq_self_iff.2 hstart
    · rw [List.takeWhile_append_of_pos hstart]
      simp

namespace Piece

/-- Whether a piece is taken for what it is written for. What is bound is anything between a first
    and a last brace, so that it may hold further variables. -/
def isRead : Piece → Bool
  | literal text => isPlain text
  | bound field pattern? =>
    field ≠ "" && !field.toList.contains '=' && balanced false (bound field pattern?).render.toList

/-- What stands between the outer braces of a variable. -/
def inner (field : String) : Option String → List Char
  | none => field.toList
  | some pattern => field.toList ++ '=' :: pattern.toList

/-- A variable is written between braces. -/
theorem toList_render_bound (field : String) (pattern? : Option String) :
    (bound field pattern?).render.toList = '{' :: (inner field pattern? ++ ['}']) := by
  cases pattern? <;> simp [render, inner]

/-- The field ends where the first equals sign stands. -/
theorem takeWhile_inner {field : String} (h : '=' ∉ field.toList) (pattern? : Option String) :
    (inner field pattern?).takeWhile (· ≠ '=') = field.toList := by
  refine takeWhile_ne_eq_iff.2 ⟨h, ?_⟩
  cases pattern? with
  | none => exact Or.inl rfl
  | some pattern => exact Or.inr ⟨pattern.toList, rfl⟩

/-- Any text between braces is the field and the pattern of a variable. -/
theorem exists_inner (cs : List Char) :
    ∃ field pattern?, '=' ∉ field.toList ∧ inner field pattern? = cs ∧
      field = String.ofList (cs.takeWhile (· ≠ '=')) := by
  obtain ⟨hsign, hcs⟩ := takeWhile_ne_eq_iff.1 (Eq.refl (cs.takeWhile (· ≠ '=')))
  have hfield : (String.ofList (cs.takeWhile (· ≠ '='))).toList = cs.takeWhile (· ≠ '=') :=
    String.toList_ofList
  rw [← hfield] at hsign hcs
  rcases hcs with hcs | ⟨pattern, hcs⟩
  · exact ⟨_, none, hsign, hcs.symm, rfl⟩
  · refine ⟨_, some (String.ofList pattern), hsign, ?_, rfl⟩
    rw [inner, String.toList_ofList (l := pattern)]
    exact hcs.symm

/-- The pieces that are read are balanced. -/
theorem balanced_render {p : Piece} (h : p.isRead = true) :
    balanced false p.render.toList = true := by
  cases p with
  | literal text => exact balanced_of_plain (isPlain_iff.1 h).2
  | bound field pattern? =>
    simp only [isRead, Bool.and_eq_true] at h
    exact h.2

/-- No piece is empty. -/
theorem toList_render_ne_nil {p : Piece} (h : p.isRead = true) : p.render.toList ≠ [] := by
  cases p with
  | literal text => simpa [render] using (isPlain_iff.1 h).1
  | bound field pattern? => simp [toList_render_bound]

/-- What is well formed is read. -/
theorem isRead_of_isWellFormed {p : Piece} (h : p.isWellFormed = true) : p.isRead = true := by
  cases p with
  | literal text => exact h
  | bound field pattern? =>
    have hparts : isFieldPath field = true ∧ ∀ pattern, pattern? = some pattern →
        isPattern pattern = true := by
      cases pattern? with
      | none => simpa [isWellFormed] using h
      | some pattern => simpa [isWellFormed] using h
    obtain ⟨hne, hfield⟩ := isFieldPath_iff.1 hparts.1
    -- Neither the field nor its pattern has a brace, and the sign between them is none.
    have hinner : ∀ c ∈ inner field pattern?, c ≠ '{' ∧ c ≠ '}' := by
      intro c hc
      cases pattern? with
      | none => exact ⟨(hfield c hc).1, (hfield c hc).2.1⟩
      | some pattern =>
        have hpattern := isPattern_iff.1 (hparts.2 pattern rfl)
        rcases List.mem_append.1 hc with hc | hc
        · exact ⟨(hfield c hc).1, (hfield c hc).2.1⟩
        · rcases List.mem_cons.1 hc with rfl | hc
          · decide
          · exact hpattern c hc
    have hsign : '=' ∉ field.toList := fun hmem => (hfield _ hmem).2.2 rfl
    have hbalanced : balanced false (bound field pattern?).render.toList = true := by
      simp [toList_render_bound, balanced, balanced_inside hinner]
    simp [isRead, hne, hsign, hbalanced]

/-- What is read is well formed if it holds one variable at most. -/
theorem isWellFormed_of_count {p : Piece} (h : p.isRead = true)
    (hcount : p.render.toList.count '{' ≤ 1) : p.isWellFormed = true := by
  cases p with
  | literal text => exact h
  | bound field pattern? =>
    simp only [isRead, Bool.and_eq_true, decide_eq_true_eq, Bool.not_eq_true', List.contains_eq_mem,
      decide_eq_false_iff_not] at h
    obtain ⟨⟨hne, hsign⟩, hbalanced⟩ := h
    rw [toList_render_bound] at hbalanced hcount
    -- The brace that opens the variable is the one that may be there.
    have hopen : '{' ∉ inner field pattern? := by
      simp only [List.count_cons_self, List.count_append] at hcount
      have hzero : (inner field pattern?).count '{' = 0 := by omega
      exact List.count_eq_zero.1 hzero
    simp only [balanced, if_true, Bool.not_false, Bool.true_and] at hbalanced
    have hinner := no_braces_of_balanced hbalanced hopen
    have hfield : isFieldPath field = true := by
      refine isFieldPath_iff.2 ⟨hne, fun c hc => ?_⟩
      have hmem : c ∈ inner field pattern? := by cases pattern? <;> simp [inner, hc]
      exact ⟨(hinner c hmem).1, (hinner c hmem).2, fun e => hsign (e ▸ hc)⟩
    cases pattern? with
    | none => exact hfield
    | some pattern =>
      have hpattern : isPattern pattern = true :=
        isPattern_iff.2 fun c hc => hinner c (by simp [inner, hc])
      simp [isWellFormed, hfield, hpattern]

end Piece

/-- A text that begins with an opening brace and ends with a closing one is what a variable is taken
    for. -/
theorem enclosed?_eq_some_iff {piece cs : List Char} :
    enclosed? piece = some cs ↔ piece = '{' :: (cs ++ ['}']) := by
  constructor
  · intro h
    unfold enclosed? at h
    split at h
    · next rest =>
      split at h
      · next hlast =>
        obtain ⟨ys, rfl⟩ := List.getLast?_eq_some_iff.1 hlast
        simp only [List.dropLast_concat, Option.some.injEq] at h
        rw [h]
      · simp at h
    · simp at h
  · rintro rfl
    simp [enclosed?]

/-- A piece is read as the segment that it means. -/
theorem segment_render {p : Piece} (h : p.isRead = true) :
    segment p.render.toList = .ok p.segment := by
  have hne := p.toList_render_ne_nil h
  unfold segment
  rw [if_neg (by simpa using hne)]
  cases p with
  | literal text =>
    obtain ⟨-, hplain⟩ := isPlain_iff.1 h
    have hopen : '{' ∉ text.toList := fun hmem => (hplain _ hmem).2.2.1 rfl
    have hclose : '}' ∉ text.toList := fun hmem => (hplain _ hmem).2.2.2 rfl
    -- A literal has no brace to begin with, so it is not taken for a variable.
    have hnone : enclosed? text.toList = none := by
      refine Option.eq_none_iff_forall_ne_some.2 fun cs hcs => ?_
      rw [enclosed?_eq_some_iff.1 hcs] at hopen
      exact hopen List.mem_cons_self
    simp [Piece.render, Piece.segment, hnone, hopen, hclose]
  | bound field pattern? =>
    simp only [Piece.isRead, Bool.and_eq_true, decide_eq_true_eq, Bool.not_eq_true',
      List.contains_eq_mem, decide_eq_false_iff_not] at h
    obtain ⟨⟨hfield, hsign⟩, -⟩ := h
    have hsome := enclosed?_eq_some_iff.2 (Piece.toList_render_bound field pattern?)
    simp only [hsome, Piece.takeWhile_inner hsign]
    rw [if_neg (by simpa using hfield)]
    simp [Piece.segment]

/-- A balanced piece that is read as a segment is written for it. -/
theorem exists_piece_of_segment {piece : List Char} {s : PathSegment}
    (hb : balanced false piece = true) (h : segment piece = .ok s) :
    ∃ p : Piece, p.isRead = true ∧ p.render.toList = piece ∧ p.segment = s := by
  unfold segment at h
  split at h
  · simp at h
  · next hne =>
    split at h
    · next cs hcs =>
      rw [enclosed?_eq_some_iff] at hcs
      -- What stands in the braces is cut at its first equals sign, if it has one.
      obtain ⟨field, pattern?, hsign, hinner, hfield⟩ := Piece.exists_inner cs
      simp only at h
      split at h
      · simp at h
      · next hempty =>
        simp only [Except.ok.injEq] at h
        have htext : (Piece.bound field pattern?).render.toList = piece := by
          rw [Piece.toList_render_bound, hinner, hcs]
        refine ⟨.bound field pattern?, ?_, htext, ?_⟩
        · have hfield' : field ≠ "" := by
            rw [hfield]
            intro he
            exact hempty (by simpa using he)
          simp [Piece.isRead, hfield', hsign, htext, hb]
        · rw [Piece.segment, hfield, h]
    · split at h
      · simp at h
      · next hbraces =>
        simp only [not_or] at hbraces
        simp only [Except.ok.injEq] at h
        -- Outside of braces a balanced text has neither a slash nor a colon.
        have hplain := plain_of_balanced hb hbraces.1 hbraces.2
        refine ⟨.literal (String.ofList piece), ?_, by simp [Piece.render], h⟩
        refine isPlain_iff.2 ⟨by simpa using hne, ?_⟩
        simpa using hplain

/-- A custom verb is read from a plain text. -/
theorem verbSegment_eq_ok_iff {verb : List Char} {s : PathSegment} :
    verbSegment verb = .ok s ↔ isPlain (String.ofList verb) = true ∧
      .verb (String.ofList verb) = s := by
  unfold verbSegment
  rw [isPlain_iff]
  split
  · next h =>
    simp only [reduceCtorEq, false_iff, not_and]
    rintro ⟨hne, hplain⟩
    simp only [String.toList_ofList] at hplain
    -- One after the other: nothing at all, and the four characters that a verb must not have.
    rcases h with h | h | h | h | h
    · exact absurd (by simpa using h) hne
    · exact absurd rfl (hplain _ h).1
    · exact absurd rfl (hplain _ h).2.2.1
    · exact absurd rfl (hplain _ h).2.2.2
    · exact absurd rfl (hplain _ h).2.1
  · next h =>
    simp only [not_or] at h
    obtain ⟨hne, hslash, hopen, hclose, hcolon⟩ := h
    have hplain : String.ofList verb ≠ "" ∧ ∀ c ∈ (String.ofList verb).toList,
        c ≠ '/' ∧ c ≠ ':' ∧ c ≠ '{' ∧ c ≠ '}' := by
      refine ⟨by simpa using hne, fun c hc => ?_⟩
      rw [String.toList_ofList] at hc
      exact ⟨fun e => hslash (e ▸ hc), fun e => hcolon (e ▸ hc), fun e => hopen (e ▸ hc), fun e =>
        hclose (e ▸ hc)⟩
    simp only [Except.ok.injEq]
    exact ⟨fun hs => ⟨hplain, hs⟩, And.right⟩

/-! ### Whole templates -/

/-- The cut of a template that is written with some pieces and a verb. -/
def writtenCut (p : Piece) (ps : List Piece) (verb? : Option String) : Cut where
  first := p.render.toList
  others := ps.map (·.render.toList)
  verb := verb?.map String.toList

theorem pieces_writtenCut (p : Piece) (ps : List Piece) (verb? : Option String) :
    (writtenCut p ps verb?).pieces = (p :: ps).map (·.render.toList) := rfl

/-- A template is written piece by piece, with the verb behind the last one. -/
theorem toList_render (slash : Bool) (p : Piece) (ps : List Piece) (verb? : Option String) :
    (render slash (p :: ps) verb?).toList = (if slash then ['/'] else [])
      ++ (writtenCut p ps verb?).chars := by
  have hpieces : ((p :: ps).map Piece.render).map String.toList
      = (p :: ps).map (·.render.toList) := by
    rw [List.map_map]
    rfl
  simp only [render, String.toList_append, String.toList_intercalate, hpieces, Cut.chars,
    pieces_writtenCut]
  cases slash <;> cases verb? <;> simp [writtenCut]

/-- A written template is cut into the texts of its pieces. -/
theorem cut_writtenCut {p : Piece} {ps : List Piece} (h : ∀ q ∈ p :: ps, q.isRead = true)
    (verb? : Option String) :
    cut false (writtenCut p ps verb?).chars = .ok (writtenCut p ps verb?) := by
  refine cut_eq_ok_iff.2 ⟨rfl, fun text htext => ?_⟩
  rw [pieces_writtenCut] at htext
  obtain ⟨q, hq, rfl⟩ := List.mem_map.1 htext
  exact q.balanced_render (h q hq)

/-- The texts of pieces are read as their segments. -/
theorem mapM_segment_render {ps : List Piece} (h : ∀ p ∈ ps, p.isRead = true) :
    (ps.map (·.render.toList)).mapM segment = .ok (ps.map Piece.segment) := by
  induction ps with
  | nil => rfl
  | cons p ps ih =>
    have hp := segment_render (h p List.mem_cons_self)
    have hps := ih fun q hq => h q (List.mem_cons_of_mem p hq)
    simp [hp, hps, bind, Except.bind, pure, Except.pure]

/-- Balanced texts that are read as segments are those of some pieces. -/
theorem exists_pieces_of_mapM {texts : List (List Char)} {path : List PathSegment}
    (hb : ∀ text ∈ texts, balanced false text = true) (h : texts.mapM segment = .ok path) :
    ∃ ps : List Piece, (∀ p ∈ ps, p.isRead = true) ∧ ps.map (·.render.toList) = texts ∧
      ps.map Piece.segment = path := by
  induction texts generalizing path with
  | nil =>
    simp only [List.mapM_nil, pure, Except.pure, Except.ok.injEq] at h
    exact ⟨[], by simp, rfl, by simpa using h⟩
  | cons text texts ih =>
    rw [List.mapM_cons] at h
    obtain ⟨s, hs, h⟩ := bind_eq_ok_iff.1 h
    obtain ⟨rest, hrest, h⟩ := bind_eq_ok_iff.1 h
    obtain ⟨p, hread, htext, hsegment⟩ := exists_piece_of_segment (hb text List.mem_cons_self) hs
    obtain ⟨ps, hreads, htexts, hsegments⟩ :=
      ih (fun t ht => hb t (List.mem_cons_of_mem text ht)) hrest
    refine ⟨p :: ps, ?_, ?_, ?_⟩
    · intro q hq
      rcases List.mem_cons.1 hq with rfl | hq
      · exact hread
      · exact hreads q hq
    · rw [List.map_cons, htext, htexts]
    · rw [List.map_cons, hsegment, hsegments]
      exact Except.ok.inj h

/-- A template without its first slash, where something other than a slash begins it. -/
theorem withoutSlash_append {slash : Bool} {cs : List Char} (h : cs.head? ≠ some '/') :
    withoutSlash ((if slash then ['/'] else []) ++ cs) = cs := by
  cases slash with
  | true => simp [withoutSlash]
  | false =>
    cases cs with
    | nil => simp [withoutSlash]
    | cons c cs =>
      have hc : c ≠ '/' := by simpa using h
      simp only [Bool.false_eq_true, if_false, List.nil_append]
      unfold withoutSlash
      split
      · next heq => exact absurd (List.cons.inj heq).1 hc
      · rfl

/-- Every template begins with a slash that is taken off or with what is left. -/
theorem exists_slash (cs : List Char) :
    ∃ slash : Bool, (if slash then ['/'] else []) ++ withoutSlash cs = cs := by
  unfold withoutSlash
  split
  · exact ⟨true, rfl⟩
  · exact ⟨false, rfl⟩

/-- A balanced text begins with no slash. -/
theorem head?_of_balanced {cs : List Char} (h : balanced false cs = true) :
    cs.head? ≠ some '/' := by
  cases cs with
  | nil => simp
  | cons c cs =>
    intro hc
    simp only [List.head?_cons, Option.some.injEq] at hc
    simp [hc, balanced] at h

/-- The template of some pieces and a verb is read as the segments that they mean. -/
theorem segments_render_of_isRead {pieces : List Piece} {verb? : Option String} (hne : pieces ≠ [])
    (hp : ∀ p ∈ pieces, p.isRead = true) (hv : ∀ v, verb? = some v → isPlain v = true)
    (slash : Bool) : segments (render slash pieces verb?) = .ok (segmentsOf pieces verb?) := by
  obtain ⟨p, ps, rfl⟩ := List.exists_cons_of_ne_nil hne
  have hfirst := hp p List.mem_cons_self
  -- The first piece is not empty, and so neither is the template nor does a slash of its own begin
  -- it.
  obtain ⟨c, cs, hc⟩ := List.exists_cons_of_ne_nil (p.toList_render_ne_nil hfirst)
  have hhead : (writtenCut p ps verb?).chars.head? = some c := by
    cases ps <;> simp [writtenCut, Cut.chars, Cut.pieces, hc]
  have hslash : (writtenCut p ps verb?).chars.head? ≠ some '/' := by
    have h := head?_of_balanced (p.balanced_render hfirst)
    rwa [hc, List.head?_cons, ← hhead] at h
  have hempty : ¬ (writtenCut p ps verb?).chars.isEmpty = true := by
    intro h
    rw [List.isEmpty_iff.1 h] at hhead
    cases hhead
  unfold segments
  rw [toList_render, withoutSlash_append hslash]
  simp only
  rw [if_neg hempty, cut_writtenCut hp]
  show ((writtenCut p ps verb?).pieces.mapM segment >>= fun path => _) = _
  rw [pieces_writtenCut, mapM_segment_render hp]
  cases verb? with
  | none => simp [writtenCut, segmentsOf, bind, Except.bind, pure, Except.pure]
  | some v =>
    have hverb : verbSegment v.toList = .ok (.verb v) :=
      verbSegment_eq_ok_iff.2 ⟨by simpa using hv v rfl, by simp⟩
    simp [writtenCut, segmentsOf, hverb, bind, Except.bind, pure, Except.pure]

/-- A template that is read is that of some pieces and possibly a verb. -/
theorem exists_render_of_segments {template : String} {path : List PathSegment}
    (h : segments template = .ok path) :
    ∃ slash pieces verb?, pieces ≠ [] ∧ (∀ p ∈ pieces, p.isRead = true) ∧
      (∀ v, verb? = some v → isPlain v = true) ∧ render slash pieces verb? = template ∧
      segmentsOf pieces verb? = path := by
  unfold segments at h
  simp only at h
  split at h
  · simp at h
  · obtain ⟨⟨first, others, verb?⟩, hcut, h⟩ := bind_eq_ok_iff.1 h
    obtain ⟨segs, hsegs, h⟩ := bind_eq_ok_iff.1 h
    -- The cut gives the texts between the slashes, and each of them is read as a piece.
    obtain ⟨hchars, hbalanced⟩ := cut_eq_ok_iff.1 hcut
    obtain ⟨pieces, hread, htexts, hsegments⟩ := exists_pieces_of_mapM hbalanced hsegs
    obtain ⟨slash, hslash⟩ := exists_slash template.toList
    obtain ⟨p, ps, rfl⟩ : ∃ p ps, pieces = p :: ps := by
      apply List.exists_cons_of_ne_nil
      rintro rfl
      simp [Cut.pieces] at htexts
    simp only [Cut.pieces, List.map_cons, List.cons.injEq] at htexts
    obtain ⟨rfl, rfl⟩ := htexts
    -- Written again, the pieces give the text that has been cut.
    have htext : render slash (p :: ps) (verb?.map String.ofList) = template := by
      apply String.toList_inj.1
      rw [toList_render, ← hslash, ← hchars]
      cases verb? <;> simp [writtenCut]
    refine ⟨slash, p :: ps, verb?.map String.ofList, by simp, hread, ?_, htext, ?_⟩
    · intro v hv
      obtain ⟨cs, rfl, rfl⟩ := Option.map_eq_some_iff.1 hv
      obtain ⟨s, hs, -⟩ := bind_eq_ok_iff.1 h
      exact (verbSegment_eq_ok_iff.1 hs).1
    · rw [segmentsOf, hsegments]
      cases verb? with
      | none => simpa using Except.ok.inj h
      | some cs =>
        obtain ⟨s, hs, h⟩ := bind_eq_ok_iff.1 h
        rw [← (verbSegment_eq_ok_iff.1 hs).2] at h
        simpa using Except.ok.inj h

/-! ### What is accepted -/

/-- What is wrong with a template is told together with the template. -/
theorem parse_eq_ok_iff_segments {template : String} {path : List PathSegment} :
    parse template = .ok path ↔ segments template = .ok path := mapError_eq_ok_iff

/-- A template is accepted if it is written with pieces that are read and possibly with a custom
    verb, and what is read is what these mean. A piece with one variable at most is a plain literal
    or a variable without further braces. -/
theorem parse_eq_ok_iff {template : String} {path : List PathSegment} :
    parse template = .ok path ↔
      ∃ slash pieces verb?, pieces ≠ [] ∧
        (∀ p ∈ pieces, p.isRead = true ∧ (p.render.toList.count '{' ≤ 1 → p.isWellFormed = true)) ∧
        (∀ v, verb? = some v → isPlain v = true) ∧
        render slash pieces verb? = template ∧ segmentsOf pieces verb? = path := by
  rw [parse_eq_ok_iff_segments]
  constructor
  · intro h
    obtain ⟨slash, pieces, verb?, hne, hread, hv, htext, hpath⟩ := exists_render_of_segments h
    have hpieces : ∀ p ∈ pieces, p.isRead = true ∧
        (p.render.toList.count '{' ≤ 1 → p.isWellFormed = true) :=
      fun p hp => ⟨hread p hp, p.isWellFormed_of_count (hread p hp)⟩
    exact ⟨slash, pieces, verb?, hne, hpieces, hv, htext, hpath⟩
  · rintro ⟨slash, pieces, verb?, hne, hpieces, hv, rfl, rfl⟩
    exact segments_render_of_isRead hne (fun p hp => (hpieces p hp).1) hv slash

/-- Two variables in one piece are taken for one, whose field has the braces between them in its
    name. -/
theorem exists_parse_of_two_variables :
    ∃ field, parse "/v1/\x7ba\x7d\x7bb\x7d" = .ok [.literal "v1", .fieldPath field] ∧
      isFieldPath field = false :=
  ⟨"a\x7d\x7bb", rfl, by decide +kernel⟩

/-- A template of well-formed pieces is read as what it is written for. -/
theorem parse_render {pieces : List Piece} {verb? : Option String} (hne : pieces ≠ [])
    (hp : ∀ p ∈ pieces, p.isWellFormed = true) (hv : ∀ v, verb? = some v → isPlain v = true)
    (slash : Bool) : parse (render slash pieces verb?) = .ok (segmentsOf pieces verb?) := by
  rw [parse_eq_ok_iff_segments]
  exact segments_render_of_isRead hne (fun p h => p.isRead_of_isWellFormed (hp p h)) hv slash

/-- Pieces whose patterns hold what otherwise parts a template. -/
def intricatePieces : List Piece :=
  [.bound "größe.x" (some "a/*:b=c"), .literal "=v1*", .bound "y" (some ""), .bound "z" none]

/-- They are read as their fields. -/
theorem parse_intricatePieces :
    intricatePieces ≠ [] ∧ (∀ p ∈ intricatePieces, p.isWellFormed = true) ∧
      isPlain "cancel" = true ∧
      parse (render true intricatePieces (some "cancel"))
        = .ok [.fieldPath "größe.x", .literal "=v1*", .fieldPath "y", .fieldPath "z",
          .verb "cancel"] := by
  have hne : intricatePieces ≠ [] := by decide
  have hp : ∀ p ∈ intricatePieces, p.isWellFormed = true := by decide +kernel
  have hverb : isPlain "cancel" = true := by decide +kernel
  have hv : ∀ v, some "cancel" = some v → isPlain v = true := by
    intro v h
    cases h
    exact hverb
  exact ⟨hne, hp, hverb, parse_render hne hp hv true⟩

end ProtoApi.PathTemplate
