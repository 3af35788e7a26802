import ProtoApi.Http.PathTemplate
import ProtoApi.Proofs.Except

namespace ProtoApi.PathTemplate

/-!
# Cutting path templates

* `balanced` — the braces of a text open and close by turns, and no slash or colon stands outside of
  them; `no_braces_of_balanced` is about a text with one variable only;
* `Cut.chars` — the text that is cut;
* `chars_of_cut`, `cut_append`, `cut_eq_ok_iff` — cutting undoes joining, exactly for balanced
  pieces.
-/

/-! ### Balanced pieces -/

/-- Whether the braces of a piece open and close by turns and no slash or colon stands outside of
    them; `inside` tells whether a variable is open in front of it. -/
def balanced : (inside : Bool) → List Char → Bool
  | inside, [] => !inside
  | inside, c :: cs =>
    if c = '{' then !inside && balanced true cs
    else if c = '}' then inside && balanced false cs
    else (inside || (c ≠ '/' && c ≠ ':')) && balanced inside cs

/-- A text without braces, slashes and colons is balanced. -/
theorem balanced_of_plain {cs : List Char} (h : ∀ c ∈ cs, c ≠ '/' ∧ c ≠ ':' ∧ c ≠ '{' ∧ c ≠ '}') :
    balanced false cs = true := by
  induction cs with
  | nil => rfl
  | cons c cs ih =>
    obtain ⟨hslash, hcolon, hopen, hclose⟩ := h c List.mem_cons_self
    have hrest := ih fun d hd => h d (List.mem_cons_of_mem c hd)
    simp [balanced, hslash, hcolon, hopen, hclose, hrest]

/-- In a balanced text without braces there are no slashes and colons either. -/
theorem plain_of_balanced {cs : List Char} (h : balanced false cs = true) (hopen : '{' ∉ cs)
    (hclose : '}' ∉ cs) : ∀ c ∈ cs, c ≠ '/' ∧ c ≠ ':' ∧ c ≠ '{' ∧ c ≠ '}' := by
  induction cs with
  | nil => simp
  | cons d cs ih =>
    simp only [List.mem_cons, not_or] at hopen hclose
    have hd : ¬ d = '{' ∧ ¬ d = '}' := ⟨fun e => hopen.1 e.symm, fun e => hclose.1 e.symm⟩
    simp only [balanced, hd.1, hd.2, if_false, Bool.false_or, Bool.and_eq_true,
      decide_eq_true_eq] at h
    intro c hc
    rcases List.mem_cons.1 hc with rfl | hc
    · exact ⟨h.1.1, h.1.2, hd.1, hd.2⟩
    · exact ih h.2 hopen.2 hclose.2 c hc

/-- A text without braces in a variable that is closed behind it. -/
theorem balanced_inside {cs : List Char} (h : ∀ c ∈ cs, c ≠ '{' ∧ c ≠ '}') :
    balanced true (cs ++ ['}']) = true := by
  induction cs with
  | nil => rfl
  | cons c cs ih =>
    obtain ⟨hopen, hclose⟩ := h c List.mem_cons_self
    have hrest := ih fun d hd => h d (List.mem_cons_of_mem c hd)
    simp [balanced, hopen, hclose, hrest]

/-- A closing brace needs a variable to close. -/
theorem balanced_close {cs : List Char} (hopen : '{' ∉ cs) :
    balanced false (cs ++ ['}']) = false := by
  induction cs with
  | nil => rfl
  | cons c cs ih =>
    simp only [List.mem_cons, not_or] at hopen
    have hc : ¬ c = '{' := fun e => hopen.1 e.symm
    have hrest := ih hopen.2
    simp [balanced, hc, hrest]

/-- Where no further variable opens, the first closing brace is the last character. -/
theorem no_braces_of_balanced {cs : List Char} (h : balanced true (cs ++ ['}']) = true)
    (hopen : '{' ∉ cs) : ∀ c ∈ cs, c ≠ '{' ∧ c ≠ '}' := by
  induction cs with
  | nil => simp
  | cons d cs ih =>
    simp only [List.mem_cons, not_or] at hopen
    have hd : ¬ d = '{' := fun e => hopen.1 e.symm
    by_cases hclose : d = '}'
    · simp [balanced, hclose, balanced_close hopen.2] at h
    · simp only [List.cons_append, balanced, hd, hclose, if_false, Bool.true_or, Bool.true_and] at h
      intro c hc
      rcases List.mem_cons.1 hc with rfl | hc
      · exact ⟨hd, hclose⟩
      · exact ih h hopen.2 c hc

/-! ### Cutting -/

namespace Cut

/-- The text that is cut. -/
def chars (t : Cut) : List Char := ['/'].intercalate t.pieces ++ (t.verb.map (':' :: ·)).getD []

/-- A character that is put in front of a cut is the first one of the text. -/
theorem chars_push (c : Char) (t : Cut) : (t.push c).chars = c :: t.chars := by
  obtain ⟨first, others, verb⟩ := t
  cases others <;> simp [chars, push, pieces]

/-- A break of a cut is a slash of the text. -/
theorem chars_break (t : Cut) : t.break.chars = '/' :: t.chars := by
  obtain ⟨first, others, verb⟩ := t
  simp [chars, Cut.break, pieces]

/-- Puts a whole text in front of the first piece. -/
def prepend (cs : List Char) (t : Cut) : Cut := { t with first := cs ++ t.first }

theorem map_push_prepend (c : Char) (cs : List Char) (x : Except Fault Cut) :
    (x.map (prepend cs)).map (push c) = x.map (prepend (c :: cs)) := by
  cases x <;> rfl

end Cut

/-- What is cut is the text itself, and its pieces are balanced. -/
theorem chars_of_cut {inside : Bool} {cs : List Char} {t : Cut} (h : cut inside cs = .ok t) :
    t.chars = cs ∧ balanced inside t.first = true ∧ ∀ p ∈ t.others, balanced false p = true := by
  induction cs generalizing inside t with
  | nil =>
    cases inside with
    | true => simp [cut] at h
    | false =>
      simp only [cut, Bool.false_eq_true, if_false, Except.ok.injEq] at h
      subst h
      simp [Cut.chars, Cut.pieces, balanced]
  | cons c cs ih =>
    -- Whatever does not part the text goes in front of the first piece.
    have hpush : ∀ next, (∀ p, balanced next p = true → balanced inside (c :: p) = true) →
        (cut next cs).map (Cut.push c) = .ok t →
        t.chars = c :: cs ∧ balanced inside t.first = true ∧ ∀ p ∈ t.others,
          balanced false p = true := by
      intro next hnext h
      obtain ⟨u, hu, rfl⟩ := map_eq_ok_iff.1 h
      obtain ⟨hchars, hfirst, hothers⟩ := ih hu
      exact ⟨by rw [Cut.chars_push, hchars], hnext _ hfirst, hothers⟩
    simp only [cut] at h
    split at h
    · next hc =>
      cases inside with
      | true => simp at h
      | false => exact hpush true (fun p hp => by simp [balanced, hc, hp]) h
    · next hopen =>
      split at h
      · next hc =>
        cases inside with
        | false => simp at h
        | true => exact hpush false (fun p hp => by simp [balanced, hc, hp]) h
      · next hclose =>
        split at h
        · next hc =>
          obtain ⟨rfl, rfl⟩ := hc
          obtain ⟨u, hu, rfl⟩ := map_eq_ok_iff.1 h
          obtain ⟨hchars, hfirst, hothers⟩ := ih hu
          refine ⟨by rw [Cut.chars_break, hchars], rfl, ?_⟩
          simpa [Cut.break] using ⟨hfirst, hothers⟩
        · next hslash =>
          split at h
          · next hc =>
            obtain ⟨rfl, rfl⟩ := hc
            simp only [Except.ok.injEq] at h
            subst h
            simp [Cut.chars, Cut.pieces, balanced]
          · next hcolon =>
            refine hpush inside (fun p hp => ?_) h
            cases inside <;> simp_all [balanced]

/-- A balanced piece is kept together. -/
theorem cut_append {inside : Bool} {piece : List Char} (h : balanced inside piece = true)
    (rest : List Char) : cut inside (piece ++ rest) = (cut false rest).map (Cut.prepend piece) := by
  induction piece generalizing inside with
  | nil =>
    cases inside with
    | true => simp [balanced] at h
    | false => cases hc : cut false rest <;> simp [hc, Except.map, Cut.prepend]
  | cons c piece ih =>
    simp only [balanced] at h
    -- A brace changes the state that the scanner is in; any other character leaves it.
    split at h
    · next hc =>
      simp only [Bool.and_eq_true, Bool.not_eq_true'] at h
      obtain ⟨rfl, h⟩ := h
      simp [cut, hc, ih h, Cut.map_push_prepend]
    · next hopen =>
      split at h
      · next hc =>
        simp only [Bool.and_eq_true] at h
        obtain ⟨rfl, h⟩ := h
        simp [cut, hc, ih h, Cut.map_push_prepend]
      · next hclose =>
        simp only [Bool.and_eq_true, Bool.or_eq_true, decide_eq_true_eq] at h
        obtain ⟨hc, h⟩ := h
        have hrest := ih h
        cases inside <;> simp_all [cut, Cut.map_push_prepend]

/-- Cutting undoes joining, exactly for balanced pieces. -/
theorem cut_eq_ok_iff {cs : List Char} {t : Cut} :
    cut false cs = .ok t ↔ t.chars = cs ∧ ∀ p ∈ t.pieces, balanced false p = true := by
  constructor
  · intro h
    obtain ⟨hchars, hfirst, hothers⟩ := chars_of_cut h
    exact ⟨hchars, by simpa [Cut.pieces] using ⟨hfirst, hothers⟩⟩
  · rintro ⟨rfl, hpieces⟩
    obtain ⟨first, others, verb⟩ := t
    induction others generalizing first with
    | nil =>
      have hfirst : balanced false first = true := hpieces first List.mem_cons_self
      cases verb with
      | none =>
        have h := cut_append hfirst []
        simpa [Cut.chars, Cut.pieces, cut, Except.map, Cut.prepend] using h
      | some v =>
        have h := cut_append hfirst (':' :: v)
        simpa [Cut.chars, Cut.pieces, cut, Except.map, Cut.prepend] using h
    | cons second others ih =>
      have hfirst : balanced false first = true := hpieces first List.mem_cons_self
      have hrest := ih second fun p hp => hpieces p (List.mem_cons_of_mem first hp)
      -- The slash behind the first piece breaks what is cut from there on.
      have h := cut_append hfirst ('/' :: Cut.chars ⟨second, others, verb⟩)
      simp only [cut, hrest] at h
      simpa [Cut.chars, Cut.pieces, Except.map, Cut.prepend, Cut.break] using h

end ProtoApi.PathTemplate
