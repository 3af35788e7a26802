import ProtoApi.Json.Token
import ProtoApi.Json.Writer

namespace ProtoApi.Json

/-!
# Scanning what has been written

* `scanPieces_escapedChar`, `readPieces_writtenPiece` — an escaped character is cut into one piece,
  which reads as the character;
* `scanString_writeString` — a quoted text is scanned as that text;
* `EndsNumber` — what may follow a number without becoming part of it;
* `appendDigits_toDigits`, `head?_toDigits` — the digits of a number below `2 ^ 64` all count, and
  they do not begin with a zero;
* `FitsWord`, `scanMagnitude_natAbs` — a whole number that fits 64 bits is scanned as that number.
-/

/-! ### Quoted texts -/

/-- The piece that a character is written as. Controls without a letter of their own are written by
    their number. -/
def writtenPiece (c : Char) : Piece :=
  if c.toNat < 0x20 ∧ c ∉ ['\x08', '\t', '\n', '\x0c', '\r'] then .unit c.toNat else .char c

/-- The value of a list of four hexadecimal digits. -/
def unitValue? : List Char → Option Nat
  | [h₁, h₂, h₃, h₄] => hexUnit? h₁ h₂ h₃ h₄
  | _ => none

/-- A value is given to four digits only. -/
theorem exists_of_unitValue? {digits : List Char} {n : Nat} (h : unitValue? digits = some n) :
    ∃ h₁ h₂ h₃ h₄, digits = [h₁, h₂, h₃, h₄] ∧ hexUnit? h₁ h₂ h₃ h₄ = some n := by
  unfold unitValue? at h
  split at h
  · next h₁ h₂ h₃ h₄ => exact ⟨h₁, h₂, h₃, h₄, rfl, h⟩
  · nomatch h

/-- The digits of a control character give its number. -/
theorem unitValue?_controlDigits {c : Char} (h : c.toNat < 0x20) :
    unitValue? (controlDigits c) = some c.toNat := by
  have hall : ∀ n < 0x20, unitValue? (controlDigits (Char.ofNat n)) = some n := by decide
  have hvalue := hall c.toNat h
  rwa [Char.ofNat_toNat] at hvalue

/-- A quote ends the text. -/
theorem scanPieces_quote (rest : List Char) : scanPieces ('"' :: rest) = ([], none, rest) := by
  rw [scanPieces.eq_def]
  simp only
  rw [if_pos trivial]

/-- A letter behind a backslash is cut off together with it. -/
theorem scanPieces_letter {e c : Char} (h : escapedChar? e = some c) (rest : List Char) :
    scanPieces ('\\' :: e :: rest) = (.char c :: (scanPieces rest).1, (scanPieces rest).2) := by
  have hu : ¬ e = 'u' := by
    rintro rfl
    have hnone : escapedChar? 'u' = none := by decide
    rw [hnone] at h
    nomatch h
  have hq : ¬ '\\' = '"' := by decide
  rw [scanPieces.eq_def]
  simp only
  rw [if_neg hq, if_pos trivial, if_neg hu, h]

/-- Four digits behind a backslash and a `u` are cut off together with them. -/
theorem scanPieces_unit {h₁ h₂ h₃ h₄ : Char} {n : Nat} (h : hexUnit? h₁ h₂ h₃ h₄ = some n)
    (rest : List Char) :
    scanPieces ('\\' :: 'u' :: h₁ :: h₂ :: h₃ :: h₄ :: rest)
      = (.unit n :: (scanPieces rest).1, (scanPieces rest).2) := by
  have hq : ¬ '\\' = '"' := by decide
  rw [scanPieces.eq_def]
  simp only
  rw [if_neg hq, if_pos trivial, if_pos trivial, h]

/-- Any other character stands for itself. -/
theorem scanPieces_plain {c : Char} (hq : ¬ c = '"') (hb : ¬ c = '\\') (hc : ¬ c.toNat < 0x20)
    (rest : List Char) :
    scanPieces (c :: rest) = (.char c :: (scanPieces rest).1, (scanPieces rest).2) := by
  rw [scanPieces.eq_def]
  simp only
  rw [if_neg hq, if_neg hb, if_neg hc]

/-- An escaped character is cut into its piece. -/
theorem scanPieces_escapedChar (c : Char) (rest : List Char) :
    scanPieces (escapedChar c ++ rest)
      = (writtenPiece c :: (scanPieces rest).1, (scanPieces rest).2) := by
  unfold escapedChar
  split
  · next h => subst h; exact scanPieces_letter rfl rest
  split
  · next h => subst h; exact scanPieces_letter rfl rest
  split
  · next h => subst h; exact scanPieces_letter rfl rest
  split
  · next h => subst h; exact scanPieces_letter rfl rest
  split
  · next h => subst h; exact scanPieces_letter rfl rest
  split
  · next h => subst h; exact scanPieces_letter rfl rest
  split
  · next h => subst h; exact scanPieces_letter rfl rest
  next hq hb h₁ h₂ h₃ h₄ h₅ =>
  -- The characters with a letter are done: a control is written by its number, all others as they
  -- are.
  split
  · next hc =>
    obtain ⟨d₁, d₂, d₃, d₄, hdigits, hvalue⟩ := exists_of_unitValue? (unitValue?_controlDigits hc)
    have hw : writtenPiece c = .unit c.toNat := if_pos ⟨hc, by simp [h₁, h₂, h₃, h₄, h₅]⟩
    rw [hdigits, hw]
    exact scanPieces_unit hvalue rest
  · next hc =>
    have hw : writtenPiece c = .char c := if_neg fun h => hc h.1
    rw [hw]
    exact scanPieces_plain hq hb hc rest

/-- The pieces of a text read as that text. -/
theorem readPieces_writtenPiece (cs : List Char) :
    readPieces none (cs.map writtenPiece) = .ok cs := by
  induction cs with
  | nil => rfl
  | cons c cs ih =>
    rw [List.map_cons, writtenPiece]
    split
    · next hc =>
      -- A control character is no half of a surrogate pair.
      have hlow : ¬ isLowSurrogate c.toNat = true := by simp [isLowSurrogate]; omega
      have hhigh : ¬ isHighSurrogate c.toNat = true := by simp [isHighSurrogate]; omega
      rw [readPieces.eq_def]
      simp only
      rw [if_neg hlow, if_neg hhigh, ih, Char.ofNat_toNat]
      rfl
    · rw [readPieces, ih]
      rfl

/-- A quoted text is scanned as that text. -/
theorem scanString_writeString (s : String) (rest : List Char) :
    scanString (s.toList.foldr (fun c rest => escapedChar c ++ rest) ('"' :: rest))
      = (.of s, rest) := by
  have hpieces : ∀ cs : List Char,
      scanPieces (cs.foldr (fun c rest => escapedChar c ++ rest) ('"' :: rest))
      = (cs.map writtenPiece, none, rest) := by
    intro cs
    induction cs with
    | nil => exact scanPieces_quote rest
    | cons c cs ih => rw [List.foldr_cons, scanPieces_escapedChar, ih, List.map_cons]
  unfold scanString
  rw [hpieces]
  simp only
  rw [readPieces_writtenPiece]
  show (Lexeme.of (String.ofList s.toList), rest) = _
  rw [String.ofList_toList]

/-! ### Whole numbers -/

/-- What may follow a number without becoming part of it. -/
def EndsNumber (rest : List Char) : Prop :=
  ∀ c, rest.head? = some c → c.isDigit = false ∧ c ≠ '.' ∧ c ≠ 'e' ∧ c ≠ 'E'

/-- So does the end of the text. -/
theorem endsNumber_nil : EndsNumber [] := by
  intro c h
  nomatch h

/-- What stands between the values of a text ends a number. -/
theorem endsNumber_cons {c : Char} (h : c ∈ [',', ']', '}', '\n']) (rest : List Char) :
    EndsNumber (c :: rest) := by
  have hc : c.isDigit = false ∧ c ≠ '.' ∧ c ≠ 'e' ∧ c ≠ 'E' := by
    simp only [List.mem_cons, List.not_mem_nil, or_false] at h
    rcases h with rfl | rfl | rfl | rfl <;> decide
  intro c' h'
  rw [List.head?_cons, Option.some.injEq] at h'
  subst h'
  exact hc

/-- Digits whose value stays below `2 ^ 64` all count. -/
theorem appendDigits_eq {n : Nat} {cs : List Char} (h : Nat.ofDigitChars 10 cs n < UInt64.size) :
    appendDigits n cs = (Nat.ofDigitChars 10 cs n, []) := by
  induction cs generalizing n with
  | nil => rw [Nat.ofDigitChars_nil]; rfl
  | cons c cs ih =>
    rw [Nat.ofDigitChars_cons] at h ⊢
    -- The number grows with each digit.
    have hle : 10 * n + (c.toNat - '0'.toNat)
        ≤ Nat.ofDigitChars 10 cs (10 * n + (c.toNat - '0'.toNat)) := by
      rw [Nat.ofDigitChars_eq_ofDigitChars_zero]
      have hpos : 0 < 10 ^ cs.length := Nat.pow_pos (by decide)
      exact Nat.le_add_right_of_le (Nat.le_mul_of_pos_left _ hpos)
    rw [appendDigits, if_pos (Nat.lt_of_le_of_lt hle h), ih h]

/-- The digits of a number that fits are all taken, and they make the number. -/
theorem appendDigits_toDigits {n : Nat} (h : n < UInt64.size) :
    appendDigits 0 (Nat.toDigits 10 n) = (n, []) := by
  rw [appendDigits_eq, Nat.ofDigitChars_ten_toDigits]
  rwa [Nat.ofDigitChars_ten_toDigits]

/-- Only zero begins with a zero. -/
theorem head?_toDigits {n : Nat} (h : (Nat.toDigits 10 n).head? = some '0') : n = 0 := by
  induction n using Nat.strongRecOn with
  | _ n ih =>
    by_cases hn : n < 10
    · rw [Nat.toDigits_of_lt_base hn] at h
      have hall : ∀ n < 10, [n.digitChar].head? = some '0' → n = 0 := by decide
      exact hall n hn h
    · obtain ⟨d, ds, hds⟩ :=
        List.exists_cons_of_ne_nil (Nat.toDigits_ne_nil (n := n / 10) (b := 10))
      rw [Nat.toDigits_of_base_le (by decide) (by omega), hds] at h
      have hz := ih (n / 10) (by omega) (hds ▸ h)
      omega

/-- Digits of a number begin with zero only if that is all. -/
theorem not_leadingZero_toDigits (n : Nat) :
    ¬ ((Nat.toDigits 10 n).head? = some '0' ∧ 1 < (Nat.toDigits 10 n).length) := by
  rintro ⟨hhead, hlen⟩
  rw [head?_toDigits hhead] at hlen
  exact absurd hlen (by decide)

section Digits

variable (n : Nat) {rest : List Char} (h : EndsNumber rest)
include h

/-- The digits that are scanned are those that were written, since what follows is none. -/
theorem takeWhile_toDigits :
    (Nat.toDigits 10 n ++ rest).takeWhile Char.isDigit = Nat.toDigits 10 n := by
  rw [List.takeWhile_append_of_pos fun c hc =>
    Nat.isDigit_of_mem_toDigits (by decide) (by decide) hc]
  cases rest with
  | nil => exact List.append_nil _
  | cons c rest => rw [List.takeWhile_cons_of_neg (by simp [(h c rfl).1]), List.append_nil]

/-- What follows them is left. -/
theorem dropWhile_toDigits : (Nat.toDigits 10 n ++ rest).dropWhile Char.isDigit = rest := by
  rw [List.dropWhile_append_of_pos fun c hc =>
    Nat.isDigit_of_mem_toDigits (by decide) (by decide) hc]
  cases rest with
  | nil => rfl
  | cons c rest => rw [List.dropWhile_cons_of_neg (by simp [(h c rfl).1])]

/-- Behind the digits the number ends. -/
theorem scanMagnitude_toDigits (negative : Bool) :
    scanMagnitude negative (Nat.toDigits 10 n ++ rest)
      = (⟨wholeNumber negative (Nat.toDigits 10 n), none⟩, rest) := by
  have hne : ¬ (Nat.toDigits 10 n).isEmpty = true :=
    fun he => Nat.toDigits_ne_nil (List.isEmpty_iff.1 he)
  unfold scanMagnitude
  simp only [takeWhile_toDigits n h, dropWhile_toDigits n h]
  rw [if_neg hne, if_neg (not_leadingZero_toDigits n)]
  cases rest with
  | nil => rfl
  | cons c rest =>
    obtain ⟨-, hp, he, hE⟩ := h c rfl
    split
    · next heq => exact absurd (List.cons.inj heq).1 hp
    · rw [scanExponent, if_neg (not_or.2 ⟨he, hE⟩)]
      rfl

end Digits

/-- A whole number that fits 64 bits, with or without a sign. -/
def FitsWord (n : Int) : Prop := -(UInt64.size : Int) ≤ 2 * n ∧ n < UInt64.size

/-- A whole number that fits 64 bits is scanned as that number. -/
theorem scanMagnitude_natAbs {n : Int} (hn : FitsWord n) {rest : List Char} (h : EndsNumber rest) :
    scanMagnitude (decide (n < 0)) (Nat.toDigits 10 n.natAbs ++ rest)
      = (.of (.integer n), rest) := by
  -- The sign is scanned apart, so that the digits are those of the absolute value.
  obtain ⟨hleast, hgreatest⟩ := hn
  have hlt : n.natAbs < UInt64.size := by omega
  have hwhole : wholeNumber (decide (n < 0)) (Nat.toDigits 10 n.natAbs) = .ok (.integer n) := by
    have hempty : ¬ ¬ ([] : List Char).isEmpty = true := fun h => h rfl
    unfold wholeNumber
    rw [appendDigits_toDigits hlt]
    by_cases hneg : n < 0
    · have hbound : 0 < n.natAbs ∧ 2 * n.natAbs ≤ UInt64.size := by omega
      have habs : -(n.natAbs : Int) = n := by omega
      rw [decide_eq_true hneg]
      show (if ¬ ([] : List Char).isEmpty = true then _ else if true = false then _
        else if 0 < n.natAbs ∧
          2 * n.natAbs ≤ UInt64.size then Except.ok (Number.integer (-n.natAbs)) else _) = _
      rw [if_neg hempty, if_neg (Ne.symm Bool.false_ne_true), if_pos hbound, habs]
    · have habs : (n.natAbs : Int) = n := by omega
      rw [decide_eq_false hneg]
      show (if ¬ ([] : List Char).isEmpty = true then _
        else if false = false then Except.ok (Number.integer n.natAbs) else _) = _
      rw [if_neg hempty, if_pos rfl, habs]
  rw [scanMagnitude_toDigits _ h, hwhole]
  rfl

end ProtoApi.Json
