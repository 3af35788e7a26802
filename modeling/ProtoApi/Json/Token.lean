import ProtoApi.Json.Fault
import ProtoApi.Json.Value

namespace ProtoApi.Json

/-!
# Tokens of a JSON text

* `Lexeme α` — a text or a number as it stands in the document: what reading it gives, and the fault
  met by whoever only passes over it. A surrogate without its partner or a number beyond all bounds
  hurts the reader alone;
* `Piece`, `scanPieces`, `readPieces` — the inside of a quoted text, first cut into characters and
  16-bit escapes, then put together, which is where the escapes must pair up;
* `appendDigits` — the digits of a number that count, those that fit 64 bits, with `appendDigits_lt`
  and `appendDigits_suffix`;
* `scanNumber` — a number, cut into its digits and then weighed;
* `Token`, `scanToken`, `tokens` — the tokens of a document. After a token that is broken nothing
  follows.
-/

/-- A text or a number of the document. -/
structure Lexeme (α : Type) where
  /-- What reading gives. -/
  reading : Except Fault α
  /-- The fault met in passing over it. -/
  fault? : Option Fault := none

/-- A lexeme that reads as `a`. -/
def Lexeme.of {α : Type} (a : α) : Lexeme α := ⟨.ok a, none⟩

/-- A lexeme that is broken for everyone. -/
def Lexeme.broken {α : Type} (f : Fault) : Lexeme α := ⟨.error f, some f⟩

/-! ### Quoted texts -/

/-- A piece of a quoted text: a character, be it plain or escaped by a letter, or a 16-bit
    escape. -/
inductive Piece where
  | char (c : Char)
  | unit (n : Nat)
deriving DecidableEq, Repr

/-- The value of a hexadecimal digit. -/
def hexValue? (c : Char) : Option Nat :=
  if c.isDigit then some (c.toNat - '0'.toNat)
  else if 'a' ≤ c ∧ c ≤ 'f' then some (c.toNat - 'a'.toNat + 10)
  else if 'A' ≤ c ∧ c ≤ 'F' then some (c.toNat - 'A'.toNat + 10)
  else none

/-- The value of four hexadecimal digits. -/
def hexUnit? (a b c d : Char) : Option Nat := do
  return (← hexValue? a) * 4096 + (← hexValue? b) * 256 + (← hexValue? c) * 16 + (← hexValue? d)

/-- The character that a letter after a backslash stands for. -/
def escapedChar? (c : Char) : Option Char :=
  if c = '"' ∨ c = '\\' ∨ c = '/' then some c
  else if c = 'b' then some '\x08'
  else if c = 'f' then some '\x0c'
  else if c = 'n' then some '\n'
  else if c = 'r' then some '\r'
  else if c = 't' then some '\t'
  else none

/-- The number of bytes that characters take. -/
def byteCount (cs : List Char) : Nat := (String.ofList cs).utf8ByteSize

/-- Cuts a quoted text into pieces, from behind its opening quote: the pieces, the fault that breaks
    it or none, and what follows the closing quote. A numeric escape takes the next four bytes of
    the document, whatever they are. -/
def scanPieces : List Char → List Piece × Option Fault × List Char
  | [] => ([], some .endInString, [])
  | c :: rest =>
    if c = '"' then ([], none, rest)
    else if c = '\\' then
      match rest with
      | [] => ([], some .endInString, [])
      | e :: rest =>
        if e = 'u' then
          -- Four characters of which one is longer than a byte are no digits either way.
          match rest with
          | h₁ :: h₂ :: h₃ :: h₄ :: rest =>
            match hexUnit? h₁ h₂ h₃ h₄ with
            | some n =>
              let (pieces, fault?, rest) := scanPieces rest
              (.unit n :: pieces, fault?, rest)
            | none => ([], some .malformedUnit, [])
          | short => ([], some (if 4 ≤ byteCount short then .malformedUnit else .endInString), [])
        else
          match escapedChar? e with
          | some c =>
            let (pieces, fault?, rest) := scanPieces rest
            (.char c :: pieces, fault?, rest)
          | none => ([], some .unknownEscape, [])
    else if c.toNat < 0x20 then ([], some .controlCharacter, [])
    else
      let (pieces, fault?, rest) := scanPieces rest
      (.char c :: pieces, fault?, rest)

/-- Whether a 16-bit unit is the first half of a surrogate pair. -/
def isHighSurrogate (n : Nat) : Bool := 0xD800 ≤ n && n ≤ 0xDBFF

/-- Whether a 16-bit unit is the second half of a surrogate pair. -/
def isLowSurrogate (n : Nat) : Bool := 0xDC00 ≤ n && n ≤ 0xDFFF

/-- The character of a surrogate pair. -/
def pairedChar (high low : Nat) : Char :=
  Char.ofNat ((high - 0xD800) * 0x400 + (low - 0xDC00) + 0x10000)

/-- The fault of a first half after which the pieces end: a second half was expected, and only a
    numeric escape could have brought it. -/
def cutPairFault : Option Fault → Fault
  | some .endInString => .endInString
  | some .malformedUnit => .malformedUnit
  | _ => .pairCutShort

/-- Puts pieces together; `broken?` is the fault that ends them. -/
def readPieces (broken? : Option Fault) : List Piece → Except Fault (List Char)
  | [] =>
    match broken? with
    | some f => .error f
    | none => .ok []
  | .char c :: rest => (readPieces broken? rest).map (c :: ·)
  | .unit n :: rest =>
    if isLowSurrogate n then .error .unpairedSurrogate
    else if isHighSurrogate n then
      match rest with
      | .unit m :: rest =>
        if isLowSurrogate m then (readPieces broken? rest).map (pairedChar n m :: ·)
        else .error .unpairedSurrogate
      | .char _ :: _ => .error .pairCutShort
      | [] => .error (cutPairFault broken?)
    else (readPieces broken? rest).map (Char.ofNat n :: ·)

/-- Scans a quoted text from behind its opening quote. -/
def scanString (cs : List Char) : Lexeme String × List Char :=
  let (pieces, fault?, rest) := scanPieces cs
  (⟨(readPieces fault? pieces).map String.ofList, fault?⟩, rest)

/-! ### Numbers -/

/-- Appends digits to a number as long as it stays below `2 ^ 64`: the number, and the digits that
    are left over. -/
def appendDigits : Nat → List Char → Nat × List Char
  | n, [] => (n, [])
  | n, c :: rest =>
    let longer := 10 * n + (c.toNat - '0'.toNat)
    if longer < UInt64.size then appendDigits longer rest else (n, c :: rest)

/-- A number of 64 bits stays one. -/
theorem appendDigits_lt {n : Nat} (h : n < UInt64.size) (cs : List Char) :
    (appendDigits n cs).1 < UInt64.size := by
  fun_induction appendDigits n cs with
  | case1 => exact h
  | case2 n c rest longer small ih => exact ih small
  | case3 => exact h

/-- What is left over are the last digits. -/
theorem appendDigits_suffix (n : Nat) (cs : List Char) : (appendDigits n cs).2 <:+ cs := by
  fun_induction appendDigits n cs with
  | case1 => exact List.suffix_rfl
  | case2 n c rest longer small ih => exact ih.trans (List.suffix_cons c rest)
  | case3 => exact List.suffix_rfl

/-- The value of decimal digits. -/
def digitsValue (cs : List Char) : Nat := cs.foldl (fun n c => 10 * n + (c.toNat - '0'.toNat)) 0

/-- The binary number with a significand and a power of ten. -/
def floatNumber (negative : Bool) (significand : Nat) (power : Int) : Except Fault Number :=
  match (Binary64.ofNat negative significand).bind (·.scale power) with
  | some x => .ok (.float x)
  | none => .error .numberTooLarge

/-- A whole number of a text: it stays whole from `-2 ^ 63` to `2 ^ 64 - 1`, except for a zero with
    a sign. Of longer ones the digits in front count. -/
def wholeNumber (negative : Bool) (whole : List Char) : Except Fault Number :=
  let (n, surplus) := appendDigits 0 whole
  if ¬ surplus.isEmpty then floatNumber negative n surplus.length
  else if negative = false then .ok (.integer n)
  else if 0 < n ∧ 2 * n ≤ UInt64.size then .ok (.integer (-n))
  else floatNumber negative n 0

/-- A number with a fraction or an exponent. Of its digits those count that fit 64 bits together. -/
def scaledNumber (negative : Bool) (whole fraction : List Char) (power : Int) :
    Except Fault Number :=
  let (n, surplus) := appendDigits 0 whole
  let (n, beyond) := appendDigits n fraction
  floatNumber negative n (power + surplus.length - (fraction.length - beyond.length))

/-- A number that stops before `rest`, where a digit is missing. -/
def cutNumber (rest : List Char) : Lexeme Number × List Char :=
  (.broken (if rest.isEmpty then .endInNumber else .malformedNumber), [])

/-- The sign of an exponent, if there is one. -/
def scanExponentSign : List Char → Bool × List Char
  | '-' :: rest => (true, rest)
  | '+' :: rest => (false, rest)
  | cs => (false, cs)

/-- Scans what may follow the whole part and the fraction of a number: an exponent. -/
def scanExponent (negative : Bool) (whole fraction rest : List Char) : Lexeme Number × List Char :=
  match rest with
  | [] =>
    let n := if fraction.isEmpty then wholeNumber negative whole
      else scaledNumber negative whole fraction 0
    (⟨n, none⟩, [])
  | c :: tail =>
    if c = 'e' ∨ c = 'E' then
      let (below, tail) := scanExponentSign tail
      let power := tail.takeWhile Char.isDigit
      let tail := tail.dropWhile Char.isDigit
      if power.isEmpty then cutNumber tail
      else
        let power : Int := if below then -(digitsValue power) else digitsValue power
        (⟨scaledNumber negative whole fraction power, none⟩, tail)
    else if fraction.isEmpty then (⟨wholeNumber negative whole, none⟩, rest)
    else (⟨scaledNumber negative whole fraction 0, none⟩, rest)

/-- Scans a number from behind its sign. Nothing but a point or an exponent follows a leading
    zero. -/
def scanMagnitude (negative : Bool) (cs : List Char) : Lexeme Number × List Char :=
  let whole := cs.takeWhile Char.isDigit
  let rest := cs.dropWhile Char.isDigit
  if whole.isEmpty then cutNumber rest
  else if whole.head? = some '0' ∧ 1 < whole.length then (.broken .malformedNumber, [])
  else
    match rest with
    | '.' :: tail =>
      let fraction := tail.takeWhile Char.isDigit
      let tail := tail.dropWhile Char.isDigit
      if fraction.isEmpty then cutNumber tail else scanExponent negative whole fraction tail
    | _ => scanExponent negative whole [] rest

/-- Scans a number that begins with `c`, a minus sign or a digit. -/
def scanNumber (c : Char) (cs : List Char) : Lexeme Number × List Char :=
  if c = '-' then scanMagnitude true cs else scanMagnitude false (c :: cs)

/-! ### Tokens -/

/-- A token of a JSON text. -/
inductive Token where
  | openBracket
  | closeBracket
  | openBrace
  | closeBrace
  | comma
  | colon
  | null
  | boolean (b : Bool)
  | number (n : Lexeme Number)
  | string (s : Lexeme String)
  /-- A word that begins like a literal and goes on otherwise. -/
  | misspelt (f : Fault)
  /-- A character that begins no token. -/
  | stray

/-- Takes the letters of a literal off a text. -/
def takeLetters : List Char → List Char → Except Fault (List Char)
  | [], cs => .ok cs
  | _ :: _, [] => .error .endInLiteral
  | l :: letters, c :: cs => if c = l then takeLetters letters cs else .error .misspeltLiteral

/-- Scans the rest of a literal. -/
def scanLiteral (t : Token) (letters cs : List Char) : Token × List Char :=
  match takeLetters letters cs with
  | .ok rest => (t, rest)
  | .error f => (.misspelt f, [])

/-- The tokens of one character. -/
def punctuation? (c : Char) : Option Token :=
  if c = '[' then some .openBracket
  else if c = ']' then some .closeBracket
  else if c = '{' then some .openBrace
  else if c = '}' then some .closeBrace
  else if c = ',' then some .comma
  else if c = ':' then some .colon
  else none

/-- The literals: the token and the letters behind the first one. -/
def literal? (c : Char) : Option (Token × List Char) :=
  if c = 'n' then some (.null, ['u', 'l', 'l'])
  else if c = 't' then some (.boolean true, ['r', 'u', 'e'])
  else if c = 'f' then some (.boolean false, ['a', 'l', 's', 'e'])
  else none

/-- Scans one token, which begins with `c`. -/
def scanToken (c : Char) (cs : List Char) : Token × List Char :=
  match punctuation? c with
  | some t => (t, cs)
  | none =>
    if c = '"' then
      let scanned := scanString cs
      (.string scanned.1, scanned.2)
    else if c = '-' ∨ c.isDigit then
      let scanned := scanNumber c cs
      (.number scanned.1, scanned.2)
    else
      match literal? c with
      | some (t, letters) => scanLiteral t letters cs
      | none => (.stray, [])

/-- Whether a character may stand between tokens. -/
def isBlank (c : Char) : Bool := c = ' ' ∨ c = '\n' ∨ c = '\t' ∨ c = '\r'

/-! ### Every token takes a character -/

private theorem length_dropWhile_le (p : Char → Bool) (cs : List Char) :
    (cs.dropWhile p).length ≤ cs.length := by
  induction cs with
  | nil => simp
  | cons c cs ih =>
    rw [List.dropWhile_cons]
    split
    · exact Nat.le_succ_of_le ih
    · exact Nat.le_refl _

/-- What follows a quoted text is no longer than what the text was cut from. It is the same for each
    kind of token, and so `tokens` comes to an end. -/
theorem length_scanPieces_le (cs : List Char) : (scanPieces cs).2.2.length ≤ cs.length := by
  fun_induction scanPieces cs <;> simp only [List.length_cons, List.length_nil] <;> grind

private theorem length_scanExponentSign_le (cs : List Char) :
    (scanExponentSign cs).2.length ≤ cs.length := by
  fun_cases scanExponentSign cs <;> simp

private theorem length_scanExponent_le (negative : Bool) (whole fraction rest : List Char) :
    (scanExponent negative whole fraction rest).2.length ≤ rest.length := by
  cases rest with
  | nil => simp [scanExponent]
  | cons c tail =>
    have h₁ := length_scanExponentSign_le tail
    have h₂ := length_dropWhile_le Char.isDigit (scanExponentSign tail).2
    simp only [scanExponent, cutNumber]
    grind

/-- What follows the digits of a number, its fraction and its exponent. -/
theorem length_scanMagnitude_le (negative : Bool) (cs : List Char) :
    (scanMagnitude negative cs).2.length ≤ cs.length := by
  have h₁ := length_dropWhile_le Char.isDigit cs
  simp only [scanMagnitude]
  split
  · simp [cutNumber]
  · split
    · simp
    · split
      · next tail heq =>
        have h₂ := length_dropWhile_le Char.isDigit tail
        rw [heq] at h₁
        split
        · simp [cutNumber]
        · have h₃ := length_scanExponent_le negative (cs.takeWhile Char.isDigit)
            (tail.takeWhile Char.isDigit) (tail.dropWhile Char.isDigit)
          simp only [List.length_cons] at h₁
          omega
      · have h₂ := length_scanExponent_le negative (cs.takeWhile Char.isDigit) []
          (cs.dropWhile Char.isDigit)
        omega

private theorem length_of_takeLetters {letters cs rest : List Char}
    (h : takeLetters letters cs = .ok rest) : rest.length ≤ cs.length := by
  fun_induction takeLetters letters cs <;> grind

/-- What follows a literal, or what is left where it is misspelt. -/
private theorem length_scanLiteral_le (t : Token) (letters cs : List Char) :
    (scanLiteral t letters cs).2.length ≤ cs.length := by
  rw [scanLiteral]
  split
  · next h => exact length_of_takeLetters h
  · simp

/-- What follows a number that begins with a sign or a digit. -/
private theorem length_scanNumber_le {c : Char} (h : c = '-' ∨ c.isDigit) (cs : List Char) :
    (scanNumber c cs).2.length ≤ cs.length := by
  rw [scanNumber]
  split
  · exact length_scanMagnitude_le true cs
  · next hc =>
    have hd : c.isDigit := h.resolve_left hc
    -- The first character is a digit, so that it is dropped with the others.
    have drop : (c :: cs).dropWhile Char.isDigit = cs.dropWhile Char.isDigit := by simp [hd]
    have h₁ := length_dropWhile_le Char.isDigit cs
    simp only [scanMagnitude, drop]
    split
    · simp [cutNumber]
    · split
      · simp
      · split
        · next tail heq =>
          have h₂ := length_dropWhile_le Char.isDigit tail
          rw [heq] at h₁
          split
          · simp [cutNumber]
          · have h₃ := length_scanExponent_le false ((c :: cs).takeWhile Char.isDigit)
              (tail.takeWhile Char.isDigit) (tail.dropWhile Char.isDigit)
            simp only [List.length_cons] at h₁
            omega
        · have h₂ := length_scanExponent_le false ((c :: cs).takeWhile Char.isDigit) []
            (cs.dropWhile Char.isDigit)
          omega

/-- What follows a token is no longer than the text behind its first character. -/
theorem length_scanToken_le (c : Char) (cs : List Char) :
    (scanToken c cs).2.length ≤ cs.length := by
  rw [scanToken]
  split
  · exact Nat.le_refl _
  · split
    · exact length_scanPieces_le cs
    · split
      · next h => exact length_scanNumber_le h cs
      · split
        · exact length_scanLiteral_le _ _ _
        · exact Nat.zero_le _

/-- The tokens of a text. -/
def tokens : List Char → List Token
  | [] => []
  | c :: cs => if isBlank c then tokens cs else (scanToken c cs).1 :: tokens (scanToken c cs).2
termination_by cs => cs.length
decreasing_by
  · simp
  · exact Nat.lt_succ_of_le (length_scanToken_le c cs)

end ProtoApi.Json
