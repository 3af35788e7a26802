import ProtoApi.Json.Value

namespace ProtoApi.Json

/-!
# How numbers are written

* `wholeChars` — a whole number in decimal digits;
* `floatChars` — a binary number in the fewest digits that read back, always with a point or an
  exponent;
* `Number.chars` — either.
-/

/-- The exponent below which a binary number is written with an exponent. -/
def leastPositional : Int := -5

/-- The exponent above which a binary number is written with an exponent. -/
def greatestPositional : Int := 15

/-- A whole number in decimal digits. -/
def wholeChars (n : Int) : List Char :=
  if n < 0 then '-' :: Nat.toDigits 10 n.natAbs else Nat.toDigits 10 n.natAbs

/-- The decimal `0.digits * 10 ^ point`, with a point between its digits or zeros filled in beside
    them. -/
def positionalChars (digits : List Char) (point : Int) : List Char :=
  if digits.length ≤ point then digits ++ List.replicate (point.toNat - digits.length) '0'
    ++ ['.', '0']
  else if 0 < point then digits.take point.toNat ++ '.' :: digits.drop point.toNat
  else ['0', '.'] ++ List.replicate (-point).toNat '0' ++ digits

/-- The decimal `d.igits * 10 ^ exponent`, its exponent with a sign. -/
def scientificChars (digits : List Char) (exponent : Int) : List Char :=
  let mantissa :=
    match digits with
    | [d] => [d]
    | d :: rest => d :: '.' :: rest
    | [] => []
  mantissa ++ 'e' :: (if exponent < 0 then '-' else '+') :: Nat.toDigits 10 exponent.natAbs

/-- A binary number in the fewest digits that read back, without its sign. -/
def magnitudeChars (x : Binary64) : List Char :=
  if x.significand = 0 then ['0', '.', '0']
  else
    let d := x.shortest
    let digits := Nat.toDigits 10 d.digits
    let point : Int := d.scale + digits.length
    if leastPositional ≤ point - 1 ∧ point - 1 ≤ greatestPositional then
      positionalChars digits point
    else scientificChars digits (point - 1)

/-- A binary number in the fewest digits that read back. -/
def floatChars (x : Binary64) : List Char :=
  if x.negative then '-' :: magnitudeChars x else magnitudeChars x

/-- A number as it is written. -/
def Number.chars : Number → List Char
  | integer n => wholeChars n
  | float x => floatChars x

end ProtoApi.Json
