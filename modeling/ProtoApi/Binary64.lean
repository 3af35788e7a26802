namespace ProtoApi

/-!
# Binary floating point numbers of 64 bits

The finite numbers of the format, each as its exact value, so that rounding and comparison are
arithmetic on whole numbers.

* `Binary64` — a sign and `significand * 2 ^ exponent`;
* `roundQuotient` — a quotient rounded to the nearest whole number, a tie to the even one, with
  `roundQuotient_near` for its distance;
* `Binary64.ofQuotient` — the nearest number to a quotient, or none beyond the largest one, from
  which come the product and the quotient of two numbers;
* `Binary64.scale` — a number times a power of ten, worked out with numbers of the format alone;
* `Binary64.shortest` — the fewest decimal digits that read back as the number.
-/

/-- A finite number `± significand * 2 ^ exponent`. The significand stays below `2 ^ 53` and reaches
    `2 ^ 52` unless the exponent is the least one. -/
structure Binary64 where
  negative : Bool
  significand : Nat
  exponent : Int
deriving DecidableEq, Repr

/-- The nearest whole number to `num / den`; of two equally near ones the even one. -/
def roundQuotient (num den : Nat) : Nat :=
  let q := num / den
  let r := num % den
  if 2 * r < den then q
  else if den < 2 * r then q + 1
  else q + q % 2

/-- The rounded quotient is at most half a unit away. -/
theorem roundQuotient_near (num den : Nat) (h : 0 < den) :
    2 * num ≤ (2 * roundQuotient num den + 1) * den ∧
      2 * roundQuotient num den * den ≤ 2 * num + den := by
  have hd := Nat.div_add_mod num den
  have hm := Nat.mod_lt num h
  have e1 : (2 * (num / den) + 1) * den = 2 * (den * (num / den)) + den := by
    rw [Nat.add_mul, Nat.one_mul, Nat.mul_assoc, Nat.mul_comm (num / den)]
  have e2 : (2 * (num / den + 1) + 1) * den = 2 * (den * (num / den)) + 3 * den := by
    rw [Nat.add_mul, Nat.one_mul, Nat.mul_assoc, Nat.add_mul, Nat.mul_comm (num / den)]; omega
  have e3 : 2 * (num / den) * den = 2 * (den * (num / den)) := by
    rw [Nat.mul_assoc, Nat.mul_comm (num / den)]
  have e4 : 2 * (num / den + 1) * den = 2 * (den * (num / den)) + 2 * den := by
    rw [Nat.mul_assoc, Nat.add_mul, Nat.mul_comm (num / den)]; omega
  simp only [roundQuotient]
  split
  · omega
  · split
    · omega
    · have two : num / den % 2 = 0 ∨ num / den % 2 = 1 := Nat.mod_two_eq_zero_or_one _
      rcases two with z | o
      · simp only [z, Nat.add_zero]
        omega
      · simp only [o]
        omega

namespace Binary64

/-- The least significand above the least exponent, `2 ^ 52`. -/
def leastLeading : Nat := 4503599627370496

/-- The least exponent: that of zero and of the numbers close to it. -/
def minExponent : Int := -1074

/-- The largest exponent. -/
def maxExponent : Int := 971

/-- Zero with a sign. -/
def zero (negative : Bool) : Binary64 := ⟨negative, 0, minExponent⟩

/-- The nearest number to `num / den`, or none if that exceeds the largest number. -/
def ofQuotient (negative : Bool) (num den : Nat) : Option Binary64 :=
  let atExponent (e : Int) : Nat × Nat :=
    if 0 ≤ e then (num, den * Nat.pow 2 e.toNat) else (num * Nat.pow 2 (-e).toNat, den)
  -- At this exponent the quotient lies between half the least leading significand and twice it.
  let guess : Int := (Nat.log2 num : Int) - Nat.log2 den - 52
  let (n, d) := atExponent guess
  let e := max minExponent (if n / d < leastLeading then guess - 1 else guess)
  let (n, d) := atExponent e
  let m := roundQuotient n d
  -- Rounding up may reach the next power of two.
  let (m, e) := if m = 2 * leastLeading then (leastLeading, e + 1) else (m, e)
  if maxExponent < e then none else some ⟨negative, m, e⟩

/-- The nearest number to a whole number, or none if that exceeds the largest number. -/
def ofNat (negative : Bool) (n : Nat) : Option Binary64 :=
  if n = 0 then some (zero negative) else ofQuotient negative n 1

/-- The nearest number to `num / den * 2 ^ exponent`. -/
def ofScaledQuotient (negative : Bool) (num den : Nat) (exponent : Int) : Option Binary64 :=
  if num = 0 then some (zero negative)
  else ofQuotient negative (num * Nat.pow 2 exponent.toNat) (den * Nat.pow 2 (-exponent).toNat)

/-- The nearest number to the product of `x` and the magnitude of `y`. -/
def mulMagnitude (x y : Binary64) : Option Binary64 :=
  ofScaledQuotient x.negative (x.significand * y.significand) 1 (x.exponent + y.exponent)

/-- The nearest number to the quotient of `x` and the magnitude of `y`. -/
def divMagnitude (x y : Binary64) : Option Binary64 :=
  ofScaledQuotient x.negative x.significand y.significand (x.exponent - y.exponent)

/-- The largest power of ten that is a finite number. -/
def greatestPower : Nat := 308

/-- Multiplies by a power of ten: one product or quotient with the number nearest to that power,
    each rounded. Where the power is too small for a number, the largest power is divided by
    first. -/
def scale (x : Binary64) (power : Int) : Option Binary64 :=
  if x.significand = 0 then some x
  else if power.natAbs ≤ greatestPower then do
    let factor ← ofNat false (Nat.pow 10 power.natAbs)
    if 0 ≤ power then x.mulMagnitude factor else x.divMagnitude factor
  else if 0 ≤ power then none
  else do
    let step ← ofNat false (Nat.pow 10 greatestPower)
    (← x.divMagnitude step).scale (power + greatestPower)
termination_by power.natAbs
decreasing_by
  rename_i small negative
  have : greatestPower = 308 := rfl
  omega

/-! ### The fewest digits -/

/-- A positive decimal `digits * 10 ^ scale`. -/
structure Decimal where
  digits : Nat
  scale : Int
deriving DecidableEq, Repr

/-- Compares `a * 2 ^ e` with `b * 10 ^ k`. -/
def compareScaled (a : Nat) (e : Int) (b : Nat) (k : Int) : Ordering :=
  compare (a * Nat.pow 2 e.toNat * Nat.pow 10 (-k).toNat)
    (b * Nat.pow 10 k.toNat * Nat.pow 2 (-e).toNat)

/-- Whether a decimal lies in the interval of numbers that round to `x`: from halfway to the number
    below to halfway to the number above, the ends included exactly if the significand is even. -/
def readsBack (x : Binary64) (d : Decimal) : Bool :=
  let below :=
    if x.significand = leastLeading ∧ minExponent < x.exponent then 4 * x.significand - 1
      else 4 * x.significand - 2
  let low := compareScaled below (x.exponent - 2) d.digits d.scale
  let high := compareScaled (4 * x.significand + 2) (x.exponent - 2) d.digits d.scale
  if x.significand % 2 = 0 then low.isLE && high.isGE else low == .lt && high == .gt

/-- The decimal of the grid `10 ^ scale` nearest to `x` among those that read back. -/
def onGrid? (x : Binary64) (scale : Int) : Option Decimal :=
  let num := x.significand * Nat.pow 2 x.exponent.toNat * Nat.pow 10 (-scale).toNat
  let den := Nat.pow 2 (-x.exponent).toNat * Nat.pow 10 scale.toNat
  let nearest := roundQuotient num den
  let floor := num / den
  [nearest, floor, floor + 1].map (⟨·, scale⟩) |>.find? (readsBack x)

/-- The first grid, from coarse to fine, on which some decimal reads back as `x`. -/
def searchGrids (x : Binary64) (scale : Int) : Nat → Option Decimal
  | 0 => none
  | steps + 1 =>
    match onGrid? x scale with
    | some d => some d
    | none => searchGrids x (scale - 1) steps

/-- Moves the zeros at the end of the digits into the scale; `limit` bounds their number. -/
def stripZeros : Nat → Decimal → Decimal
  | 0, d => d
  | limit + 1, d => if d.digits % 10 = 0 then stripZeros limit ⟨d.digits / 10, d.scale + 1⟩ else d

/-- The decimal with the fewest digits that reads back as `x`, the nearest of them. The coarsest
    grid lies above `x`, and seventeen digits always suffice. -/
def shortest (x : Binary64) : Decimal :=
  let bits : Int := Nat.log2 x.significand + x.exponent
  -- 30103 / 100000 is a little more than the logarithm of two to the base ten.
  let top : Int := bits * 30103 / 100000 + 1
  match searchGrids x top 20 with
  | some d => stripZeros 20 d
  | none =>
    ⟨x.significand * Nat.pow 5 (-x.exponent).toNat * Nat.pow 2 x.exponent.toNat, min x.exponent 0⟩

end Binary64

end ProtoApi
