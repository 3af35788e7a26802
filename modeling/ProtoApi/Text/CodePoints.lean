namespace ProtoApi.Text

/-!
# Sets of code points

* `Run` — the code points `first`, `first + step`, … up to `last`;
* `Run.contains` — membership, decided by arithmetic, so that a table of runs stays short.
-/

/-- The code points from `first` to `last` at distance `step`. -/
structure Run where
  first : Nat
  last : Nat
  step : Nat := 1

/-- Whether a code point belongs to the run. -/
def Run.contains (r : Run) (code : Nat) : Bool :=
  r.first ≤ code && code ≤ r.last && (code - r.first) % r.step == 0

theorem Run.contains_iff {r : Run} {code : Nat} :
    r.contains code = true ↔ r.first ≤ code ∧ code ≤ r.last ∧ (code - r.first) % r.step = 0 := by
  simp [Run.contains, and_assoc]

end ProtoApi.Text
