import ProtoApi.Model.Entities
import ProtoApi.Text.Lowercase

namespace ProtoApi

/-!
# Enum aliases

An enum may have several names for one number. Of these one is canonical.

* `isPreferred` — whether a name is better than another: all upper case beats any lower case, and
  otherwise the shorter one, in bytes, wins;
* `Canonical`, `Canonical.add` — the best name so far of each number, in ascending order of the
  numbers;
* `uniqueNumberValues` — the positions of the canonical values.
-/

/-- Whether a name has no lower case character. -/
def isUpper (name : String) : Bool := !name.toList.any Text.isLowercase

/-- Whether `candidate` replaces `current` as the canonical name. -/
def isPreferred (candidate current : String) : Bool :=
  match isUpper candidate, isUpper current with
  | true, false => true
  | false, true => false
  | _, _ => candidate.utf8ByteSize < current.utf8ByteSize

/-- The best name so far of a number, and its position. -/
structure Canonical where
  number : Int32
  name : String
  position : Nat
deriving DecidableEq

/-- Adds one more name to the best names. -/
def Canonical.add (best : List Canonical) (c : Canonical) : List Canonical :=
  match best with
  | [] => [c]
  | b :: rest =>
    if c.number < b.number then c :: b :: rest
    else if c.number = b.number then (if isPreferred c.name b.name then c else b) :: rest
    else b :: add rest c

/-- The best name of each number. -/
def canonicalNames (values : List EnumValue) : List Canonical :=
  (values.zipIdx.map fun (v, position) => Canonical.mk v.number v.name position).foldl
    Canonical.add []

/-- The positions of one value for each number, in ascending order of the numbers. -/
def uniqueNumberValues (values : List EnumValue) : List Nat :=
  (canonicalNames values).map (·.position)

/-- A name is not better than itself. -/
theorem isPreferred_irrefl (name : String) : isPreferred name name = false := by
  unfold isPreferred
  cases isUpper name <;> simp

end ProtoApi
