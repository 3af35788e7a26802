import ProtoApi.Table
import ProtoApi.Binary64

namespace ProtoApi

/-!
# JSON values

* `Json.Number` — a number, kept whole where it fits 64 bits and else as a binary number;
* `Json` — a value; whoever reads an object from a text lists its members in ascending order of
  their keys;
* `Json.member?`, `Json.string?`, `Json.boolean?` — look-ups for values of unknown shape;
* `Json.height` — how deep arrays and objects are nested.
-/

/-- A number of a JSON text. -/
inductive Json.Number where
  | integer (n : Int)
  | float (x : Binary64)
deriving DecidableEq, Repr

/-- A JSON value. -/
inductive Json where
  | null
  | boolean (b : Bool)
  | number (n : Json.Number)
  | string (s : String)
  | array (items : List Json)
  | object (members : List (String × Json))
deriving Repr

namespace Json

instance : Inhabited Json := ⟨.null⟩

/-- The whole number `n`. -/
def ofInt (n : Int) : Json := .number (.integer n)

/-- The object of a table, its members in the order of the table. -/
def ofTable (t : Table Json) : Json := .object t.entries

/-- What stands under `key`, if the value is an object that has it. -/
def member? : Json → String → Option Json
  | .object members, key => members.lookup key
  | _, _ => none

/-- The text, if the value is one. -/
def string? : Json → Option String
  | .string s => some s
  | _ => none

/-- The truth value, if the value is one. -/
def boolean? : Json → Option Bool
  | .boolean b => some b
  | _ => none

/-! ### Nesting -/

mutual

/-- How many arrays and objects stand inside each other at most. -/
def height : Json → Nat
  | .array items => itemsHeight items + 1
  | .object members => membersHeight members + 1
  | _ => 0

/-- The greatest height of some items. -/
def itemsHeight : List Json → Nat
  | [] => 0
  | v :: rest => max (height v) (itemsHeight rest)

/-- The greatest height of some members. -/
def membersHeight : List (String × Json) → Nat
  | [] => 0
  | (_, v) :: rest => max (height v) (membersHeight rest)

end

end Json

end ProtoApi
