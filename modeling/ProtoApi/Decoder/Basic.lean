import ProtoApi.Decoder.Error

namespace ProtoApi

open Json (Fault Found Lexeme Closing Tree TreeMember Document)

/-!
# Decoders

A decoder turns a tree into a value of some type and walks it in the order of the text, so that the
first problem wins, be it a fault or a wrong type.

* `Form` — whether the tree is that of a text or that of a value. They differ in the wording for
  lists that are too long and in what they accept as the name of a variant;
* `Decoder` — takes the number of containers that may still be opened, since texts may nest 127 of
  them;
* `string`, `boolean`, `int32`, `index`, `optional`, `list`, `table`, `any`, `variant`, `tagged` —
  the decoders that the formats of this library are put together from. Records have a module of
  their own;
* `Decoder.ofText`, `Decoder.ofValue` — decode a whole document.
-/

/-- Whether a tree belongs to a text or to a value. -/
inductive Form where
  | text
  | value
deriving DecidableEq

/-- Reads a tree; `room` is the number of containers that may still be opened inside each other. -/
abbrev Decoder (α : Type) := (form : Form) → (room : Nat) → Tree → Except DecodeError α

namespace Decoder

/-- What a lexeme reads as. -/
def read {α : Type} (l : Lexeme α) : Except DecodeError α := l.reading.mapError .malformed

/-- What stands at a place, unless it is broken. -/
def found : Tree → Except DecodeError Found
  | .null => .ok .null
  | .boolean b => .ok (.boolean b)
  | .number n => (read n).map .number
  | .string s => (read s).map .string
  | .array _ _ => .ok .sequence
  | .object _ _ => .ok .map
  | .fault f => .error (.malformed f)

/-- The error for a tree that is not what was expected. -/
def mismatch {α : Type} (t : Tree) (expected : String) : Except DecodeError α :=
  match found t with
  | .ok found => .error (.invalidType found expected)
  | .error e => .error e

/-- Refuses a container that is not closed. -/
def checkClosed (c : Closing) : Except DecodeError Unit :=
  match c.fault? with
  | some f => .error (.malformed f)
  | none => .ok ()

/-- Passes over a part of the tree. -/
def passOver (t : Tree) : Except DecodeError Unit :=
  match t.skip with
  | some f => .error (.malformedPart f)
  | none => .ok ()

/-! ### Scalars -/

/-- A text. -/
def string : Decoder String
  | _, _, .string s => read s
  | _, _, t => mismatch t "a string"

/-- A truth value. -/
def boolean : Decoder Bool
  | _, _, .boolean b => .ok b
  | _, _, t => mismatch t "a boolean"

/-- A whole number between bounds. -/
def integerBetween (least greatest : Int) (expected : String) : Decoder Int
  | _, _, .number n => do
    match ← read n with
    | .integer n =>
      if least ≤ n ∧ n ≤ greatest then .ok n
        else .error (.invalidValue (.number (.integer n)) expected)
    | .float x => .error (.invalidType (.number (.float x)) expected)
  | _, _, t => mismatch t expected

/-- A whole number of 32 bits with a sign. -/
def int32 : Decoder Int32
  | form, room, t =>
    (integerBetween Int32.minValue.toInt Int32.maxValue.toInt "i32" form room t).map Int32.ofInt

/-- A position in a list: a whole number of 64 bits without a sign. -/
def index : Decoder Nat
  | form, room, t => (integerBetween 0 (UInt64.size - 1) "usize" form room t).map Int.toNat

/-- Null stands for nothing. -/
def optional {α : Type} (d : Decoder α) : Decoder (Option α)
  | _, _, .null => .ok none
  | form, room, t => (d form room t).map some

/-! ### Containers -/

/-- Opens a container, if that is still allowed. -/
def enter {α : Type} (room : Nat) (inside : (room : Nat) → Except DecodeError α) :
    Except DecodeError α :=
  match room with
  | 0 => .error (.malformed .tooDeep)
  | room + 1 => inside room

/-- A list of whatever `d` reads. -/
def list {α : Type} (d : Decoder α) : Decoder (List α)
  | form, room, .array items closing =>
    enter room fun room => do
      let xs ← items.mapM (d form room)
      checkClosed closing
      return xs
  | _, _, t => mismatch t "a sequence"

/-- An object with any keys; the last value under a key stays. -/
def table {α : Type} (d : Decoder α) : Decoder (Table α)
  | form, room, .object members closing =>
    enter room fun room => do
      let entries ← members.mapM fun (key, t) => do return (← read key, ← d form room t)
      checkClosed closing
      return Table.ofList entries
  | _, _, t => mismatch t "a map"

/-- Any value, the members of its objects in ascending order. -/
def anyValue (form : Form) : Nat → Tree → Except DecodeError Json
  | _, .null => .ok .null
  | _, .boolean b => .ok (.boolean b)
  | _, .number n => (read n).map .number
  | _, .string s => (read s).map .string
  | _, .fault f => .error (.malformed f)
  | 0, _ => .error (.malformed .tooDeep)
  | room + 1, .array items closing => do
    let vs ← items.mapM (anyValue form room)
    checkClosed closing
    return .array vs
  | room + 1, .object members closing => do
    let entries ← members.mapM fun (key, t) => do return (← read key, ← anyValue form room t)
    checkClosed closing
    return .ofTable (Table.ofList entries)

/-- Any value. -/
def any : Decoder Json := anyValue

/-! ### Variants -/

/-- What a name of a variant stands for. -/
def variantNamed {α : Type} (variants : List (String × α)) (name : String) : Except DecodeError α :=
  match variants.lookup name with
  | some a => .ok a
  | none => .error (.unknownVariant name (variants.map (·.1)))

/-- The content of a variant that has none. -/
def noContent (t : Tree) : Except DecodeError Unit :=
  match t with
  | .null => .ok ()
  | t => mismatch t "unit"

/-- A variant of a text: its name, or an object that has the name as its only key and null under it.
    Of anything else no more than the beginning is looked at. -/
def variantOfText {α : Type} (variants : List (String × α)) (room : Nat) :
    Tree → Except DecodeError α
  | .string s => do variantNamed variants (← read s)
  | .object [] closing => enter room fun _ =>
    .error (.malformed (closing.fault?.getD .expectedValue))
  | .object ((key, t) :: rest) closing =>
    enter room fun _ => do
      let a ← variantNamed variants (← read key)
      noContent t
      match rest, closing with
      | [], .closed => .ok a
      | [], .fault .endInObject => .error (.malformed .endInObject)
      | _, _ => .error (.malformed .expectedValue)
  | .fault .misspeltLiteral => .error (.malformed .expectedValue)
  | .fault .endInLiteral => .error (.malformed .expectedValue)
  | .fault f => .error (.malformed f)
  | _ => .error (.malformed .expectedValue)

/-- A variant of a value. -/
def variantOfValue {α : Type} (variants : List (String × α)) : Tree → Except DecodeError α
  | .string s => do variantNamed variants (← read s)
  | .object [(key, t)] _ => do
    let a ← variantNamed variants (← read key)
    noContent t
    return a
  | .object _ _ => .error (.invalidValue .map "map with a single key")
  | t => mismatch t "string or map"

/-- One of some named variants. -/
def variant {α : Type} (variants : List (String × α)) : Decoder α
  | .text, room, t => variantOfText variants room t
  | .value, _, t => variantOfValue variants t

/-- The bare name of a variant. -/
def variantName {α : Type} (variants : List (String × α)) : Tree → Except DecodeError α
  | .string s => do variantNamed variants (← read s)
  | t => mismatch t "variant identifier"

/-! ### Lists that stand for something of fixed length -/

/-- What becomes of items behind the last one that is asked for. -/
def refuseSurplus (form : Form) (length : Nat) (surplus : List Tree) (closing : Closing) :
    Except DecodeError Unit :=
  match form, surplus, closing with
  | _, [], .closed => .ok ()
  | .value, _, _ => .error (.invalidLength length "fewer elements in array")
  | .text, [], .fault .endInList => .error (.malformed .endInList)
  | .text, [], .fault .commaBeforeBracket => .error (.malformed .commaBeforeBracket)
  | .text, _, _ => .error (.malformed .trailingCharacters)

/-! ### A tag and a content -/

/-- What has been read of a tag and its content. A content in front of the tag is kept as it is. -/
structure Tagged (α : Type) where
  tag : Option (Decoder α) := none
  kept : Option Json := none
  result : Option α := none

/-- Reads a kept value with a decoder. -/
def decodeKept {α : Type} (d : Decoder α) (v : Json) : Except DecodeError α :=
  d .value v.height v.toTree

/-- Reads one member of an object with a tag and a content. -/
def Tagged.member {α : Type} (tag content : String) (variants : List (String × Decoder α))
    (form : Form) (room : Nat) (seen : Tagged α) (key : String) (t : Tree) :
    Except DecodeError (Tagged α) :=
  if key = tag then
    if seen.tag.isSome then .error (.duplicateField tag)
    else do
      let d ← variant variants form room t
      match seen.kept with
      | some v => return { seen with tag := some d, result := some (← decodeKept d v) }
      | none => return { seen with tag := some d }
  else if key = content then
    if seen.result.isSome || seen.kept.isSome then .error (.duplicateField content)
    else
      match seen.tag with
      | some d => do return { seen with result := some (← d form room t) }
      | none => do return { seen with kept := some (← any form room t) }
  else do
    passOver t
    return seen

/-- The result, if both tag and content have come. -/
def Tagged.finish {α : Type} (tag content : String) (seen : Tagged α) : Except DecodeError α :=
  match seen.result, seen.tag with
  | some a, _ => .ok a
  | none, some _ => .error (.missingField content)
  | none, none => .error (.missingField tag)

/-- Reads the members of an object with a tag and a content. -/
def Tagged.members {α : Type} (tag content : String) (variants : List (String × Decoder α))
    (form : Form) (room : Nat) :
    Tagged α → List TreeMember → Except DecodeError (Tagged α)
  | seen, [] => .ok seen
  | seen, (key, t) :: rest => do
    let seen ← seen.member tag content variants form room (← read key) t
    members tag content variants form room seen rest

/-- One of some variants, its name under one key and its content under another, or both in a
    list. -/
def tagged {α : Type} (type tag content : String) (variants : List (String × Decoder α)) : Decoder α
  | form, room, .object members closing =>
    enter room fun room => do
      let seen ← Tagged.members tag content variants form room {} members
      checkClosed closing
      seen.finish tag content
  | form, room, .array items closing =>
    enter room fun room =>
      match items with
      | [] => do
        checkClosed closing
        .error (.invalidLength 0 ("adjacently tagged enum " ++ type))
      | t :: rest => do
        let d ← variantName variants t
        match rest with
        | [] =>
          checkClosed closing
          .error (.invalidLength 1 ("adjacently tagged enum " ++ type))
        | t :: surplus =>
          let a ← d form room t
          refuseSurplus form items.length surplus closing
          return a
  | _, _, t => mismatch t ("adjacently tagged enum " ++ type)

/-! ### Whole documents -/

/-- How many containers of a text may stand inside each other. -/
def nestingLimit : Nat := 127

/-- Decodes a text, behind which only blanks may follow. -/
def ofText {α : Type} (d : Decoder α) (text : String) : Except DecodeError α := do
  let document := Document.ofText text
  let a ← d .text nestingLimit document.root
  if document.trailing then .error (.malformed .trailingCharacters) else return a

/-- Decodes a value. -/
def ofValue {α : Type} (d : Decoder α) (v : Json) : Except DecodeError α :=
  d .value v.height v.toTree

end ProtoApi.Decoder
