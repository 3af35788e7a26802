import ProtoApi.Decoder.Basic

namespace ProtoApi

open Json (Tree TreeMember Closing)

/-!
# Records

A record is written as an object, or as the list of its fields in the order of their declaration.

* `Slot` — one field: its label, possibly a second label, the decoder of its contents, and what
  stands for it when it is absent;
* `Fields` — the fields of a record in the order of their declaration, with what has been read of
  each;
* `Fields.take` — reads one member of an object. Members that belong to no field are passed over;
* `Fields.readItems` — reads the fields from a list;
* `Decoder.record` — the decoder of a record.
-/

/-- A field of a record. -/
structure Slot (α : Type) where
  label : String
  /-- A second label that the field answers to. -/
  second : Option String
  decode : Decoder α
  /-- What stands for the field when it is absent; without it the field is required. -/
  absent : Option α
  /-- Whether the field may be left out at the end of a list. -/
  mayTrail : Bool
  /-- What has been read. -/
  value : Option α := none

namespace Slot

/-- A field that must be there. -/
def required {α : Type} (label : String) (d : Decoder α) : Slot α :=
  { label, second := none, decode := d, absent := none, mayTrail := false }

/-- A field that may be absent or null, except that a list must have a place for it. -/
def possible {α : Type} (label : String) (d : Decoder α) (second : Option String := none) :
    Slot (Option α) :=
  { label, second, decode := Decoder.optional d, absent := some none, mayTrail := false }

/-- A field that has a default. -/
def orElse {α : Type} (label : String) (d : Decoder α) (default : α)
    (second : Option String := none) : Slot α :=
  { label, second, decode := d, absent := some default, mayTrail := true }

/-- Whether the field goes by a label. -/
def answers {α : Type} (s : Slot α) (key : String) : Bool := key = s.label || s.second = some key

/-- Reads the contents of the field, once. -/
def fill {α : Type} (s : Slot α) (form : Form) (room : Nat) (t : Tree) :
    Except DecodeError (Slot α) :=
  if s.value.isSome then .error (.duplicateField s.label)
  else do return { s with value := some (← s.decode form room t) }

/-- What the field holds in the end. -/
def result {α : Type} (s : Slot α) : Except DecodeError α :=
  match s.value.or s.absent with
  | some a => .ok a
  | none => .error (.missingField s.label)

end Slot

/-- The fields of a record whose contents are, one after the other, those of the product `ρ`. -/
inductive Fields : Type → Type 1 where
  | none : Fields Unit
  | field {α ρ : Type} (slot : Slot α) (rest : Fields ρ) : Fields (α × ρ)

namespace Fields

/-- The number of fields. -/
def size {ρ : Type} : Fields ρ → Nat
  | none => 0
  | field _ rest => rest.size + 1

/-- Reads what stands under a key. -/
def take {ρ : Type} (form : Form) (room : Nat) (key : String) (t : Tree) :
    Fields ρ → Except DecodeError (Fields ρ)
  | none =>
    match Decoder.passOver t with
    | .error e => .error e
    | .ok _ => .ok none
  | field slot rest =>
    if slot.answers key then
      match slot.fill form room t with
      | .error e => .error e
      | .ok slot => .ok (field slot rest)
    else
      match rest.take form room key t with
      | .error e => .error e
      | .ok rest => .ok (field slot rest)

/-- Reads the members of an object. -/
def takeAll {ρ : Type} (form : Form) (room : Nat) (fields : Fields ρ) :
    List TreeMember → Except DecodeError (Fields ρ)
  | [] => .ok fields
  | (key, t) :: members =>
    match Decoder.read key with
    | .error e => .error e
    | .ok key =>
      match fields.take form room key t with
      | .error e => .error e
      | .ok fields => takeAll form room fields members

/-- The contents of the fields, once all members have been read. -/
def results {ρ : Type} : Fields ρ → Except DecodeError ρ
  | none => .ok ()
  | field slot rest => do return (← slot.result, ← rest.results)

/-- Reads the fields from a list, and answers also with the items behind them. -/
def readItems {ρ : Type} (form : Form) (room : Nat) (tooShort : Nat → DecodeError)
    (closing : Closing) (position : Nat) : Fields ρ → List Tree → Except DecodeError (ρ × List Tree)
  | none, items => .ok ((), items)
  | field slot rest, t :: items => do
    let a ← slot.decode form room t
    let (r, surplus) ← rest.readItems form room tooShort closing (position + 1) items
    return ((a, r), surplus)
  | field slot rest, [] => do
    Decoder.checkClosed closing
    let a ←
      match slot.mayTrail, slot.absent with
      | true, some a => .ok a
      | _, _ => .error (tooShort position)
    let (r, surplus) ← rest.readItems form room tooShort closing (position + 1) []
    return ((a, r), surplus)

end Fields

namespace Decoder

/-- How a message describes a list that should have held the fields of a record. -/
def lengthExpected (name : String) (size : Nat) : String :=
  "struct " ++ name ++ " with " ++ toString size ++ (if size = 1 then " element" else " elements")

/-- A record by the name that messages give it. -/
def record {α ρ : Type} (name : String) (fields : Fields ρ) (build : ρ → α) : Decoder α
  | form, room, .object members closing =>
    enter room fun room =>
      match fields.takeAll form room members with
      | .error e => .error e
      | .ok fields => do
        checkClosed closing
        return build (← fields.results)
  | form, room, .array items closing =>
    enter room fun room => do
      let tooShort :=
        fun position => DecodeError.invalidLength position (lengthExpected name fields.size)
      let (r, surplus) ← fields.readItems form room tooShort closing 0 items
      refuseSurplus form items.length surplus closing
      return build r
  | _, _, t => mismatch t ("struct " ++ name)

end Decoder

end ProtoApi
