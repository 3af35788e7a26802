import ProtoApi.Model.Entities

namespace ProtoApi.PathTemplate

/-!
# Path templates

A path template is a list of pieces between slashes, possibly begun by a slash, and possibly ended
by a colon and a custom verb: `/v1/{name=projects/*/secrets/*}:addVersion`. A piece is a literal or,
in braces, a variable with the path of a field and, behind an equals sign, a pattern. Slashes and
colons inside braces belong to the pattern.

* `Fault` — what is wrong with a template, worded by `Fault.text`;
* `Cut`, `cut` — a template cut at the slashes and at the colon outside of braces;
* `segment`, `verbSegment` — what a piece and a verb stand for;
* `segments` — the segments of a whole template.
-/

/-- What is wrong with a template. -/
inductive Fault where
  | emptyTemplate
  | nestedVariable
  /-- A closing brace outside of a variable. -/
  | strayBrace
  /-- A variable that is not closed. -/
  | openVariable
  | emptySegment
  | variableWithoutField
  | partialSegment
  | invalidVerb
deriving DecidableEq, Repr

/-- The wording of a fault. -/
def Fault.text : Fault → String
  | emptyTemplate => "empty template"
  | nestedVariable => "nested variable"
  | strayBrace => "unbalanced `\x7d`"
  | openVariable => "unbalanced `\x7b`"
  | emptySegment => "empty segment"
  | variableWithoutField => "variable without a field path"
  | partialSegment => "variable must span a whole segment"
  | invalidVerb => "invalid custom verb"

/-- A template cut into pieces, of which there is always a first one, and what follows the colon. -/
structure Cut where
  first : List Char
  others : List (List Char) := []
  verb : Option (List Char) := none
deriving DecidableEq

/-- Puts a character in front of the first piece. -/
def Cut.push (c : Char) (t : Cut) : Cut := { t with first := c :: t.first }

/-- Puts an empty piece in front. -/
def Cut.break (t : Cut) : Cut := { t with first := [], others := t.first :: t.others }

/-- The pieces in order. -/
def Cut.pieces (t : Cut) : List (List Char) := t.first :: t.others

/-- Cuts a template; `inside` tells whether a variable is open. -/
def cut (inside : Bool) : List Char → Except Fault Cut
  | [] => if inside then .error .openVariable else .ok { first := [] }
  | c :: cs =>
    if c = '{' then
      if inside then .error .nestedVariable else (cut true cs).map (Cut.push c)
    else if c = '}' then
      if inside then (cut false cs).map (Cut.push c) else .error .strayBrace
    else if c = '/' ∧ inside = false then (cut false cs).map Cut.break
    else if c = ':' ∧ inside = false then .ok { first := [], verb := some cs }
    else (cut inside cs).map (Cut.push c)

/-- What stands between the braces of a piece that begins and ends with them. -/
def enclosed? : List Char → Option (List Char)
  | '{' :: rest => if rest.getLast? = some '}' then some rest.dropLast else none
  | _ => none

/-- The segment that a piece stands for. -/
def segment (piece : List Char) : Except Fault PathSegment :=
  if piece.isEmpty then .error .emptySegment
  else
    match enclosed? piece with
    | some inner =>
      let field := inner.takeWhile (· ≠ '=')
      if field.isEmpty then .error .variableWithoutField else .ok (.fieldPath (String.ofList field))
    | none =>
      if '{' ∈ piece ∨ '}' ∈ piece then .error .partialSegment
        else .ok (.literal (String.ofList piece))

/-- The segment of a custom verb. -/
def verbSegment (verb : List Char) : Except Fault PathSegment :=
  if verb.isEmpty ∨ '/' ∈ verb ∨ '{' ∈ verb ∨ '}' ∈ verb ∨ ':' ∈ verb then .error .invalidVerb
  else .ok (.verb (String.ofList verb))

/-- A template without the slash that it may begin with. -/
def withoutSlash : List Char → List Char
  | '/' :: rest => rest
  | cs => cs

/-- The segments of a template. -/
def segments (template : String) : Except Fault (List PathSegment) :=
  let chars := withoutSlash template.toList
  if chars.isEmpty then .error .emptyTemplate
  else do
    let t ← cut false chars
    let path ← t.pieces.mapM segment
    match t.verb with
    | some verb => return path ++ [← verbSegment verb]
    | none => return path

end ProtoApi.PathTemplate
