import ProtoApi.Http.PathTemplate

namespace ProtoApi.PathTemplate

/-!
# Written path templates

Path templates from the side of the writer: what a template is made of and how it is written down.

* `Piece` — a literal, or a variable that names a field and possibly a pattern;
* `isPlain`, `isFieldPath`, `isPattern`, `Piece.isWellFormed` — what may stand in each part;
* `Piece.render`, `render` — the text of a piece, and of a template with its custom verb;
* `Piece.segment`, `segmentsOf` — the segments that the pieces and the verb mean.
-/

/-- A piece of a template as it is written. -/
inductive Piece where
  | literal (text : String)
  | bound (field : String) (pattern? : Option String)
deriving DecidableEq, Repr

/-! ### What may be written -/

/-- Whether a text may be a literal or a custom verb: it is not empty and none of its characters
    parts a template. -/
def isPlain (text : String) : Bool :=
  text ≠ "" && text.toList.all fun c => !(['/', ':', '{', '}'].contains c)

/-- Whether a text may name the field of a variable. -/
def isFieldPath (text : String) : Bool :=
  text ≠ "" && text.toList.all fun c => !(['{', '}', '='].contains c)

/-- Whether a text may be the pattern of a variable. Slashes and colons belong to it. -/
def isPattern (text : String) : Bool := text.toList.all fun c => !(['{', '}'].contains c)

theorem isPlain_iff {text : String} :
    isPlain text = true ↔ text ≠ "" ∧ ∀ c ∈ text.toList, c ≠ '/' ∧ c ≠ ':' ∧ c ≠ '{' ∧ c ≠ '}' := by
  simp [isPlain]

theorem isFieldPath_iff {text : String} :
    isFieldPath text = true ↔ text ≠ "" ∧ ∀ c ∈ text.toList, c ≠ '{' ∧ c ≠ '}' ∧ c ≠ '=' := by
  simp [isFieldPath]

theorem isPattern_iff {text : String} :
    isPattern text = true ↔ ∀ c ∈ text.toList, c ≠ '{' ∧ c ≠ '}' := by
  simp [isPattern]

namespace Piece

/-- Whether a piece can be written down so that it is read as itself. -/
def isWellFormed : Piece → Bool
  | literal text => isPlain text
  | bound field none => isFieldPath field
  | bound field (some pattern) => isFieldPath field && isPattern pattern

/-! ### Writing and meaning -/

/-- The text of a piece. -/
def render : Piece → String
  | literal text => text
  | bound field none => "\x7b" ++ field ++ "\x7d"
  | bound field (some pattern) => "\x7b" ++ field ++ "=" ++ pattern ++ "\x7d"

/-- The segment that a piece means. The pattern of a variable is not part of it. -/
def segment : Piece → PathSegment
  | literal text => .literal text
  | bound field _ => .fieldPath field

end Piece

/-- The text of a template, with or without a slash in front. -/
def render (slash : Bool) (pieces : List Piece) (verb? : Option String) : String :=
  (if slash then "/" else "") ++ "/".intercalate (pieces.map Piece.render)
    ++ (verb?.map (":" ++ ·)).getD ""

/-- The segments that a template means. -/
def segmentsOf (pieces : List Piece) (verb? : Option String) : List PathSegment :=
  pieces.map Piece.segment ++ (verb?.map .verb).toList

/-! ### Unit test: a template with a pattern and a verb -/

/-- The pieces of `/v1/{name=projects/*}`. -/
def sample : List Piece := [.literal "v1", .bound "name" (some "projects/*")]

example : sample.all Piece.isWellFormed = true := by decide +kernel

example : (segments (render true sample (some "cancel"))).toOption
  = some (segmentsOf sample (some "cancel")) := by
  decide +kernel

example : (segments (render false sample none)).toOption = some (segmentsOf sample none) := by
  decide +kernel

end ProtoApi.PathTemplate
