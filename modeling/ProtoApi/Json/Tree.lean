import ProtoApi.Json.Token

namespace ProtoApi.Json

/-!
# The tree of a JSON text

A text that is not JSON still has a tree: it ends at the first fault, with every container that is
open there left open. Whoever walks the tree in the order of the text meets a wrong type before a
fault behind it, and a fault before a wrong type behind it.

* `Found` — what stands at a place, as far as a reader asks for the type of a value;
* `Closing`, `Tree` — how a container ends, and the tree;
* `State`, `State.put`, `State.step`, `State.finish` — the walk over the tokens. The containers that
  are open are kept as frames, innermost first;
* `Document.ofText` — the tree of a text, and whether anything follows its value;
* `Tree.skip` — the fault that somebody meets who passes over a part of the tree;
* `Json.toTree` — the tree of a value, which has no faults.
-/

/-- What stands at a place. -/
inductive Found where
  | null
  | boolean (b : Bool)
  | number (n : Number)
  | string (s : String)
  | sequence
  | map
deriving Repr

/-- How a container ends. -/
inductive Closing where
  | closed
  | fault (f : Fault)

/-- The fault of an ending. -/
def Closing.fault? : Closing → Option Fault
  | closed => none
  | fault f => some f

/-- A value of the text, or the place where the text breaks. -/
inductive Tree where
  | null
  | boolean (b : Bool)
  | number (n : Lexeme Number)
  | string (s : Lexeme String)
  | array (items : List Tree) (closing : Closing)
  | object (members : List (Lexeme String × Tree)) (closing : Closing)
  | fault (f : Fault)

instance : Inhabited Tree := ⟨.null⟩

/-- A key and its value. -/
abbrev TreeMember := Lexeme String × Tree

/-- A container that waits for the end of a value inside it; what came before is kept last first. -/
inductive Frame where
  | array (before : List Tree)
  | member (before : List TreeMember) (key : Lexeme String)

/-- The tree of a text, and whether more than blanks follows its value. -/
structure Document where
  root : Tree
  trailing : Bool

/-- What has been read, and what may come next. -/
inductive State where
  /-- A value must come. -/
  | value (outer : List Frame)
  /-- An item must come, or, in front of the first one, the closing bracket. -/
  | itemOrEnd (outer : List Frame) (before : List Tree) (first : Bool)
  /-- A comma or the closing bracket must come. -/
  | afterItem (outer : List Frame) (before : List Tree)
  /-- A key must come, or, in front of the first one, the closing brace. -/
  | keyOrEnd (outer : List Frame) (before : List TreeMember) (first : Bool)
  | colon (outer : List Frame) (before : List TreeMember) (key : Lexeme String)
  /-- A comma or the closing brace must come. -/
  | afterMember (outer : List Frame) (before : List TreeMember)
  /-- The value of the document is complete. -/
  | complete (root : Tree)
  /-- Nothing that comes matters. -/
  | stopped (document : Document)

/-! ### The walk over the tokens -/

/-- Closes the open containers around a broken part. -/
def enclose (f : Fault) : List Frame → Tree → Tree
  | [], t => t
  | .array before :: outer, t => enclose f outer (.array (t :: before).reverse (.fault f))
  | .member before key :: outer,
    t => enclose f outer (.object ((key, t) :: before).reverse (.fault f))

namespace State

/-- Stops at a broken part. -/
def stop (f : Fault) (outer : List Frame) (t : Tree) : State := .stopped ⟨enclose f outer t, false⟩

/-- Hands a complete value to the container around it. -/
def put (t : Tree) : List Frame → State
  | [] => .complete t
  | .array before :: outer => .afterItem outer (t :: before)
  | .member before key :: outer => .afterMember outer ((key, t) :: before)

/-- Begins a value with a token. -/
def begin (outer : List Frame) : Token → State
  | .openBracket => .itemOrEnd outer [] true
  | .openBrace => .keyOrEnd outer [] true
  | .null => put .null outer
  | .boolean b => put (.boolean b) outer
  | .number n =>
    match n.fault? with
    | some f => stop f outer (.number n)
    | none => put (.number n) outer
  | .string s =>
    match s.fault? with
    | some f => stop f outer (.string s)
    | none => put (.string s) outer
  | .misspelt f => stop f outer (.fault f)
  | _ => stop .expectedValue outer (.fault .expectedValue)

/-- Reads one token. -/
def step : State → Token → State
  | .value outer, t => begin outer t
  | .itemOrEnd outer before first, t =>
    match t with
    | .closeBracket =>
      if first then put (.array [] .closed) outer
      else stop .commaBeforeBracket outer (.array before.reverse (.fault .commaBeforeBracket))
    | t => begin (.array before :: outer) t
  | .afterItem outer before, t =>
    match t with
    | .comma => .itemOrEnd outer before false
    | .closeBracket => put (.array before.reverse .closed) outer
    | _ =>
      stop .expectedCommaOrBracket outer (.array before.reverse (.fault .expectedCommaOrBracket))
  | .keyOrEnd outer before first, t =>
    match t with
    | .string s =>
      match s.fault? with
      | some f => stop f outer (.object ((s, .fault f) :: before).reverse (.fault f))
      | none => .colon outer before s
    | .closeBrace =>
      if first then put (.object [] .closed) outer
      else stop .commaBeforeBrace outer (.object before.reverse (.fault .commaBeforeBrace))
    | _ => stop .keyNotString outer (.object before.reverse (.fault .keyNotString))
  | .colon outer before key, t =>
    match t with
    | .colon => .value (.member before key :: outer)
    | _ => stop .expectedColon (.member before key :: outer) (.fault .expectedColon)
  | .afterMember outer before, t =>
    match t with
    | .comma => .keyOrEnd outer before false
    | .closeBrace => put (.object before.reverse .closed) outer
    | _ => stop .expectedCommaOrBrace outer (.object before.reverse (.fault .expectedCommaOrBrace))
  | .complete root, _ => .stopped ⟨root, true⟩
  | .stopped document, _ => .stopped document

/-- What is left where the tokens end. -/
def finish : State → Document
  | .value outer => ⟨enclose .endInValue outer (.fault .endInValue), false⟩
  | .itemOrEnd outer before first =>
    let f : Fault := if first then .endInList else .endAfterItemComma
    ⟨enclose f outer (.array before.reverse (.fault f)), false⟩
  | .afterItem outer before =>
    ⟨enclose .endInList outer (.array before.reverse (.fault .endInList)), false⟩
  | .keyOrEnd outer before first =>
    let f : Fault := if first then .endInObject else .endAfterMemberComma
    ⟨enclose f outer (.object before.reverse (.fault f)), false⟩
  | .colon outer before key =>
    ⟨enclose .endInObject (.member before key :: outer) (.fault .endInObject), false⟩
  | .afterMember outer before =>
    ⟨enclose .endInObject outer (.object before.reverse (.fault .endInObject)), false⟩
  | .complete root => ⟨root, false⟩
  | .stopped document => document

end State

/-- The document of some tokens. -/
def Document.ofTokens (ts : List Token) : Document := (ts.foldl State.step (.value [])).finish

/-- The document of a text. -/
def Document.ofText (text : String) : Document := .ofTokens (tokens text.toList)

/-! ### Passing over a part -/

mutual

/-- The fault met in passing over a part of the tree. -/
def Tree.skip : Tree → Option Fault
  | .number n => n.fault?
  | .string s => s.fault?
  | .array items closing => (skipItems items).or closing.fault?
  | .object members closing => (skipMembers members).or closing.fault?
  | .fault f => some f
  | _ => none

/-- The fault met in passing over items. -/
def skipItems : List Tree → Option Fault
  | [] => none
  | t :: rest => t.skip.or (skipItems rest)

/-- The fault met in passing over members. -/
def skipMembers : List (Lexeme String × Tree) → Option Fault
  | [] => none
  | (key, t) :: rest => (key.fault?.or t.skip).or (skipMembers rest)

end

/-! ### Values as trees -/

mutual

/-- The tree of a value. -/
def toTree : Json → Tree
  | .null => .null
  | .boolean b => .boolean b
  | .number n => .number (.of n)
  | .string s => .string (.of s)
  | .array items => .array (itemTrees items) .closed
  | .object members => .object (memberTrees members) .closed

/-- The trees of items. -/
def itemTrees : List Json → List Tree
  | [] => []
  | v :: rest => v.toTree :: itemTrees rest

/-- The trees of members. -/
def memberTrees : List (String × Json) → List TreeMember
  | [] => []
  | (key, v) :: rest => (.of key, v.toTree) :: memberTrees rest

end

end ProtoApi.Json
