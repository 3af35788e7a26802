import ProtoApi.Build.Context
import ProtoApi.Descriptor.Declarations
import ProtoApi.Model.Id

namespace ProtoApi

/-!
# Attaching comments

A comment is located by a path of field numbers of the descriptor format and positions:
`[4, 0, 2, 1]` is the field at position 1 of the message at position 0.

* `DocTarget`, `Resolved` — what a path may lead to;
* `FileDecl.resolve` — follows a path through the declarations of a file;
* `DocTarget.attach` — writes the documentation of an entity, if it is registered;
* `trimComment` — the documentation that a comment gives: each line without the blank it begins
  with, and without the line break at the end;
* `attachComments` — attaches all comments of a file.
-/

/-- An entity that a comment may belong to. -/
inductive DocTarget where
  | message (id : String)
  | field (owner name : String)
  | oneOf (owner name : String)
  | enum (id : String)
  | enumValue (owner : String) (position : Nat)
  | service (id : String)
  | method (id : String)
deriving DecidableEq

/-- What a path leads to. -/
inductive Resolved where
  | target (t : DocTarget)
  /-- Something that a model has no documentation for. -/
  | ignored
  | unknown
deriving DecidableEq

/-! ### Following paths -/

/-- The element at a position. -/
def elementAt? {α : Type} (xs : List α) (position : Int) : Option α :=
  if position < 0 then none else xs[position.toNat]?

/-- Goes on with the element at a position. -/
def Resolved.at {α : Type} (xs : List α) (position : Int) (next : α → Resolved) : Resolved :=
  match elementAt? xs position with
  | some a => next a
  | none => .unknown

/-- Follows a path from an enum. -/
def EnumDecl.resolve (e : EnumDecl) (id : String) : List Int → Resolved
  | [] => .target (.enum id)
  | [2, i] => .at e.values i fun _ => .target (.enumValue id i.toNat)
  | _ => .unknown

/-- Follows a path from a message. -/
def MessageDecl.resolve (m : MessageDecl) (id : String) : List Int → Resolved
  | [] => .target (.message id)
  | [2, i] => .at m.fields i fun f => .target (.field id f.name)
  | 2 :: _ :: _ :: _ => .ignored
  | 3 :: i :: rest =>
    match elementAt? m.nested i with
    | some n => n.resolve (childId id n.name) rest
    | none => .unknown
  | 4 :: i :: rest => .at m.enums i fun e => e.resolve (childId id e.name) rest
  | [8, i] => .at m.oneofs i fun o => .target (.oneOf id o.name)
  | 8 :: _ :: _ :: _ => .ignored
  | n :: _ => if n ∈ [5, 6, 7] then .ignored else .unknown

/-- Follows a path from a service. -/
def ServiceDecl.resolve (s : ServiceDecl) (id : String) : List Int → Resolved
  | [] => .target (.service id)
  | [2, i] => .at s.methods i fun m => .target (.method (childId id m.name))
  | 2 :: _ :: _ :: _ => .ignored
  | 3 :: _ => .ignored
  | _ => .unknown

/-- The fields of a file that have no documentation in a model: its name, package and options and
    what else is not a declaration. -/
def undocumentedFileFields : List Int := [1, 2, 3, 7, 8, 9, 10, 11, 12, 14]

/-- Follows a path from a file. -/
def FileDecl.resolve (f : FileDecl) (path : List Int32) : Resolved :=
  match path.map Int32.toInt with
  | 4 :: i :: rest => .at f.messages i fun m => m.resolve (topLevelId f.package m.name) rest
  | 5 :: i :: rest => .at f.enums i fun e => e.resolve (topLevelId f.package e.name) rest
  | 6 :: i :: rest => .at f.services i fun s => s.resolve (topLevelId f.package s.name) rest
  | n :: _ => if n ∈ undocumentedFileFields then .ignored else .unknown
  | [] => .unknown

/-! ### Writing documentation -/

/-- Changes the first element that has a property. -/
def modifyFirst {α : Type} (p : α → Bool) (f : α → α) : List α → List α
  | [] => []
  | a :: rest => if p a then f a :: rest else a :: modifyFirst p f rest

/-- Writes the documentation of an entity. What is not registered is left out. -/
def DocTarget.attach (r : Registry) (documentation : String) : DocTarget → Registry
  | message id => r.modifyMessage id fun m => { m with documentation }
  | field owner name =>
    r.modifyMessage owner fun m =>
      { m with fields := modifyFirst (·.name = name) (fun f => { f with documentation }) m.fields }
  | oneOf owner name =>
    r.modifyMessage owner fun m =>
      { m with oneOfs := modifyFirst (·.name = name) (fun o => { o with documentation }) m.oneOfs }
  | enum id => r.modifyEnum id fun e => { e with documentation }
  | enumValue owner position =>
    r.modifyEnum owner fun e => { e with
      values := e.values.modify position fun v => { v with documentation } }
  | service id => r.modifyService id fun s => { s with documentation }
  | method id => r.modifyMethod id fun m => { m with documentation }

/-! ### Comments -/

/-- Drops the blank at the beginning of each line; `fresh` tells whether a line begins. -/
def dropLineBlanks (fresh : Bool) : List Char → List Char
  | [] => []
  | c :: cs => if fresh && c == ' ' then dropLineBlanks false cs
    else c :: dropLineBlanks (c == '\n') cs

/-- Drops one line break at the end. -/
def dropFinalBreak (cs : List Char) : List Char :=
  if cs.getLast? = some '\n' then cs.dropLast else cs

/-- The documentation that a comment gives. -/
def trimComment (comment : String) : String :=
  String.ofList (dropFinalBreak (dropLineBlanks true comment.toList))

/-- Attaches the comment at a location of a file. -/
def attachComment (file : FileDecl) (ctx : Context) (location : Location) : Context :=
  match location.leadingComments? with
  | none => ctx
  | some comment =>
    if comment = "" then ctx
    else
      match file.resolve location.path with
      | .target t => ctx.mapRegistry fun r => t.attach r (trimComment comment)
      | .ignored => ctx
      | .unknown => ctx.report (.unknownDocumentationPath file.name location.path)

/-- Attaches the comments of a file. -/
def attachComments (ctx : Context) (file : FileDecl) : Context :=
  (file.sourceInfo?.getD []).foldl (attachComment file) ctx

end ProtoApi
