namespace ProtoApi

/-!
# Ids

The id of an entity is its fully qualified name with a leading dot.

* `topLevelId` — the id of what a package declares, `childId` — of what a message or a service
  declares;
* `selectorOf` — the name by which a service configuration selects a method: its id without the
  leading dot;
* `packageOf?` — what stands in front of the last dot of a name, `lastComponent` — what stands
  behind it.
-/

/-- The id of a declaration in a package; the empty package is left out. -/
def topLevelId (package name : String) : String :=
  if package = "" then "." ++ name else "." ++ package ++ "." ++ name

/-- The id of a declaration inside another one. -/
def childId (parent name : String) : String := parent ++ "." ++ name

/-- The id of a declaration that may stand inside another one. -/
def declaredId (package : String) (parent? : Option String) (name : String) : String :=
  match parent? with
  | some parent => childId parent name
  | none => topLevelId package name

/-- A name without its leading dot. -/
def selectorOf (id : String) : String :=
  match id.toList with
  | '.' :: rest => String.ofList rest
  | _ => id

/-- Splits a name at its last dot. -/
def splitAtLastDot? (name : String) : Option (String × String) :=
  let reversed := name.toList.reverse
  match reversed.dropWhile (· ≠ '.') with
  | [] => none
  | _ :: before =>
    some (String.ofList before.reverse, String.ofList (reversed.takeWhile (· ≠ '.')).reverse)

/-- What stands in front of the last dot of a name. -/
def packageOf? (name : String) : Option String := (splitAtLastDot? name).map (·.1)

/-- What stands behind the last dot of a name, or the whole name. -/
def lastComponent (name : String) : String := ((splitAtLastDot? name).map (·.2)).getD name

/-- A top level id loses nothing but its dot as a selector. -/
theorem selectorOf_dot (name : String) : selectorOf ("." ++ name) = name := by
  simp [selectorOf, String.toList_append]

end ProtoApi
