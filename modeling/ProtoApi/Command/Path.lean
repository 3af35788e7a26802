namespace ProtoApi.Path

/-!
# Paths

A path is a text in which slashes stand between names.

* `pieces` — what stands between the slashes; joined by slashes it is the text again;
* `parent` — the path of the directory that a path lies in, empty if the path names none;
* `join` — the path of what is in a directory;
* `direct` — the path without the pieces that lead nowhere;
* `isProtoFile` — whether a name is that of a protobuf source file.
-/

/-- The pieces of a text between its slashes. -/
def piecesOf : List Char → List (List Char)
  | [] => [[]]
  | c :: rest =>
    if c = '/' then [] :: piecesOf rest
    else
      match piecesOf rest with
      | [] => [[c]]
      | piece :: more => (c :: piece) :: more

theorem piecesOf_ne_nil (cs : List Char) : piecesOf cs ≠ [] := by
  cases cs with
  | nil => simp [piecesOf]
  | cons c rest => simp only [piecesOf]; split <;> (try split) <;> simp

/-- Nothing is lost. -/
theorem intercalate_piecesOf (cs : List Char) : ['/'].intercalate (piecesOf cs) = cs := by
  induction cs with
  | nil => rfl
  | cons c rest ih =>
    simp only [piecesOf]
    split
    · next h =>
      cases hp : piecesOf rest with
      | nil => exact absurd hp (piecesOf_ne_nil rest)
      | cons piece more => rw [hp] at ih; simp [List.intercalate, List.intersperse, h, ← ih]
    · cases hp : piecesOf rest with
      | nil => exact absurd hp (piecesOf_ne_nil rest)
      | cons piece more =>
        rw [hp] at ih
        cases more <;> simp_all [List.intercalate, List.intersperse]

/-- No piece holds a slash. -/
theorem slash_not_mem_of_mem_piecesOf {cs piece : List Char} (h : piece ∈ piecesOf cs) :
    '/' ∉ piece := by
  induction cs generalizing piece with
  | nil => simp_all [piecesOf]
  | cons c rest ih =>
    simp only [piecesOf] at h
    split at h
    · rcases List.mem_cons.1 h with rfl | h
      · simp
      · exact ih h
    · cases hp : piecesOf rest with
      | nil => exact absurd hp (piecesOf_ne_nil rest)
      | cons first more =>
        simp only [hp, List.mem_cons] at h
        rcases h with rfl | h
        · have := @ih first (by simp [hp])
          grind
        · exact ih (by simp [hp, h])

/-- The pieces of a path between its slashes. -/
def pieces (path : String) : List String := (piecesOf path.toList).map String.ofList

/-- The path made of some pieces. -/
def ofPieces (pieces : List String) : String := "/".intercalate pieces

/-- Whether a piece leads from a directory to that directory. -/
def stays (piece : String) : Bool := piece = "" || piece = "."

/-- Takes away the pieces at the end that lead nowhere. The first piece is kept, for without it a
    path means another place. -/
def trim : List String → List String
  | [] => []
  | first :: rest => first :: (rest.reverse.dropWhile stays).reverse

/-- The path of the directory that a path lies in. -/
def parent (path : String) : String := ofPieces (trim (trim (pieces path)).dropLast)

/-- The path of what is in a directory. A slash is put between only where there is none. -/
def join (directory below : String) : String :=
  match directory.toList.getLast? with
  | none | some '/' => directory ++ below
  | some _ => directory ++ "/" ++ below

/-- The shortest path that leads the same way. -/
def direct (path : String) : String :=
  match pieces path with
  | [] => path
  | first :: rest => ofPieces (first :: rest.filter (!stays ·))

/-- Whether a name ends in `.proto` with something in front of it. -/
def isProtoFile (name : String) : Bool :=
  ".proto".toList.isSuffixOf name.toList && name.length > ".proto".length

example : parent "out/model.json" = "out" := by decide +kernel
example : parent "model.json" = "" := by decide +kernel
example : parent "./a//b/./c/" = "./a//b" := by decide +kernel
example : join "p" "q" = "p/q" ∧ join "p//" "q" = "p//q" ∧ join "" "q" = "q" := by decide +kernel
example : direct "/p//./q/../r/" = "/p/q/../r" := by decide +kernel
example : isProtoFile "a.proto" = true ∧ isProtoFile ".proto" = false ∧
  isProtoFile "B.PROTO" = false := by
  decide +kernel

end ProtoApi.Path
