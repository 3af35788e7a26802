import ProtoApi.Command.Path

namespace ProtoApi

/-!
# File trees

Files in directories below one root, in memory, with the rules and errors of an operating system.
Paths that do not begin with a slash start at the working directory.

* `OsError` — why an access is refused;
* `FileTree`, `FileTree.file?`, `FileTree.isDirectory` — a tree and what is at a place;
* `FileTree.resolve` — the place that a path leads to;
* `FileTree.readText`, `FileTree.filesUnder`, `FileTree.makeDirectories`, `FileTree.writeText` — the
  accesses;
* `FileTree.ofFiles`, `FileTree.workingFiles` — the tree of some files, and the files of a tree, by
  their paths from the working directory.
-/

/-- Why the operating system refuses an access. -/
inductive OsError where
  | noSuchFile
  | fileExists
  | notADirectory
  | isADirectory
  | nameTooLong
  | other (text : String)
deriving DecidableEq, Repr

/-- The wording and the number of an error. -/
def OsError.message : OsError → String
  | noSuchFile => "No such file or directory (os error 2)"
  | fileExists => "File exists (os error 17)"
  | notADirectory => "Not a directory (os error 20)"
  | isADirectory => "Is a directory (os error 21)"
  | nameTooLong => "File name too long (os error 36)"
  | other text => text

/-- A place in a tree: the names on the way from its root. -/
abbrev Place := List String

/-- The directory in which commands run. Its name cannot be spelt in a path, so that no path leads
    into it from outside. -/
def workingDirectory : Place := [""]

/-- Files and the directories that they are in. -/
structure FileTree where
  files : List (Place × String) := []
  /-- The directories other than the root and the working directory. -/
  directories : List Place := []
deriving DecidableEq, Inhabited

/-- A file below a directory. -/
structure FoundFile where
  /-- The name of the file alone. -/
  name : String
  /-- The path from the directory. -/
  path : String
deriving DecidableEq

namespace FileTree

/-! ### What is at a place -/

/-- The text of the file at a place. -/
def file? (t : FileTree) (p : Place) : Option String := t.files.lookup p

/-- Whether a place is a directory. -/
def isDirectory (t : FileTree) (p : Place) : Bool :=
  p.isEmpty || p == workingDirectory || t.directories.contains p

/-- Whether there is anything at a place. -/
def contains (t : FileTree) (p : Place) : Bool := (t.file? p).isSome || t.isDirectory p

/-- Puts a text at a place, instead of the one before. -/
def put (t : FileTree) (p : Place) (text : String) : FileTree :=
  { t with files := (p, text) :: t.files.filter (·.1 ≠ p) }

/-- Makes a place a directory. -/
def addDirectory (t : FileTree) (p : Place) : FileTree :=
  if t.isDirectory p then t else { t with directories := p :: t.directories }

@[simp] theorem file?_put_self (t : FileTree) (p : Place) (text : String) :
    (t.put p text).file? p = some text := by
  simp [put, file?]

/-- Other files stay as they are. -/
theorem file?_put_of_ne (t : FileTree) {p q : Place} (text : String) (h : q ≠ p) :
    (t.put p text).file? q = t.file? q := by
  simp only [put, file?, List.lookup_cons, beq_eq_false_iff_ne.2 h]
  induction t.files with
  | nil => rfl
  | cons entry rest ih =>
    obtain ⟨place, text⟩ := entry
    by_cases hp : place = p
    · simpa [hp, List.lookup_cons, beq_eq_false_iff_ne.2 h] using ih
    · simp only [ne_eq, decide_not] at ih
      simp [hp, List.lookup_cons, ih]

/-! ### Paths in a tree -/

/-- The longest name that a file may have, in bytes. -/
def longestName : Nat := 255

/-- The longest path that is taken, in bytes. -/
def longestPath : Nat := 4095

/-- Refuses a path for its mere length. -/
def checkLength (path : String) : Except OsError Unit :=
  if path.isEmpty then .error .noSuchFile
  else if path.utf8ByteSize > longestPath then .error .nameTooLong
  else .ok ()

/-- Follows one piece of a path. Above the root lies the root. -/
def step (t : FileTree) (here : Place) (piece : String) : Except OsError Place :=
  if !t.isDirectory here then .error .notADirectory
  else if Path.stays piece then .ok here
  else if piece = ".." then .ok here.dropLast
  else if piece.utf8ByteSize > longestName then .error .nameTooLong
  else if t.contains (here ++ [piece]) then .ok (here ++ [piece])
  else .error .noSuchFile

/-- Where the pieces of a path start. -/
def origin (pieces : List String) : Place := if pieces.head? = some "" then [] else workingDirectory

/-- Follows some pieces of a path. -/
def follow (t : FileTree) (pieces : List String) : Except OsError Place :=
  pieces.foldlM t.step (origin pieces)

/-- The place that a path leads to. -/
def resolve (t : FileTree) (path : String) : Except OsError Place := do
  checkLength path
  t.follow (Path.pieces path)

/-! ### Accesses -/

/-- Reads a file. -/
def readText (t : FileTree) (path : String) : Except OsError String := do
  match t.file? (← t.resolve path) with
  | some text => return text
  | none => .error .isADirectory

/-- A file as it is found from a place. -/
def found? (start : Place) (place : Place) : Option FoundFile :=
  if start.isPrefixOf place then
    some { name := place.getLast?.getD "", path := Path.ofPieces (place.drop start.length) }
  else none

/-- The names on the way from a place to each directory below it. What was made last stands
    first. -/
def directoriesUnder (t : FileTree) (start : Place) : List (List String) :=
  (t.directories.filter fun place => start.isPrefixOf place && place ≠ start).map
    (·.drop start.length)

/-- Refuses a directory below a path for the length of its own path. What lies in a refused
    directory is not met. -/
def checkBelow (path : String) (names : List String) : Except (String × OsError) Unit :=
  let place := names.foldl Path.join path
  if (checkLength (names.dropLast.foldl Path.join path)).isOk then
    (checkLength place).mapError fun e => (place, e)
  else .ok ()

/-- All files below a directory, at any depth, or the path that could not be read. A path that leads
    to a file finds that file alone, with an empty path. Only directories are read, and so the path
    of a file may have any length. -/
def filesUnder (t : FileTree) (path : String) : Except (String × OsError) (List FoundFile) := do
  let start ← (t.resolve path).mapError fun e => (path, e)
  (t.directoriesUnder start).forM (checkBelow path)
  return t.files.filterMap fun (place, _) => found? start place

/-- Makes one directory, at the end of some names. -/
def makeDirectory (t : FileTree) (start : Place) (names : List String) : Except OsError FileTree :=
  match names.getLast? with
  | none => .error .fileExists
  | some name => do
    let here ← names.dropLast.foldlM t.step start
    if !t.isDirectory here then .error .notADirectory
    else if name = ".." then .error .fileExists
    else if name.utf8ByteSize > longestName then .error .nameTooLong
    else if t.contains (here ++ [name]) then .error .fileExists
    else return t.addDirectory (here ++ [name])

/-- Whether some names lead to a directory. -/
def leadsToDirectory (t : FileTree) (start : Place) (names : List String) : Bool :=
  match names.foldlM t.step start with
  | .ok place => t.isDirectory place
  | .error _ => false

/-- Makes one directory, if it is not there. -/
def ensureDirectory (t : FileTree) (start : Place) (names : List String) :
    Except OsError FileTree :=
  match t.makeDirectory start names with
  | .error .fileExists => if t.leadsToDirectory start names then .ok t else .error .fileExists
  | made => made

/-- What becomes of a tree by an access that may be refused. One that is refused leaves the tree as
    it is. -/
def afterAccess (t : FileTree) : Except OsError FileTree → FileTree × Option OsError
  | .ok t => (t, none)
  | .error e => (t, some e)

/-- Makes a directory, and first the one that it lies in if that is what is missing. The names are
    given last first. What has been made stays where something else cannot be made. -/
def ensureDirectories (t : FileTree) (start : Place) : List String → FileTree × Option OsError
  | [] => (t, none)
  | name :: above =>
    match t.ensureDirectory start (name :: above).reverse with
    | .error .noSuchFile =>
      match t.ensureDirectories start above with
      | (t, some e) => (t, some e)
      | (t, none) => t.afterAccess (t.ensureDirectory start (name :: above).reverse)
    | made => t.afterAccess made

/-- Makes the directory that a path leads to, and those on the way to it. -/
def makeDirectories (t : FileTree) (path : String) : FileTree × Option OsError :=
  match checkLength path with
  | .error e => (t, some e)
  | .ok _ =>
    let pieces := Path.pieces path
    t.ensureDirectories (origin pieces) (pieces.filter (!Path.stays ·)).reverse

/-- Writes a file, instead of the one that is there. What a slash follows can only be a
    directory. -/
def writeText (t : FileTree) (path : String) (text : String) : Except OsError FileTree := do
  checkLength path
  let pieces := Path.pieces path
  let names := (pieces.reverse.dropWhile (·.isEmpty)).reverse
  let here ← t.follow names.dropLast
  match names.getLast? with
  | none => .error .isADirectory
  | some name =>
    if !t.isDirectory here then .error .notADirectory
    else if names.length < pieces.length || Path.stays name || name = ".." then .error .isADirectory
    else if name.utf8ByteSize > longestName then .error .nameTooLong
    else if t.isDirectory (here ++ [name]) then .error .isADirectory
    else return t.put (here ++ [name]) text

/-! ### Files in the working directory -/

/-- The tree of some files, with the directories on the way to them. -/
def ofFiles (files : List (String × String)) : FileTree :=
  files.foldl
    (fun t (path, text) =>
      let names := (Path.pieces path).filter (!Path.stays ·)
      match t.ensureDirectories workingDirectory names.dropLast.reverse with
      | (made, none) => made.put (workingDirectory ++ names) text
      | (_, some _) => t)
    {}

/-- The files below the working directory, with their paths from there. -/
def workingFiles (t : FileTree) : List (String × String) :=
  t.files.filterMap fun (place, text) => (found? workingDirectory place).map fun found =>
    (found.path, text)

end FileTree

end ProtoApi
