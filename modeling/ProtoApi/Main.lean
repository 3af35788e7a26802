import ProtoApi.Command.Run

namespace ProtoApi

/-!
# The program

Runs a command line on the files of the system. What is read and what is printed is decided by the
library; here the files are read and written and the lines are printed.
-/

/-- A refusal in the terms of the library. -/
def OsError.ofSystem : IO.Error → OsError
  | .noFileOrDirectory _ _ _ => .noSuchFile
  | .alreadyExists _ _ _ => .fileExists
  | .inappropriateType _ 20 _ => .notADirectory
  | .inappropriateType _ 21 _ => .isADirectory
  | .inappropriateType _ code details => other code details
  | .permissionDenied _ code details => other code details
  | .invalidArgument _ code details => other code details
  | .resourceExhausted _ code details => other code details
  | .noSuchThing _ code details => other code details
  | .interrupted _ code details => other code details
  | .otherError code details => other code details
  | .resourceBusy code details => other code details
  | .resourceVanished code details => other code details
  | .unsupportedOperation code details => other code details
  | .hardwareFault code details => other code details
  | .unsatisfiedConstraints code details => other code details
  | .illegalOperation code details => other code details
  | .protocolError code details => other code details
  | .timeExpired code details => other code details
  | .unexpectedEof => .other "unexpected end of file"
  | .userError _ => .other "stream did not contain valid UTF-8"
where
  other (code : UInt32) (details : String) : OsError :=
    .other (details ++ " (os error " ++ toString code ++ ")")

/-- The result of an access, with its refusal as a value. -/
def attempt {α : Type} (access : IO α) : IO (Except OsError α) := do
  try return .ok (← access) catch e => return .error (.ofSystem e)

/-- A path in the terms of the system. -/
def systemPath (path : String) := ({ root := path, fileName := "" } : IO.FS.DirEntry).root

/-- The files below a place, at any depth. `place` is a path to it, and `path` the one from the
    directory where the search began. What is below that directory is told apart by the direct path,
    which is short enough even where `place` is not: only a directory is read by `place` itself. -/
partial def search (place path : String) : IO (Except (String × OsError) (List FoundFile)) := do
  match ← attempt (systemPath (if path.isEmpty then place else Path.direct place)).metadata with
  | .error e => return .error (place, e)
  | .ok metadata =>
    match metadata.type with
    | .file => return .ok [{ name := (Path.pieces place).getLast?.getD "", path }]
    | .dir =>
      match ← attempt (systemPath place).readDir with
      | .error e => return .error (place, e)
      | .ok children =>
        let mut found : List FoundFile := []
        for child in children do
          match ← search (Path.join place child.fileName) (Path.join path child.fileName) with
          | .error e => return .error e
          | .ok files => found := found ++ files
        return .ok found
    | _ => return .ok []

/-- What is found at the paths that the command names. -/
def gather (o : ModelOptions) : IO ModelInputs := do
  let descriptor ← attempt (IO.FS.readFile o.descriptor)
  let config? ← o.config?.mapM fun path => attempt (IO.FS.readFile path)
  let sources? ← o.sourceDirectory?.mapM fun path => search path ""
  return { descriptor, config?, sources? }

/-- Makes one directory, if it is not there. -/
def ensureDirectory (path : String) : IO (Except OsError Unit) := do
  match ← attempt (IO.FS.createDir path) with
  | .error .fileExists => return if ← (systemPath path).isDir then .ok () else .error .fileExists
  | made => return made

/-- Makes a directory, and first the one that it lies in if that is what is missing. The pieces of
    its path are given last first. -/
def ensureDirectories : List String → IO (Except OsError Unit)
  | [] => return .ok ()
  | piece :: above => do
    if Path.stays piece then ensureDirectories above
    else
      let path := Path.ofPieces (piece :: above).reverse
      match ← ensureDirectory path with
      | .error .noSuchFile =>
        match ← ensureDirectories above with
        | .ok _ => ensureDirectory path
        | failed => return failed
      | made => return made

/-- Stores a model if there is a file to store it in. -/
def ModelOptions.save (o : ModelOptions) (b : ApiBuild) : IO (Except Failure Unit) := do
  match o.out? with
  | none => return .ok ()
  | some path =>
    let directory := Path.parent path
    let made ← if directory.isEmpty then pure (.ok ())
        else ensureDirectories (Path.pieces directory).reverse
    match made with
    | .error e => return .error (.uncreatable directory e)
    | .ok _ =>
      let written ← attempt (IO.FS.writeFile path (o.text b))
      return written.mapError (.unwritable path)

/-- A run of `model` on the files of the system. -/
def ModelOptions.perform (o : ModelOptions) : IO Report := do
  match o.build (← gather o) with
  | .error f => return f.report
  | .ok b =>
    match ← o.save b with
    | .error f => return f.report
    | .ok _ => return o.report b

/-- Does what a command line asks for. -/
def Request.perform : Request → IO Outcome
  | help => return .information usage
  | version => return .information versionLine
  | mistake e => return .mistake e
  | model o => return .finished (← o.perform)

/-- Prints an outcome. -/
def Outcome.print : Outcome → IO Unit
  | information text => IO.print text
  | mistake e => IO.eprintln ("error: " ++ e.message)
  | finished r => do
    IO.print r.output
    r.errors.forM fun line => IO.eprintln line

end ProtoApi

def main (args : List String) : IO UInt32 := do
  let outcome ← (ProtoApi.Request.ofArguments args).perform
  outcome.print
  return outcome.exitCode.toUInt32
