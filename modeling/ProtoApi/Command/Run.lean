import ProtoApi.Build.Pipeline
import ProtoApi.Command.Arguments
import ProtoApi.Command.FileTree

namespace ProtoApi

/-!
# Running the command

A run of `model` reads its inputs, builds the model, writes or prints it, and says what was left
out. What it prints at its end is in its report. The lines of the log, which go to standard error
while the run goes on (one for each diagnostic, and more with `-v`), are left out of the report.

* `Failure` — why a run comes to nothing, and what the cause of that is;
* `ModelInputs`, `FileTree.inputs` — what is found at the paths that the command names;
* `ModelOptions.build` — the model of some inputs;
* `Report`, `ModelOptions.report`, `Failure.report` — what a run prints besides its log;
* `FileTree.store`, `ModelOptions.run` — a run on a file tree;
* `Outcome`, `runCommand` — any command line on a file tree.
-/

/-! ### Failures -/

/-- Why a run comes to nothing. -/
inductive Failure where
  | unreadableDescriptor (path : String) (e : OsError)
  | invalidDescriptor (path : String) (e : BuildError)
  | unreadableConfig (path : String) (e : OsError)
  | invalidConfig (path : String) (e : BuildError)
  /-- A directory that cannot be searched, because of what is at `place`. -/
  | unsearchable (directory place : String) (e : OsError)
  | notBuilt (e : BuildError)
  | uncreatable (directory : String) (e : OsError)
  | unwritable (path : String) (e : OsError)

namespace Failure

/-- The error of a build and the error behind it. -/
def chain (e : BuildError) : List String := e.message :: (e.cause?.map DecodeError.message).toList

/-- What failed, followed by what led to it. -/
def messages : Failure → List String
  | unreadableDescriptor path e => ["failed to read descriptor json: " ++ path, e.message]
  | invalidDescriptor path e => ("invalid descriptor set: " ++ path) :: chain e
  | unreadableConfig path e => ["failed to read service config: " ++ path, e.message]
  | invalidConfig path e => ("invalid service config: " ++ path) :: chain e
  | unsearchable directory place e =>
    ["failed to walk " ++ directory, "IO error for operation on " ++ place ++ ": " ++ e.message,
      e.message]
  | notBuilt e => chain e
  | uncreatable directory e => ["failed to create " ++ directory, e.message]
  | unwritable path e => ["failed to write " ++ path, e.message]

/-- A text whose lines after the first one are indented. -/
def hanging (width : Nat) (text : String) : String :=
  String.ofList (text.toList.flatMap fun c => if c = '\n' then c :: List.replicate width ' '
    else [c])

example : hanging 2 "a\nb" = "a\n  b" := by decide +kernel

/-- The texts that tell a failure, each on lines of its own. Several causes are numbered. -/
def lines (f : Failure) : List String :=
  match f.messages with
  | [] => []
  | [what] => ["Error: " ++ what]
  | [what, cause] => ["Error: " ++ what, "", "Caused by:", "    " ++ hanging 4 cause]
  | what :: causes =>
    ["Error: " ++ what, "", "Caused by:"]
      ++ causes.zipIdx.map fun (cause, n) => "    " ++ toString n ++ ": " ++ hanging 7 cause

end Failure

/-! ### From inputs to a model -/

/-- What is found at the paths that the command names. -/
structure ModelInputs where
  descriptor : Except OsError String
  config? : Option (Except OsError String) := none
  /-- The files below the directory of sources, or the path that could not be read. -/
  sources? : Option (Except (String × OsError) (List FoundFile)) := none

/-- The paths of the source files among some files, in their order as texts. -/
def sourcePaths (found : List FoundFile) : List String :=
  ((found.filter fun f => Path.isProtoFile f.name).map (·.path)).mergeSort fun a b => decide (a ≤ b)

namespace ModelOptions

/-- The descriptor set that the command is given. -/
def readDescriptorSet (o : ModelOptions) (inputs : ModelInputs) : Except Failure DescriptorSet := do
  let text ← inputs.descriptor.mapError (.unreadableDescriptor o.descriptor)
  (parseDescriptorSet text).mapError (.invalidDescriptor o.descriptor)

/-- The service configuration that the command is given. -/
def readConfig (o : ModelOptions) (inputs : ModelInputs) : Except Failure (Option ServiceConfig) :=
  match inputs.config? with
  | none => .ok none
  | some read => do
    let path := o.config?.getD ""
    let text ← read.mapError (.unreadableConfig path)
    some <$> (parseServiceConfig text).mapError (.invalidConfig path)

/-- The paths that are requested: those of the command line, then those of the source files that are
    found. -/
def requestedFiles (o : ModelOptions) (inputs : ModelInputs) : Except Failure (List String) :=
  match inputs.sources? with
  | none => .ok o.files
  | some (.ok found) => .ok (o.files ++ sourcePaths found)
  | some (.error (place, e)) => .error (.unsearchable (o.sourceDirectory?.getD "") place e)

/-- The model of some inputs. -/
def build (o : ModelOptions) (inputs : ModelInputs) : Except Failure ApiBuild := do
  let set ← o.readDescriptorSet inputs
  let config? ← o.readConfig inputs
  let files ← o.requestedFiles inputs
  (buildApi set { files, config?, bundledMixins := o.bundledMixins }).mapError .notBuilt

/-- The text of a model, without a final line end. -/
def text (o : ModelOptions) (b : ApiBuild) : String :=
  (if o.withDiagnostics then b.toJson else b.api.toJson).pretty

end ModelOptions

/-! ### Reports -/

/-- What a run prints besides its log. -/
structure Report where
  succeeded : Bool
  output : String := ""
  /-- The texts of standard error, each on lines of its own, but for the lines of the log. -/
  errors : List String := []
deriving DecidableEq

/-- The report of a run that comes to nothing. -/
def Failure.report (f : Failure) : Report := { succeeded := false, errors := f.lines }

/-- How many methods the listed services have. -/
def Api.methodCount (a : Api) : Nat := (a.listedServices.flatMap a.methodsOf).length

/-- The sizes of a build in one line. -/
def ApiBuild.stats (b : ApiBuild) : String :=
  "  stats: services=" ++ toString b.api.services.length
    ++ " methods=" ++ toString b.api.methodCount
    ++ " messages=" ++ toString b.api.registry.messages.entries.length
    ++ " enums=" ++ toString b.api.registry.enums.entries.length
    ++ " diagnostics=" ++ toString b.diagnostics.length

/-- One line for each thing that was left out. -/
def ApiBuild.skipped (b : ApiBuild) : List String :=
  b.diagnostics.map fun d => "skipped: " ++ d.message

namespace ModelOptions

/-- The digest of a model, if it is asked for. -/
def digestLines (o : ModelOptions) (b : ApiBuild) : List String :=
  if o.digest then [b.api.digest] else []

/-- The report of a run that has made a model. The digest stands beside the model, on standard
    output if the model is in a file and on standard error if it is on standard output. -/
def report (o : ModelOptions) (b : ApiBuild) : Report :=
  match o.out? with
  | some path => {
      succeeded := true
      output := String.join ((["  → " ++ path, b.stats] ++ o.digestLines b).map (· ++ "\n"))
      errors := b.skipped }
  | none =>
    { succeeded := true, output := o.text b ++ "\n", errors := o.digestLines b ++ b.skipped }

end ModelOptions

/-! ### Runs on a file tree -/

namespace FileTree

/-- What a tree has at the paths that the command names. -/
def inputs (t : FileTree) (o : ModelOptions) : ModelInputs where
  descriptor := t.readText o.descriptor
  config? := o.config?.map t.readText
  sources? := o.sourceDirectory?.map t.filesUnder

/-- Makes the directory that a path lies in, unless that is the working directory. -/
def makeParent (t : FileTree) (path : String) : FileTree × Option OsError :=
  if Path.parent path = "" then (t, none) else t.makeDirectories (Path.parent path)

/-- Writes a file and makes the directories on the way to it, which stay if the file cannot be
    written. -/
def store (t : FileTree) (path text : String) : FileTree × Option Failure :=
  match t.makeParent path with
  | (t, some e) => (t, some (.uncreatable (Path.parent path) e))
  | (t, none) =>
    match t.writeText path text with
    | .ok t => (t, none)
    | .error e => (t, some (.unwritable path e))

end FileTree

namespace ModelOptions

/-- Stores a model if there is a file to store it in. -/
def store (o : ModelOptions) (b : ApiBuild) (t : FileTree) : FileTree × Option Failure :=
  match o.out? with
  | some path => t.store path (o.text b)
  | none => (t, none)

/-- A run of `model`. -/
def run (o : ModelOptions) (t : FileTree) : Report × FileTree :=
  match o.build (t.inputs o) with
  | .error f => (f.report, t)
  | .ok b =>
    match o.store b t with
    | (t, some f) => (f.report, t)
    | (t, none) => (o.report b, t)

end ModelOptions

/-! ### Whole command lines -/

/-- What comes of a command line. -/
inductive Outcome where
  /-- A text that was asked for. -/
  | information (text : String)
  | mistake (e : UsageError)
  | finished (r : Report)

/-- The exit code of an outcome. -/
def Outcome.exitCode : Outcome → Nat
  | information _ => 0
  | mistake _ => 2
  | finished r => if r.succeeded then 0 else 1

/-- How the command is used. -/
def usage : String :=
  "Usage: apigen [-v] model --descriptor <DESCRIPTOR> [OPTIONS]\n\n"
    ++ "Builds the API model of a descriptor set.\n\n"
    ++ "Options:\n"
    ++ "      --descriptor <DESCRIPTOR>          Descriptor set JSON\n"
    ++ "      --service-config <SERVICE_CONFIG>  Service config JSON\n"
    ++ "      --file <FILES>                     File to generate, repeatable\n"
    ++ "      --source-dir <SOURCE_DIR>          Generate every .proto file found under this "
    ++ "directory\n"
    ++ "  -o, --out <OUT>                        Output JSON file\n"
    ++ "      --with-diagnostics                 Emit the diagnostics with the model\n"
    ++ "      --digest                           Print the model digest\n"
    ++ "      --no-builtin-mixins                Do not fall back to the bundled mixin "
    ++ "descriptors\n"
    ++ "  -v, --verbose                          Accepted for all commands\n"
    ++ "  -h, --help                             Print help\n"

/-- The name and version of the program. -/
def versionLine : String := "apigen 0.1.0\n"

/-- What a command line does to a file tree. -/
def runCommand (args : List String) (t : FileTree) : Outcome × FileTree :=
  match Request.ofArguments args with
  | .help => (.information usage, t)
  | .version => (.information versionLine, t)
  | .mistake e => (.mistake e, t)
  | .model o =>
    let (r, t) := o.run t
    (.finished r, t)

end ProtoApi
