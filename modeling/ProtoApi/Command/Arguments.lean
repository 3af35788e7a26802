namespace ProtoApi

/-!
# Arguments of the command line

* `ModelOptions` — what the command `model` is asked to do;
* `UsageError` — the mistakes of a command line, with their wording in `UsageError.message`;
* `Argument`, `Argument.ofText` — one argument by its form: an option under its long name, a group
  of options under their letters, the mark that ends the options, or anything else;
* `Settings`, `readModelOptions` — the options of `model`, read from left to right;
* `Request`, `Request.ofArguments` — what a whole command line asks for. The first mistake or
  question for help decides.
-/

/-- What the command `model` is asked to do. -/
structure ModelOptions where
  descriptor : String
  config? : Option String := none
  /-- The paths of the files to generate. -/
  files : List String := []
  /-- A directory whose source files are to be generated. -/
  sourceDirectory? : Option String := none
  /-- The file to write the model to. -/
  out? : Option String := none
  /-- Whether what was left out is part of the text. -/
  withDiagnostics : Bool := false
  /-- Whether the digest is printed. -/
  digest : Bool := false
  bundledMixins : Bool := true
deriving DecidableEq, Repr

/-- A mistake in a command line. -/
inductive UsageError where
  | missingCommand
  | unknownCommand (name : String)
  | unexpected (argument : String)
  | unexpectedValue (label value : String)
  | missingValue (label : String)
  | repeated (label : String)
  | missingOption (label : String)
deriving DecidableEq, Repr

/-- The wording of a mistake. -/
def UsageError.message : UsageError → String
  | missingCommand => "a command is required but none was given"
  | unknownCommand name => "unrecognized command '" ++ name ++ "'"
  | unexpected argument => "unexpected argument '" ++ argument ++ "' found"
  | unexpectedValue label value => "unexpected value '" ++ value ++ "' for '" ++ label ++ "' found"
  | missingValue label => "a value is required for '" ++ label ++ "' but none was given"
  | repeated label => "the argument '" ++ label ++ "' cannot be used multiple times"
  | missingOption label => "the required argument '" ++ label ++ "' was not given"

/-- Why the reading of a command line ends early. -/
inductive Halt where
  | help
  | version
  | mistake (e : UsageError)
deriving DecidableEq, Repr

/-! ### The forms of arguments -/

/-- An argument by its form. -/
inductive Argument where
  /-- A name behind two hyphens, and what stands behind an equals sign. -/
  | long (name : String) (value? : Option String)
  /-- Letters behind one hyphen. -/
  | short (letters : List Char)
  /-- Two hyphens alone. -/
  | separator
  | plain (text : String)
deriving DecidableEq, Repr

/-- The text in front of the first equals sign, and the text behind it. -/
def splitAtEquals : List Char → List Char × Option (List Char)
  | [] => ([], none)
  | c :: rest =>
    if c = '=' then ([], some rest)
    else
      let (name, value?) := splitAtEquals rest
      (c :: name, value?)

/-- The form of an argument. -/
def Argument.ofText (text : String) : Argument :=
  match text.toList with
  | ['-', '-'] => separator
  | '-' :: '-' :: rest =>
    let (name, value?) := splitAtEquals rest
    long (String.ofList name) (value?.map String.ofList)
  | '-' :: c :: rest => short (c :: rest)
  | _ => plain text

/-! ### The options of `model` -/

/-- An option of `model` that takes a value. -/
inductive ValueOption where
  | descriptor
  | config
  | file
  | sourceDirectory
  | out
deriving DecidableEq, Repr

/-- An option of `model` that takes none. -/
inductive Flag where
  | withDiagnostics
  | digest
  | noBundledMixins
  | verbose
deriving DecidableEq, Repr

namespace ValueOption

/-- The long name of an option. -/
def name : ValueOption → String
  | descriptor => "descriptor"
  | config => "service-config"
  | file => "file"
  | sourceDirectory => "source-dir"
  | out => "out"

/-- All of them. -/
def all : List ValueOption := [descriptor, config, file, sourceDirectory, out]

end ValueOption

namespace Flag

/-- The long name of a flag. -/
def name : Flag → String
  | withDiagnostics => "with-diagnostics"
  | digest => "digest"
  | noBundledMixins => "no-builtin-mixins"
  | verbose => "verbose"

/-- All of them. -/
def all : List Flag := [withDiagnostics, digest, noBundledMixins, verbose]

end Flag

/-- How an option is written. -/
def longLabel (name : String) : String := "--" ++ name

/-- The options of `model` that have been read. -/
structure Settings where
  descriptor? : Option String := none
  config? : Option String := none
  files : List String := []
  sourceDirectory? : Option String := none
  out? : Option String := none
  flags : List Flag := []
deriving DecidableEq, Repr

namespace Settings

/-- Stops the reading at a mistake. -/
def halt {α : Type} (e : UsageError) : Except Halt α := .error (.mistake e)

/-- The value of a path option, which may be given once and is not empty. -/
def once (o : ValueOption) (before? : Option String) (value : String) :
    Except Halt (Option String) :=
  if before?.isSome then halt (.repeated (longLabel o.name))
  else if value = "" then halt (.missingValue (longLabel o.name))
  else .ok (some value)

/-- Takes in the value of an option. The option for files may be given several times. -/
def setValue (s : Settings) (o : ValueOption) (value : String) : Except Halt Settings := do
  match o with
  | .descriptor => return { s with descriptor? := ← once o s.descriptor? value }
  | .config => return { s with config? := ← once o s.config? value }
  | .file => return { s with files := s.files ++ [value] }
  | .sourceDirectory => return { s with sourceDirectory? := ← once o s.sourceDirectory? value }
  | .out => return { s with out? := ← once o s.out? value }

/-- Takes in a flag, which may be given once. -/
def setFlag (s : Settings) (f : Flag) : Except Halt Settings :=
  if s.flags.contains f then halt (.repeated (longLabel f.name)) else .ok { s with
    flags := f :: s.flags }

/-- What has been read so far, and the option whose value is still to come. -/
abbrev Progress := Settings × Option ValueOption

/-- Takes in an option under its long name. -/
def readLong (s : Settings) (name : String) (value? : Option String) : Except Halt Progress := do
  match ValueOption.all.find? (·.name = name), value? with
  | some o, some value => return (← s.setValue o value, none)
  | some o, none => return (s, some o)
  | none, _ =>
    match Flag.all.find? (·.name = name), value? with
    | some f, none => return (← s.setFlag f, none)
    | some f, some value => halt (.unexpectedValue (longLabel f.name) value)
    | none, _ =>
      if name ≠ "help" then halt (.unexpected (longLabel name))
      else
        match value? with
        | some value => halt (.unexpectedValue (longLabel name) value)
        | none => .error .help

/-- Takes in a group of letters. The letter of an option that takes a value ends the group: what is
    left of it, without an equals sign in front, is the value. -/
def readShort (s : Settings) : List Char → Except Halt Progress
  | [] => .ok (s, none)
  | 'v' :: rest => do (← s.setFlag .verbose).readShort rest
  | 'h' :: _ => .error .help
  | ['o'] => .ok (s, some .out)
  | 'o' :: '=' :: value => do return (← s.setValue .out (String.ofList value), none)
  | 'o' :: value => do return (← s.setValue .out (String.ofList value), none)
  | c :: _ => halt (.unexpected (String.ofList ['-', c]))

/-- Takes in all arguments, with an option whose value is still to come. -/
def readAll (s : Settings) (pending? : Option ValueOption) : List String → Except Halt Settings
  | [] =>
    match pending? with
    | some o => halt (.missingValue (longLabel o.name))
    | none => .ok s
  | text :: rest =>
    match pending?, Argument.ofText text with
    | some o, .plain value => do (← s.setValue o value).readAll none rest
    | some o, _ => halt (.missingValue (longLabel o.name))
    | none, .plain _ => halt (.unexpected text)
    | none, .separator =>
      match rest with
      | [] => .ok s
      | extra :: _ => halt (.unexpected extra)
    | none, .long name value? => do
      let (s, pending?) ← s.readLong name value?
      s.readAll pending? rest
    | none, .short letters => do
      let (s, pending?) ← s.readShort letters
      s.readAll pending? rest

/-- The options that were read, if the one that is required is among them. -/
def toModelOptions (s : Settings) : Except Halt ModelOptions :=
  match s.descriptor? with
  | none => halt (.missingOption (longLabel ValueOption.descriptor.name))
  | some descriptor => .ok {
      descriptor
      config? := s.config?
      files := s.files
      sourceDirectory? := s.sourceDirectory?
      out? := s.out?
      withDiagnostics := s.flags.contains .withDiagnostics
      digest := s.flags.contains .digest
      bundledMixins := !s.flags.contains .noBundledMixins }

end Settings

/-- Reads the options of `model`. -/
def readModelOptions (args : List String) : Except Halt ModelOptions := do
  (← ({} : Settings).readAll none args).toModelOptions

/-! ### Whole command lines -/

/-- What a command line asks for. -/
inductive Request where
  | help
  | version
  | mistake (e : UsageError)
  | model (options : ModelOptions)
deriving DecidableEq, Repr

/-- Reads letters in front of the command. -/
def readLeadingLetters (verbose : Bool) : List Char → Except Halt Bool
  | [] => .ok verbose
  | 'v' :: rest =>
    if verbose then Settings.halt (.repeated (longLabel Flag.verbose.name))
      else readLeadingLetters true rest
  | 'h' :: _ => .error .help
  | 'V' :: _ => .error .version
  | c :: _ => Settings.halt (.unexpected (String.ofList ['-', c]))

/-- Reads an option in front of the command. -/
def readLeadingOption (verbose : Bool) (name : String) (value? : Option String) :
    Except Halt Bool :=
  if ["verbose", "help", "version"].contains name then
    match value? with
    | some value => Settings.halt (.unexpectedValue (longLabel name) value)
    | none =>
      if name = "help" then .error .help
      else if name = "version" then .error .version
      else if verbose then Settings.halt (.repeated (longLabel name))
      else .ok true
  else Settings.halt (.unexpected (longLabel name))

/-- Which command help is asked for: any that there is. -/
def helpOn : List String → Halt
  | [] => .help
  | ["model"] => .help
  | ["help"] => .help
  | "model" :: name :: _ => .mistake (.unknownCommand name)
  | "help" :: name :: _ => .mistake (.unknownCommand name)
  | name :: _ => .mistake (.unknownCommand name)

/-- Reads a command line. `verbose` tells whether that option has been read. -/
def readCommandLine (verbose : Bool) : List String → Except Halt ModelOptions
  | [] => Settings.halt .missingCommand
  | text :: rest =>
    match Argument.ofText text with
    | .plain name =>
      if name = "model" then readModelOptions rest
      else if name = "help" then .error (helpOn rest)
      else Settings.halt (.unknownCommand name)
    | .separator =>
      match rest with
      | [] => Settings.halt .missingCommand
      | extra :: _ => Settings.halt (.unexpected extra)
    | .long name value? => do readCommandLine (← readLeadingOption verbose name value?) rest
    | .short letters => do readCommandLine (← readLeadingLetters verbose letters) rest

/-- What a command line asks for. -/
def Request.ofArguments (args : List String) : Request :=
  match readCommandLine false args with
  | .ok options => model options
  | .error .help => help
  | .error .version => version
  | .error (.mistake e) => mistake e

end ProtoApi
