import ProtoApi.Descriptor.Declarations
import ProtoApi.Diagnostic

namespace ProtoApi

/-!
# The files to generate

* `FileDecl.matches` — whether a requested path means a file: the path ends with the name of the
  file;
* `DescriptorSet.targets` — the files that some paths mean, each once. No request means all files.
-/

/-- Whether a requested path ends with the name of the file. -/
def FileDecl.matches (f : FileDecl) (path : String) : Bool :=
  f.name ≠ "" && f.name.toList.isSuffixOf path.toList

namespace DescriptorSet

/-- Adds the first file that a path means. -/
def addTarget (s : DescriptorSet) (targets : List FileDecl) (path : String) :
    Except BuildError (List FileDecl) :=
  match s.files.find? (·.matches path) with
  | none => .error (.missingFile path)
  | some f => .ok (if targets.any (·.name = f.name) then targets else targets ++ [f])

/-- The files to generate, in the order in which they are requested. -/
def targets (s : DescriptorSet) (requested : List String) : Except BuildError (List FileDecl) :=
  if requested.isEmpty then .ok s.files else requested.foldlM s.addTarget []

end DescriptorSet

end ProtoApi
