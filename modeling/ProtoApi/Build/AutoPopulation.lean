import ProtoApi.Model.Registry
import ProtoApi.ServiceConfig

namespace ProtoApi

/-!
# Fields that clients fill in

* `Field.qualifies` — whether a field that the settings of a method list is one that clients fill
  in;
* `Registry.populateListed` — marks the fields that the settings of one method list;
* `Registry.markAutoPopulated` — marks those of all methods.
-/

/-- Whether a listed field is filled in by clients: a random identifier, written as a text, that
    need not be set. -/
def Field.qualifies (f : Field) (uuid4Fields : NameSet) : Bool :=
  uuid4Fields.contains f.id && f.kind = .string && !f.isRequired

namespace Registry

/-- Marks the listed fields of the request of a method. -/
def populateListed (uuid4Fields : NameSet) (r : Registry) (settings : MethodSettings) : Registry :=
  match r.method? ("." ++ settings.selector) with
  | none => r
  | some method =>
    r.modifyMessage method.inputType fun m => {
      m with
      fields := m.fields.map fun f =>
        if f.name ∈ settings.autoPopulatedFields ∧ f.qualifies uuid4Fields then
          { f with autoPopulated := true }
        else f }

/-- Marks the fields that the settings of a configuration list. -/
def markAutoPopulated (r : Registry) (config? : Option ServiceConfig) (uuid4Fields : NameSet) :
    Registry :=
  ((config?.map (·.methodSettings)).getD []).foldl (populateListed uuid4Fields) r

end Registry

end ProtoApi
