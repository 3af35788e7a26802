import ProtoApi.Model.Id

namespace ProtoApi

/-!
# Well-known mixin services

A mixin is a service that many APIs implement. Its methods are taken over by each service of an API
that enables it.

* `Mixin` — the name of the service, the file that declares it and the files with the types it uses;
* `Mixin.locations`, `Mixin.iamPolicy`, `Mixin.operations`, `Mixin.catalog` — the mixins;
* `Mixin.wellKnown?` — the mixin of a name;
* `Mixin.selector`, `Mixin.owns` — the names by which a service configuration selects its methods.
-/

/-- A mixin service. -/
structure Mixin where
  /-- The full name of the service. -/
  api : String
  /-- The file that declares the service. -/
  file : String
  /-- The files that declare the types of its requests and responses. -/
  support : List String
deriving DecidableEq

namespace Mixin

/-- The service for locations. -/
def locations : Mixin where
  api := "google.cloud.location.Locations"
  file := "google/cloud/location/locations.proto"
  support := ["google/protobuf/any.proto"]

/-- The service for access policies. -/
def iamPolicy : Mixin where
  api := "google.iam.v1.IAMPolicy"
  file := "google/iam/v1/iam_policy.proto"
  support := [
    "google/protobuf/field_mask.proto",
    "google/type/expr.proto",
    "google/iam/v1/policy.proto",
    "google/iam/v1/options.proto"]

/-- The service for long-running operations. -/
def operations : Mixin where
  api := "google.longrunning.Operations"
  file := "google/longrunning/operations.proto"
  support := [
    "google/protobuf/any.proto",
    "google/protobuf/duration.proto",
    "google/protobuf/empty.proto",
    "google/rpc/status.proto"]

/-- All mixins. -/
def catalog : List Mixin := [locations, iamPolicy, operations]

/-- The mixin of a name. -/
def wellKnown? (api : String) : Option Mixin := catalog.find? (·.api = api)

/-- The name of the service without its package. -/
def serviceName (m : Mixin) : String := lastComponent m.api

/-- The name by which a method of the mixin is selected. -/
def selector (m : Mixin) (method : String) : String := m.api ++ "." ++ method

/-- Whether a selector is that of a method of the mixin: its name, a dot and a name without dots. -/
def owns (m : Mixin) (selector : String) : Bool :=
  let lead := (m.api ++ ".").toList
  let chars := selector.toList
  lead.isPrefixOf chars && '.' ∉ chars.drop lead.length

/-- All files of the mixin, its own one last. -/
def files (m : Mixin) : List String := m.support ++ [m.file]

end Mixin

end ProtoApi
