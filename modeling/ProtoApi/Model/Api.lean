import ProtoApi.Model.Registry

namespace ProtoApi

/-!
# The model of an API

* `Api` — what is generated, in order, and the registry with all that it refers to;
* `Api.listedServices`, `Api.listedMessages`, `Api.listedEnums`, `Api.methodsOf` — the entities
  behind the lists of ids; ids that are not registered are passed over.
-/

/-- The model of an API. -/
structure Api where
  /-- The short name of the API. -/
  name : String := ""
  packageName : String := ""
  title : String := ""
  description : String := ""
  /-- The services to generate. -/
  services : List String := []
  /-- The messages to generate that are not inside another one. -/
  messages : List String := []
  /-- The enums to generate that are not inside a message. -/
  enums : List String := []
  registry : Registry := {}
deriving DecidableEq, Inhabited

namespace Api

/-- The services to generate. -/
def listedServices (a : Api) : List Service := a.services.filterMap a.registry.service?

/-- The messages to generate. -/
def listedMessages (a : Api) : List Message := a.messages.filterMap a.registry.message?

/-- The enums to generate. -/
def listedEnums (a : Api) : List EnumType := a.enums.filterMap a.registry.enum?

/-- The methods of a service, in its order. -/
def methodsOf (a : Api) (s : Service) : List Method := s.methods.filterMap a.registry.method?

end Api

end ProtoApi
