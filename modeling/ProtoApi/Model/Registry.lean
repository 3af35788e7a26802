import ProtoApi.Model.Entities

namespace ProtoApi

/-!
# The registry

* `Registry` — the entities of a model by their ids, one table for each sort;
* `Symbol` — an entity of any sort;
* `Registry.addService` and its like — register an entity under its own id, in place of what was
  there;
* `Registry.lookup?` — an entity of any sort, types before services and methods;
* `Registry.resolvesType` — whether an id names a message or an enum;
* `Registry.symbols` — all that is registered.
-/

/-- The entities of a model by their ids. -/
structure Registry where
  services : Table Service := Table.empty
  methods : Table Method := Table.empty
  messages : Table Message := Table.empty
  enums : Table EnumType := Table.empty
deriving DecidableEq, Inhabited

/-- An entity of any sort. -/
inductive Symbol where
  | service (s : Service)
  | method (m : Method)
  | message (m : Message)
  | enum (e : EnumType)
deriving DecidableEq

/-- The id of an entity. -/
def Symbol.id : Symbol → String
  | service s => s.id
  | method m => m.id
  | message m => m.id
  | enum e => e.id

namespace Registry

/-- Registers a service. -/
def addService (r : Registry) (s : Service) : Registry :=
  { r with services := r.services.insert s.id s }

/-- Registers a method. -/
def addMethod (r : Registry) (m : Method) : Registry :=
  { r with methods := r.methods.insert m.id m }

/-- Registers a message. -/
def addMessage (r : Registry) (m : Message) : Registry :=
  { r with messages := r.messages.insert m.id m }

/-- Registers an enum. -/
def addEnum (r : Registry) (e : EnumType) : Registry := { r with enums := r.enums.insert e.id e }

/-- The service registered under an id. -/
def service? (r : Registry) (id : String) : Option Service := r.services.get? id

/-- The method registered under an id. -/
def method? (r : Registry) (id : String) : Option Method := r.methods.get? id

/-- The message registered under an id. -/
def message? (r : Registry) (id : String) : Option Message := r.messages.get? id

/-- The enum registered under an id. -/
def enum? (r : Registry) (id : String) : Option EnumType := r.enums.get? id

/-- Changes a service, if it is registered. -/
def modifyService (r : Registry) (id : String) (f : Service → Service) : Registry :=
  { r with services := r.services.modify id f }

/-- Changes a method, if it is registered. -/
def modifyMethod (r : Registry) (id : String) (f : Method → Method) : Registry :=
  { r with methods := r.methods.modify id f }

/-- Changes a message, if it is registered. -/
def modifyMessage (r : Registry) (id : String) (f : Message → Message) : Registry :=
  { r with messages := r.messages.modify id f }

/-- Changes an enum, if it is registered. -/
def modifyEnum (r : Registry) (id : String) (f : EnumType → EnumType) : Registry :=
  { r with enums := r.enums.modify id f }

/-- Whether a method is registered under an id. -/
def containsMethod (r : Registry) (id : String) : Bool := r.methods.contains id

/-- Whether an id names a registered message or enum. -/
def resolvesType (r : Registry) (id : String) : Bool :=
  r.messages.contains id || r.enums.contains id

/-- The entity registered under an id: a message, else an enum, else a service, else a method. -/
def lookup? (r : Registry) (id : String) : Option Symbol :=
  ((r.message? id).map .message).or <| ((r.enum? id).map .enum).or <|
    ((r.service? id).map .service).or ((r.method? id).map .method)

/-- All entities with the ids they are registered under: services, methods, messages, enums, each in
    the order of the ids. -/
def symbols (r : Registry) : List (String × Symbol) :=
  r.services.entries.map (fun e => (e.1, .service e.2))
    ++ r.methods.entries.map (fun e => (e.1, .method e.2))
    ++ r.messages.entries.map (fun e => (e.1, .message e.2))
      ++ r.enums.entries.map (fun e => (e.1, .enum e.2))

end Registry

end ProtoApi
