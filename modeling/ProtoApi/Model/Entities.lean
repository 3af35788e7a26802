import ProtoApi.Table

namespace ProtoApi

/-!
# Entities of an API model

What a model is made of. Every entity has an id, its fully qualified name with a leading dot;
entities refer to each other by id.

* `Service`, `Method` — with `HttpBinding`, `PathSegment`, `RoutingParameter` and `OperationInfo`
  for what a method is annotated with;
* `Message`, `Field`, `OneOf` — with `FieldKind` and `FieldBehavior`;
* `EnumType`, `EnumValue`.
-/

/-! ### Services -/

/-- A service to generate. -/
structure Service where
  id : String := ""
  name : String := ""
  package : String := ""
  documentation : String := ""
  /-- The host that the service is reached at, empty if none is given. -/
  defaultHost : String := ""
  deprecated : Bool := false
  /-- The ids of the methods: those that the service declares, then those it takes from mixins. -/
  methods : List String := []
deriving DecidableEq, Inhabited

/-- A piece of a path template between slashes, or the verb behind it. -/
inductive PathSegment where
  | literal (text : String)
  /-- A variable, bound to a field of the request or, through dots, to a field inside it. -/
  | fieldPath (path : String)
  /-- The custom verb behind a colon. -/
  | verb (text : String)
deriving DecidableEq, Inhabited

/-- How a method is called over HTTP. -/
structure HttpBinding where
  /-- The request method in capitals. -/
  verb : String := ""
  path : List PathSegment := []
  /-- The fields of the request that are sent as query parameters. -/
  queryParameters : NameSet := Table.empty
  /-- The field that is sent as the body; an asterisk stands for the whole request. -/
  body : Option String := none
deriving DecidableEq, Inhabited

/-- One value that a request sends along in its routing header. -/
structure RoutingParameter where
  /-- The field of the request that the value is taken from. -/
  fieldPath : String := ""
  /-- The key that the value is sent under. -/
  name : String := ""
  /-- What stands in front of the matched part. -/
  before : String := ""
  matcher : String := ""
  /-- What stands behind the matched part. -/
  after : String := ""
deriving DecidableEq, Inhabited

/-- The types that a long-running operation reports and results in. -/
structure OperationInfo where
  metadataType : String := ""
  responseType : String := ""
deriving DecidableEq, Inhabited

/-- A method of a service. -/
structure Method where
  id : String := ""
  name : String := ""
  documentation : String := ""
  inputType : String := ""
  outputType : String := ""
  binding : HttpBinding := {}
  routing : List RoutingParameter := []
  clientStreaming : Bool := false
  serverStreaming : Bool := false
  /-- Only for methods that start a long-running operation and say so. -/
  operationInfo : Option OperationInfo := none
  returnsEmpty : Bool := false
  pageable : Bool := false
  /-- The address of the backend, if the service configuration gives one. -/
  hostOverride : Option String := none
  deprecated : Bool := false
deriving DecidableEq, Inhabited

/-! ### Messages -/

/-- The type of a field. -/
inductive FieldKind where
  | undefined | double | float | int64 | uint64 | int32 | fixed64 | fixed32 | bool | string | group
    | message | bytes
  | uint32 | enum | sfixed32 | sfixed64 | sint32 | sint64
deriving DecidableEq, Inhabited

/-- Whether fields of a kind name another type. -/
def FieldKind.referencesType : FieldKind → Bool
  | message | enum | group => true
  | _ => false

/-- What clients may expect of a field. -/
inductive FieldBehavior where
  | optional | required | outputOnly | inputOnly | immutable | unorderedList | nonEmptyDefault
    | identifier
deriving DecidableEq, Inhabited

/-- A field of a message. -/
structure Field where
  id : String := ""
  name : String := ""
  jsonName : String := ""
  documentation : String := ""
  kind : FieldKind := .undefined
  /-- The type that a field of a message, enum or group kind names. -/
  typeId : Option String := none
  repeated : Bool := false
  optional : Bool := false
  map : Bool := false
  isOneOf : Bool := false
  autoPopulated : Bool := false
  behavior : List FieldBehavior := []
  deprecated : Bool := false
deriving DecidableEq, Inhabited

/-- Whether a request must set the field. -/
def Field.isRequired (f : Field) : Bool := f.behavior.contains .required

/-- A group of fields of which at most one is set. -/
structure OneOf where
  id : String := ""
  name : String := ""
  documentation : String := ""
  /-- The ids of the members, in the order of the fields. -/
  fields : List String := []
deriving DecidableEq, Inhabited

/-- A message type. -/
structure Message where
  id : String := ""
  name : String := ""
  package : String := ""
  /-- The message around it, if any. -/
  parent : Option String := none
  documentation : String := ""
  deprecated : Bool := false
  /-- Whether it is the entry of a map field. -/
  isMap : Bool := false
  isPageableResponse : Bool := false
  /-- The field that holds the items of a page. -/
  pageableItem : Option String := none
  fields : List Field := []
  /-- The oneofs that have members. -/
  oneOfs : List OneOf := []
  /-- The ids of the messages inside it. -/
  messages : List String := []
  /-- The ids of the enums inside it. -/
  enums : List String := []
deriving DecidableEq, Inhabited

namespace Message

/-- The first field of a name. -/
def field? (m : Message) (name : String) : Option Field := m.fields.find? (·.name = name)

/-- The first field of an id. -/
def fieldById? (m : Message) (id : String) : Option Field := m.fields.find? (·.id = id)

/-- The members of a oneof that the message has. -/
def oneOfFields (m : Message) (o : OneOf) : List Field := o.fields.filterMap m.fieldById?

end Message

/-! ### Enums -/

/-- A named number of an enum. -/
structure EnumValue where
  name : String := ""
  number : Int32 := 0
  /-- The id of the enum. -/
  parent : String := ""
  documentation : String := ""
  deprecated : Bool := false
deriving DecidableEq, Inhabited

/-- An enum type. -/
structure EnumType where
  id : String := ""
  name : String := ""
  package : String := ""
  /-- The message around it, if any. -/
  parent : Option String := none
  documentation : String := ""
  deprecated : Bool := false
  values : List EnumValue := []
  /-- The positions of one value for each number, in ascending order of the numbers. -/
  uniqueNumberValues : List Nat := []
deriving DecidableEq, Inhabited

/-- One value for each number. -/
def EnumType.uniqueValues (e : EnumType) : List EnumValue :=
  e.uniqueNumberValues.filterMap (e.values[·]?)

end ProtoApi
