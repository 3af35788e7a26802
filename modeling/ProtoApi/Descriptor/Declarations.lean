import ProtoApi.Json.Value

namespace ProtoApi

/-!
# Declarations of a descriptor set

What a descriptor set declares, as far as a model is made of it. Whatever a file leaves open is
nothing here; functions without a question mark fill in the empty value.

* `Options` — options by name; extensions stand under their name in brackets;
* `EnumLiteral` — an enum constant, given by name or by number;
* `FieldDecl`, `OneofDecl`, `MessageDecl`, `EnumDecl`, `EnumValueDecl`, `MethodDecl`, `ServiceDecl`
  — declarations;
* `Location` — a comment and the path of the declaration that it belongs to;
* `FileDecl`, `DescriptorSet` — files.
-/

/-- Options by name. -/
abbrev Options := Table Json

/-- An enum constant, given by name or by number. -/
inductive EnumLiteral where
  | name (s : String)
  | number (n : Int32)
deriving DecidableEq

/-- An enum constant as it is given. -/
def EnumLiteral.text : EnumLiteral → String
  | name s => s
  | number n => toString n.toInt

/-- A field of a message. -/
structure FieldDecl where
  name? : Option String := none
  number? : Option Int32 := none
  label? : Option EnumLiteral := none
  kind? : Option EnumLiteral := none
  typeName? : Option String := none
  jsonName? : Option String := none
  options? : Option Options := none
  /-- The position of the oneof that the field belongs to. -/
  oneofIndex? : Option Int32 := none
  proto3Optional? : Option Bool := none
deriving Inhabited

namespace FieldDecl

/-- The name of the field. -/
def name (f : FieldDecl) : String := f.name?.getD ""

/-- Whether the field is labelled repeated. -/
def isRepeated (f : FieldDecl) : Bool :=
  f.label? = some (.name "LABEL_REPEATED") || f.label? = some (.number 3)

/-- Whether the field tells an unset value from an empty one. -/
def isProto3Optional (f : FieldDecl) : Bool := f.proto3Optional?.getD false

end FieldDecl

/-- A oneof of a message. -/
structure OneofDecl where
  name? : Option String := none
deriving Inhabited

/-- The name of the oneof. -/
def OneofDecl.name (o : OneofDecl) : String := o.name?.getD ""

/-- A value of an enum. -/
structure EnumValueDecl where
  name? : Option String := none
  number? : Option Int32 := none
  options? : Option Options := none
deriving Inhabited

namespace EnumValueDecl

/-- The name of the value. -/
def name (v : EnumValueDecl) : String := v.name?.getD ""

/-- The number of the value. -/
def number (v : EnumValueDecl) : Int32 := v.number?.getD 0

end EnumValueDecl

/-- An enum. -/
structure EnumDecl where
  name? : Option String := none
  values : List EnumValueDecl := []
  options? : Option Options := none
deriving Inhabited

/-- The name of the enum. -/
def EnumDecl.name (e : EnumDecl) : String := e.name?.getD ""

/-- A message, with the types declared inside it. -/
structure MessageDecl where
  name? : Option String := none
  fields : List FieldDecl := []
  nested : List MessageDecl := []
  enums : List EnumDecl := []
  oneofs : List OneofDecl := []
  options? : Option Options := none
deriving Inhabited

namespace MessageDecl

/-- The name of the message. -/
def name (m : MessageDecl) : String := m.name?.getD ""

/-- Whether the message is the entry of a map field. -/
def isMapEntry (m : MessageDecl) : Bool :=
  match m.options? with
  | some options =>
    (((options.get? "mapEntry").or (options.get? "map_entry")).bind Json.boolean?).getD false
  | none => false

end MessageDecl

/-- A method of a service. -/
structure MethodDecl where
  name? : Option String := none
  inputType? : Option String := none
  outputType? : Option String := none
  clientStreaming? : Option Bool := none
  serverStreaming? : Option Bool := none
  options? : Option Options := none
deriving Inhabited

namespace MethodDecl

/-- The name of the method. -/
def name (m : MethodDecl) : String := m.name?.getD ""

/-- The id of the request type. -/
def inputType (m : MethodDecl) : String := m.inputType?.getD ""

/-- The id of the response type. -/
def outputType (m : MethodDecl) : String := m.outputType?.getD ""

end MethodDecl

/-- A service. -/
structure ServiceDecl where
  name? : Option String := none
  methods : List MethodDecl := []
  options? : Option Options := none
deriving Inhabited

/-- The name of the service. -/
def ServiceDecl.name (s : ServiceDecl) : String := s.name?.getD ""

/-- A comment and the path of the declaration it belongs to: field numbers of the descriptor format,
    each but the last followed by a position. -/
structure Location where
  path : List Int32 := []
  leadingComments? : Option String := none
deriving DecidableEq, Inhabited

/-- A file. -/
structure FileDecl where
  name? : Option String := none
  package? : Option String := none
  messages : List MessageDecl := []
  enums : List EnumDecl := []
  services : List ServiceDecl := []
  options? : Option Options := none
  /-- The comments of the file. -/
  sourceInfo? : Option (List Location) := none
deriving Inhabited

namespace FileDecl

/-- The name of the file. -/
def name (f : FileDecl) : String := f.name?.getD ""

/-- The package of the file. -/
def package (f : FileDecl) : String := f.package?.getD ""

end FileDecl

/-- A set of files. -/
structure DescriptorSet where
  files : List FileDecl := []
deriving Inhabited

/-- The first file of a name. -/
def DescriptorSet.findFile? (s : DescriptorSet) (name : String) : Option FileDecl :=
  s.files.find? (·.name = name)

end ProtoApi
