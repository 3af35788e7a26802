import ProtoApi.Model.Registry

namespace ProtoApi

/-!
# Pagination

A list method is called page by page: its request says which page and how many items, its response
says which page is next and holds the items.

* `Message.hasText`, `Field.isPageSize`, `pageableItem?` — the fields that make a pair of messages a
  list call;
* `PageableMethod`, `Registry.pageableMethods` — the list methods of a registry;
* `Registry.markPageable` — marks them and their responses.
-/

/-- Whether a message has a single text field of a JSON name. -/
def Message.hasText (m : Message) (jsonName : String) : Bool :=
  m.fields.any fun f => f.jsonName = jsonName ∧ f.kind = .string ∧ !f.repeated

/-- Whether a field says how many items a page has. -/
def Field.isPageSize (f : Field) : Bool :=
  (f.jsonName = "pageSize" ∨ f.jsonName = "maxResults") ∧ f.kind = .int32 ∧ !f.repeated

/-- The field with the items, if the two messages are those of a list call: the first repeated or
    map field. -/
def pageableItem? (input output : Message) : Option String :=
  if input.hasText "pageToken" && input.fields.any Field.isPageSize
    && output.hasText "nextPageToken" then
    (output.fields.find? fun f => f.repeated || f.map).map (·.id)
  else none

/-- A list method, its response and the field with the items. -/
structure PageableMethod where
  method : String
  output : String
  item : String
deriving DecidableEq

namespace Registry

/-- What makes a method a list method, if it is one. -/
def pageable? (r : Registry) (m : Method) : Option PageableMethod := do
  let input ← r.message? m.inputType
  let output ← r.message? m.outputType
  let item ← pageableItem? input output
  return { method := m.id, output := output.id, item }

/-- The list methods. -/
def pageableMethods (r : Registry) : List PageableMethod := r.methods.values.filterMap r.pageable?

/-- Marks a list method and its response. -/
def markMethod (r : Registry) (p : PageableMethod) : Registry :=
  (r.modifyMethod p.method fun m => { m with pageable := true }).modifyMessage p.output fun m =>
    { m with isPageableResponse := true, pageableItem := some p.item }

/-- Marks all list methods and their responses. -/
def markPageable (r : Registry) : Registry := r.pageableMethods.foldl markMethod r

end Registry

end ProtoApi
