import ProtoApi.Decoder.Record
import ProtoApi.Diagnostic

namespace ProtoApi

open Json (Tree)
open Decoder (string list record)
open Slot (possible orElse)

/-!
# HTTP rules

A rule says by which request a method is called. It stands in the options of the method or in a
service configuration.

* `HttpVerb` — the request methods that can be used, in the order in which a rule is searched for
  them;
* `HttpRule` — a rule; `HttpRule.pattern` is its request method and its path template,
  `HttpRule.bodyField?` its body;
* `HttpRule.decoder` — the reader of a rule;
* `HttpRule.binding` — the binding of a method whose request message is known.
-/

/-- A request method. -/
inductive HttpVerb where
  | get | put | post | delete | patch
deriving DecidableEq

/-- The name of a request method. -/
def HttpVerb.name : HttpVerb → String
  | get => "GET"
  | put => "PUT"
  | post => "POST"
  | delete => "DELETE"
  | patch => "PATCH"

/-- A request method of some other kind. -/
structure CustomPattern where
  kind : String := ""
  path : String := ""
deriving DecidableEq, Inhabited

/-- A rule. -/
structure HttpRule where
  /-- The method that the rule is for, where it stands in a service configuration. -/
  selector : String := ""
  get? : Option String := none
  put? : Option String := none
  post? : Option String := none
  delete? : Option String := none
  patch? : Option String := none
  custom? : Option CustomPattern := none
  body? : Option String := none
  additionalBindings : List HttpRule := []
deriving Inhabited

namespace HttpRule

/-! ### Reading rules -/

/-- Reads a request method of some other kind. -/
def customDecoder : Decoder CustomPattern :=
  record "CustomHttpPattern"
    (.field (orElse "kind" string "") <| .field (orElse "path" string "") .none)
    fun (kind, path, ()) => { kind, path }

/-- Reads a rule whose additional bindings are read by `additional`. -/
def decoderWith (additional : Decoder HttpRule) : Decoder HttpRule :=
  record "HttpRule"
    (.field (orElse "selector" string "") <|
      .field (possible "get" string) <|
      .field (possible "put" string) <|
      .field (possible "post" string) <|
      .field (possible "delete" string) <|
      .field (possible "patch" string) <|
      .field (possible "custom" customDecoder) <|
      .field (possible "body" string) <|
      .field (orElse "additionalBindings" (list additional) [] "additional_bindings") .none)
    fun (selector, get?, put?, post?, delete?, patch?, custom?, body?, additionalBindings, ()) =>
      { selector, get?, put?, post?, delete?, patch?, custom?, body?, additionalBindings }

/-- Reads a rule within some room. An additional binding stands inside two more containers, so that
    where there is no room for them it is never looked at. -/
def decodeWithin (form : Form) : (room : Nat) → Tree → Except DecodeError HttpRule
  | 0, t => decoderWith (fun _ _ _ => .error (.malformed .tooDeep)) form 0 t
  | 1, t => decoderWith (fun _ _ _ => .error (.malformed .tooDeep)) form 1 t
  | room + 2, t => decoderWith (fun _ _ t => decodeWithin form room t) form (room + 2) t

/-- Reads a rule. -/
def decoder : Decoder HttpRule := decodeWithin

/-! ### What a rule says -/

/-- The template of a request method, if the rule has one. -/
def template? (r : HttpRule) : HttpVerb → Option String
  | .get => r.get?
  | .put => r.put?
  | .post => r.post?
  | .delete => r.delete?
  | .patch => r.patch?

/-- The first request method of the rule and its path template. -/
def pattern (r : HttpRule) : Except AnnotationError (HttpVerb × String) :=
  let candidates := [HttpVerb.get, .put, .post, .delete, .patch]
  match candidates.findSome? fun verb => (r.template? verb).map (verb, ·) with
  | some found => .ok found
  | none => .error (.unsupportedVerb (r.custom?.map (·.kind)))

/-- The field that is sent as the body; an empty name is no body. -/
def bodyField? (r : HttpRule) : Option String := r.body?.filter (· ≠ "")

end HttpRule

/-! ### Bindings -/

namespace PathTemplate

/-- The segments of a template, or what is wrong with it. -/
def parse (template : String) : Except AnnotationError (List PathSegment) :=
  (segments template).mapError (.pathTemplate template)

end PathTemplate

/-- The field of the request that a segment is bound to: the first component of its path. -/
def PathSegment.boundField? : PathSegment → Option String
  | fieldPath path => some (String.ofList (path.toList.takeWhile (· ≠ '.')))
  | _ => none

/-- The fields that are neither in the path nor the body. A body of the whole request leaves
    none. -/
def queryParameters (fields : List String) (path : List PathSegment) (body : Option String) :
    NameSet :=
  if body = some "*" then Table.empty
  else
    let bound := path.filterMap PathSegment.boundField?
    NameSet.ofNames (fields.filter fun name => some name ≠ body ∧ name ∉ bound)

/-- The binding of a method whose request is `input`. -/
def HttpRule.binding (r : HttpRule) (input : Message) : Except AnnotationError HttpBinding := do
  let (verb, template) ← r.pattern
  let path ← PathTemplate.parse template
  return {
    verb := verb.name
    path
    queryParameters := ProtoApi.queryParameters (input.fields.map (·.name)) path r.bodyField?
    body := r.bodyField? }

end ProtoApi
