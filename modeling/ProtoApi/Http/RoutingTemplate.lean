import ProtoApi.Model.Entities

namespace ProtoApi.RoutingTemplate

/-!
# Routing templates

A routing template holds exactly one variable in braces, a name or a name and a matcher on the two
sides of an equals sign. Literal text may stand in front of it and behind it.

* `Fault` — what is wrong with a template, worded by `Fault.text`;
* `parameter` — the routing parameter that a template makes of a field;
* `render` — the template of a parameter.
-/

/-- What is wrong with a template. -/
inductive Fault where
  | noVariable
  /-- The variable is not closed. -/
  | openVariable
  /-- A closing brace in front of the variable, or an opening one inside it. -/
  | unbalancedBraces
  | moreVariables
  | emptyVariable
deriving DecidableEq, Repr

/-- The wording of a fault. -/
def Fault.text : Fault → String
  | noVariable => "no variable"
  | openVariable => "unbalanced `\x7b`"
  | unbalancedBraces => "unbalanced braces"
  | moreVariables => "more than one variable"
  | emptyVariable => "empty variable"

/-- Cuts a text in front of the first `mark`; nothing if there is none. -/
def cutAt? (mark : Char) (cs : List Char) : Option (List Char × List Char) :=
  match cs.dropWhile (· ≠ mark) with
  | [] => none
  | _ :: rest => some (cs.takeWhile (· ≠ mark), rest)

/-- The name and the matcher of a variable. A name alone matches one piece of a path. -/
def nameAndMatcher (inner : List Char) : List Char × List Char :=
  (cutAt? '=' inner).getD (inner, ['*'])

/-- The parameter that a template makes of a field. The empty template sends the whole field under
    its own name. -/
def parameter (field template : String) : Except Fault RoutingParameter :=
  if template.isEmpty then .ok { fieldPath := field, name := field, matcher := "**" }
  else
    match cutAt? '{' template.toList with
    | none => .error .noVariable
    | some (before, rest) =>
      match cutAt? '}' rest with
      | none => .error .openVariable
      | some (inner, after) =>
        if '}' ∈ before ∨ '{' ∈ inner then .error .unbalancedBraces
        else if '{' ∈ after ∨ '}' ∈ after then .error .moreVariables
        else
          let (name, matcher) := nameAndMatcher inner
          if name.isEmpty ∨ matcher.isEmpty then .error .emptyVariable
          else .ok {
            fieldPath := field
            name := String.ofList name
            before := String.ofList before
            matcher := String.ofList matcher
            after := String.ofList after }

/-- The template of a parameter, with its matcher. -/
def render (p : RoutingParameter) : String :=
  p.before ++ "\x7b" ++ p.name ++ "=" ++ p.matcher ++ "\x7d" ++ p.after

/-! ### Unit test: a parameter between literal texts -/

/-- The parameter of `projects/{project=*}/**` for the field `name`. -/
def sample : RoutingParameter where
  fieldPath := "name"
  name := "project"
  before := "projects/"
  matcher := "*"
  after := "/**"

example : (parameter "name" (render sample)).toOption = some sample := by decide +kernel

end ProtoApi.RoutingTemplate
