import ProtoApi.Build.Methods
import ProtoApi.Proofs.Except

namespace ProtoApi

/-!
# What building a method gives

* `MethodDecl.chosenRule` — the HTTP rule that a method is bound by;
* `MethodDecl.bound` — the method of a declaration, once its binding and routing are known;
* `buildMethod_eq_ok_iff` — when a method can be built, and what it is then.
-/

namespace MethodDecl

/-- The rule that is given from outside, or else that of the declaration itself. -/
def chosenRule (decl : MethodDecl) (rule? : Option HttpRule) : Except AnnotationError HttpRule :=
  match rule? with
  | some rule => .ok rule
  | none => (httpRule? decl.options?).getD (.error .missingHttpRule)

/-- The method of a declaration with a binding and a routing. -/
def bound (decl : MethodDecl) (id package : String) (binding : HttpBinding)
    (routing : List RoutingParameter) : Method where
  id
  name := decl.name
  inputType := decl.inputType
  outputType := decl.outputType
  binding
  routing
  clientStreaming := decl.clientStreaming?.getD false
  serverStreaming := decl.serverStreaming?.getD false
  operationInfo :=
      if decl.outputType = operationType then operationInfo? package decl.options? else none
  returnsEmpty := decl.outputType = emptyType
  deprecated := isDeprecated decl.options?

end MethodDecl

/-- The steps of building a method, one after the other. -/
theorem buildMethod_eq (r : Registry) (decl : MethodDecl) (id package : String)
    (rule? : Option HttpRule) :
    buildMethod r decl id package rule? = (do
      let rule ← decl.chosenRule rule?
      let input ← (r.message? decl.inputType).elim (.error (.unresolvedType decl.inputType)) .ok
      if r.resolvesType decl.outputType then
        let binding ← rule.binding input
        let routing ← routing decl.options?
        return decl.bound id package binding routing
      else .error (.unresolvedType decl.outputType)) := by
  unfold buildMethod MethodDecl.chosenRule
  -- The rule is chosen first, and only a declaration without a rule from outside may lack one.
  cases rule? with
  | none =>
    cases httpRule? decl.options? with
    | none => rfl
    | some rule =>
      cases rule with
      | error e => rfl
      | ok rule =>
        cases r.message? decl.inputType <;> cases r.resolvesType decl.outputType <;> rfl
  | some rule => cases r.message? decl.inputType <;> cases r.resolvesType decl.outputType <;> rfl

/-- A method is built if it has a rule, its types are registered and the rule and its routing can be
    read. -/
theorem buildMethod_eq_ok_iff {r : Registry} {decl : MethodDecl} {id package : String}
    {rule? : Option HttpRule} {m : Method} :
    buildMethod r decl id package rule? = .ok m ↔
      ∃ rule input binding parameters, decl.chosenRule rule? = .ok rule ∧
        r.message? decl.inputType = some input ∧ r.resolvesType decl.outputType = true ∧
        rule.binding input = .ok binding ∧ routing decl.options? = .ok parameters ∧
        decl.bound id package binding parameters = m := by
  rw [buildMethod_eq]
  constructor
  · intro h
    obtain ⟨rule, hrule, h⟩ := bind_eq_ok_iff.1 h
    obtain ⟨input, hinput, h⟩ := bind_eq_ok_iff.1 h
    split at h
    · next hout =>
      obtain ⟨binding, hbinding, h⟩ := bind_eq_ok_iff.1 h
      obtain ⟨parameters, hrouting, h⟩ := bind_eq_ok_iff.1 h
      -- The message that was found is the one that the binding has been read for.
      cases hm : r.message? decl.inputType with
      | none =>
        rw [hm] at hinput
        cases hinput
      | some input' =>
        rw [hm] at hinput
        cases hinput
        cases h
        exact ⟨rule, input, binding, parameters, hrule, rfl, hout, hbinding, hrouting, rfl⟩
    · cases h
  · rintro ⟨rule, input, binding, parameters, hrule, hinput, hout, hbinding, hrouting, rfl⟩
    rw [hrule, hinput, hout]
    show (rule.binding input >>= _) = _
    rw [hbinding]
    show (routing decl.options? >>= _) = _
    rw [hrouting]
    rfl

end ProtoApi
