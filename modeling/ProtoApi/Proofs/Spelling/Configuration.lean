import ProtoApi.ServiceConfig
import ProtoApi.Proofs.Spelling.Declarations

namespace ProtoApi

open Decoder (list record_sameOutcome)
open Fields.Follows (leaf records_eq optional_eq)

/-!
# Service configurations that are written in two ways

Nothing of a configuration is kept as it is, so that two ways of writing it are decoded to the same.

* `HttpRule.decoder_sameOutcome` — rules, with their additional bindings;
* `ServiceConfig.decoder_sameOutcome` — whole configurations.
-/

variable {room : Nat} {v v' : Json}

namespace HttpRule

/-- A custom pattern holds two texts. -/
theorem customDecoder_sameOutcome (h : Respelled false room (.record .customPattern) v v') :
    SameOutcome Eq (customDecoder .text room v.toTree) (customDecoder .text room v'.toTree) := by
  refine record_sameOutcome (fun n hn => leaf rfl rfl rfl rfl <| leaf rfl rfl rfl rfl .none) ?_
    (fun _ => rfl) h
  rintro ⟨_, _, _⟩ ⟨_, _, _⟩ ⟨rfl, rfl, _⟩
  rfl

/-- Rules with additional bindings at any depth. -/
theorem decoder_sameOutcome (h : Respelled false room (.record .httpRule) v v') :
    SameOutcome Eq (decoder .text room v.toTree) (decoder .text room v'.toTree) := by
  induction room using Nat.strong_induction_on generalizing v v' with
  | h room ih =>
    obtain ⟨additional, heq, hadditional⟩ := decodeWithin_eq .text room
    show SameOutcome _ (decodeWithin .text room v.toTree) (decodeWithin .text room v'.toTree)
    rw [heq]
    -- Additional bindings stand in a list inside the rule, two levels deeper.
    have hinner : ∀ n, room = n + 1 → ∀ m, n = m + 1 → ∀ v v',
        Respelled false m (.record .httpRule) v v' →
        SameOutcome Eq (additional .text m v.toTree) (additional .text m v'.toTree) := by
      rintro n rfl m rfl v v' h
      rw [hadditional m rfl]
      exact ih m (by omega) h
    unfold decoderWith
    refine record_sameOutcome (k := .httpRule) (fun n hn => leaf rfl rfl rfl rfl <|
      leaf rfl rfl rfl rfl <| leaf rfl rfl rfl rfl <| leaf rfl rfl rfl rfl <|
      leaf rfl rfl rfl rfl <| leaf rfl rfl rfl rfl <|
      optional_eq rfl rfl rfl rfl rfl (fun _ _ h => customDecoder_sameOutcome h) <|
      leaf rfl rfl rfl rfl <| records_eq (hinner n hn) .none) ?_ (fun _ => rfl) h
    rintro ⟨_, _, _, _, _, _, _, _, _, _⟩ ⟨_, _, _, _, _, _, _, _, _, _⟩
      ⟨rfl, rfl, rfl, rfl, rfl, rfl, rfl, rfl, rfl, _⟩
    rfl

end HttpRule

namespace ServiceConfig

/-- The documentation of a configuration holds a text, as each entry of its list of APIs does. -/
theorem documentationDecoder_sameOutcome (h : Respelled false room (.record .documentation) v v') :
    SameOutcome Eq (documentationDecoder .text room v.toTree)
      (documentationDecoder .text room v'.toTree) := by
  refine record_sameOutcome (fun n hn => leaf rfl rfl rfl rfl .none) ?_ (fun _ => rfl) h
  rintro ⟨_, _⟩ ⟨_, _⟩ ⟨rfl, _⟩
  rfl

theorem apiDecoder_sameOutcome (h : Respelled false room (.record .api) v v') :
    SameOutcome Eq (apiDecoder .text room v.toTree) (apiDecoder .text room v'.toTree) := by
  refine record_sameOutcome (fun n hn => leaf rfl rfl rfl rfl .none) ?_ (fun _ => rfl) h
  rintro ⟨_, _⟩ ⟨_, _⟩ ⟨rfl, _⟩
  rfl

/-- The HTTP section holds a list of rules. -/
theorem httpDecoder_sameOutcome (h : Respelled false room (.record .http) v v') :
    SameOutcome Eq (httpDecoder .text room v.toTree) (httpDecoder .text room v'.toTree) := by
  refine record_sameOutcome (fun n hn =>
    records_eq (fun _ _ _ _ h => HttpRule.decoder_sameOutcome h) .none) ?_ (fun _ => rfl) h
  rintro ⟨_, _⟩ ⟨_, _⟩ ⟨rfl, _⟩
  rfl

/-- The backend section holds a list of rules with two texts each. -/
theorem backendRuleDecoder_sameOutcome (h : Respelled false room (.record .backendRule) v v') :
    SameOutcome Eq (backendRuleDecoder .text room v.toTree)
      (backendRuleDecoder .text room v'.toTree) := by
  refine record_sameOutcome (fun n hn => leaf rfl rfl rfl rfl <| leaf rfl rfl rfl rfl .none) ?_
    (fun _ => rfl) h
  rintro ⟨_, _, _⟩ ⟨_, _, _⟩ ⟨rfl, rfl, _⟩
  rfl

theorem backendDecoder_sameOutcome (h : Respelled false room (.record .backend) v v') :
    SameOutcome Eq (backendDecoder .text room v.toTree) (backendDecoder .text room v'.toTree) := by
  refine record_sameOutcome (fun n hn =>
    records_eq (fun _ _ _ _ h => backendRuleDecoder_sameOutcome h) .none) ?_ (fun _ => rfl) h
  rintro ⟨_, _⟩ ⟨_, _⟩ ⟨rfl, _⟩
  rfl

/-- The settings of a method hold its selector and the fields that are filled in. -/
theorem methodSettingsDecoder_sameOutcome
    (h : Respelled false room (.record .methodSettings) v v') :
    SameOutcome Eq (methodSettingsDecoder .text room v.toTree)
      (methodSettingsDecoder .text room v'.toTree) := by
  refine record_sameOutcome (fun n hn => leaf rfl rfl rfl rfl <| leaf rfl rfl rfl rfl .none) ?_
    (fun _ => rfl) h
  rintro ⟨_, _, _⟩ ⟨_, _, _⟩ ⟨rfl, rfl, _⟩
  rfl

/-- The publishing section holds a list of settings. -/
theorem publishingDecoder_sameOutcome (h : Respelled false room (.record .publishing) v v') :
    SameOutcome Eq (publishingDecoder .text room v.toTree)
      (publishingDecoder .text room v'.toTree) := by
  refine record_sameOutcome (fun n hn =>
    records_eq (fun _ _ _ _ h => methodSettingsDecoder_sameOutcome h) .none) ?_ (fun _ => rfl) h
  rintro ⟨_, _⟩ ⟨_, _⟩ ⟨rfl, _⟩
  rfl

/-- Configurations that are written in two ways are decoded to the same, or not at all. -/
theorem decoder_sameOutcome (h : Respelled false room (.record .serviceConfig) v v') :
    SameOutcome Eq (decoder .text room v.toTree) (decoder .text room v'.toTree) := by
  refine record_sameOutcome (fun n hn => leaf rfl rfl rfl rfl <| leaf rfl rfl rfl rfl <|
    optional_eq rfl rfl rfl rfl rfl (fun _ _ h => documentationDecoder_sameOutcome h) <|
    records_eq (fun _ _ _ _ h => apiDecoder_sameOutcome h) <|
    optional_eq rfl rfl rfl rfl rfl (fun _ _ h => httpDecoder_sameOutcome h) <|
    optional_eq rfl rfl rfl rfl rfl (fun _ _ h => backendDecoder_sameOutcome h) <|
    optional_eq rfl rfl rfl rfl rfl (fun _ _ h => publishingDecoder_sameOutcome h) .none) ?_
      (fun _ => rfl) h
  rintro ⟨_, _, _, _, _, _, _, _⟩ ⟨_, _, _, _, _, _, _, _⟩ ⟨rfl, rfl, rfl, rfl, rfl, rfl, rfl, _⟩
  rfl

end ServiceConfig

end ProtoApi
