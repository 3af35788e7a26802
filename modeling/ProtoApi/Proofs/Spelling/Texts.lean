import ProtoApi.Proofs.Spelling.Building
import ProtoApi.Proofs.Spelling.Configuration

namespace ProtoApi

open Decoder (nestingLimit)

/-!
# Texts that are written in two ways

* `Json.IsWrittenAs` — a text of a value;
* `parseDescriptorSet_of_isWrittenAs`, `parseServiceConfig_of_isWrittenAs` — what is parsed is the
  value that was written, so that how its records are written makes no difference to a build;
* `Json.nest`, `respelled_notedRule` — but what has come into an extension must not be too deep.
-/

/-- A text of a value. -/
def Json.IsWrittenAs (v : Json) (text : String) : Prop :=
  Json.Document.ofText text = ⟨v.toTree, false⟩

section Parsing

variable {v v' : Json} {text text' : String}

/-- Decoding a text of a value is decoding the value. -/
theorem Decoder.ofText_of_isWrittenAs {α : Type} (d : Decoder α) (h : v.IsWrittenAs text) :
    d.ofText text = d .text nestingLimit v.toTree := by
  unfold Decoder.ofText
  rw [h]
  dsimp only
  cases d .text nestingLimit v.toTree <;> rfl

/-- So it is for a descriptor set. -/
theorem parseDescriptorSet_of_isWrittenAs (h : v.IsWrittenAs text) :
    parseDescriptorSet text
      = (DescriptorSet.decoder .text nestingLimit v.toTree).mapError .descriptorJson := by
  unfold parseDescriptorSet
  rw [Decoder.ofText_of_isWrittenAs _ h]

/-- So it is for a service configuration. -/
theorem parseServiceConfig_of_isWrittenAs (h : v.IsWrittenAs text) :
    parseServiceConfig text
      = (ServiceConfig.decoder .text nestingLimit v.toTree).mapError .serviceConfigJson := by
  unfold parseServiceConfig
  rw [Decoder.ofText_of_isWrittenAs _ h]

/-- Two texts of a descriptor set that differ in how records are written are both refused, or both
    make the same model and the same diagnostics. Two such texts of a service configuration are both
    refused, or both hold the same configuration. -/
theorem parse_of_respelled (htext : v.IsWrittenAs text) (htext' : v'.IsWrittenAs text') :
    (Respelled false nestingLimit (.record .descriptorSet) v v' →
      ((∃ e, parseDescriptorSet text = .error e) ∧ ∃ e, parseDescriptorSet text' = .error e) ∨
        ∃ set set', parseDescriptorSet text = .ok set ∧ parseDescriptorSet text' = .ok set' ∧
          ∀ options, buildApi set options = buildApi set' options) ∧
    (Respelled false nestingLimit (.record .serviceConfig) v v' →
      ((∃ e, parseServiceConfig text = .error e) ∧ ∃ e, parseServiceConfig text' = .error e) ∨
        ∃ config, parseServiceConfig text = .ok config ∧
        parseServiceConfig text' = .ok config) := by
  rw [parseDescriptorSet_of_isWrittenAs htext, parseDescriptorSet_of_isWrittenAs htext',
    parseServiceConfig_of_isWrittenAs htext, parseServiceConfig_of_isWrittenAs htext']
  constructor
  · intro h
    have hsame := (DescriptorSet.decoder_sameOutcome h).mapError (f := BuildError.descriptorJson)
    rcases hsame.errors_or_results with herrors | ⟨set, set', hset, hset', halike⟩
    · exact Or.inl herrors
    · exact Or.inr ⟨set, set', hset, hset', buildApi_congr halike⟩
  · intro h
    have hsame := (ServiceConfig.decoder_sameOutcome h).mapError (f := BuildError.serviceConfigJson)
    rcases hsame.errors_or_results with herrors | ⟨config, _, hok, hok', rfl⟩
    · exact Or.inl herrors
    · exact Or.inr ⟨config, hok, hok'⟩

end Parsing

/-! ### A rule that is written in another way -/

namespace Respelled

variable {kept : Bool} {room : Nat} {k : RecordKind} {v v' : Json}

/-- A record with one member. -/
theorem member {f : KnownField} (h : Respelled kept room f.shape v v') (hf : f ∈ k.fields)
    {key key' : String} (hkey : f.answers key = true) (hkey' : f.answers key' = true) :
    Respelled kept (room + 1) (.record k) (.object [(key, v)]) (.object [(key', v')]) := by
  refine @Respelled.object kept (room + 1) k [⟨f, key, key', v, v'⟩] [] [] _ _ ?_ ?_ ?_ nofun nofun
    (.refl _) (.refl _)
  · rw [List.forall_mem_singleton]
    exact ⟨hf, hkey, hkey'⟩
  · exact List.nodup_singleton f
  · rw [List.forall_mem_singleton]
    exact h

/-- A record with one member, under its JSON name. -/
theorem label {f : KnownField} (h : Respelled kept room f.shape v v') (hf : f ∈ k.fields) :
    Respelled kept (room + 1) (.record k) (.object [(f.label, v)]) (.object [(f.label, v')]) :=
  h.member hf (by simp [KnownField.answers]) (by simp [KnownField.answers])

/-- A list with one record. -/
theorem singleton (h : Respelled kept room (.record k) v v') :
    Respelled kept (room + 1) (.records k) (.array [v]) (.array [v']) := by
  refine @Respelled.records kept (room + 1) k [(v, v')] ?_
  rw [List.forall_mem_singleton]
  exact h

end Respelled

/-- A set with one method that has an HTTP rule. -/
def ruledSet (rule : Json) : Json :=
  .object [("file", .array [
    .object [("service", .array [
      .object [("method", .array [
        .object [("options", .object [("[google.api.http]", rule)])]])]])]])]

/-- Two ways of writing the rule are two ways of writing the set, eight levels further out. -/
theorem respelled_ruledSet {room : Nat} {rule rule' : Json}
    (h : Respelled true room (.record .httpRule) rule rule') :
    Respelled false (room + 8) (.record .descriptorSet) (ruledSet rule) (ruledSet rule') := by
  have hoptions : Respelled false (room + 1) .options (.object [("[google.api.http]", rule)])
      (.object [("[google.api.http]", rule')]) := by
    refine @Respelled.options (room + 1) [("[google.api.http]", rule, rule')] ?_
    rw [List.forall_mem_singleton]
    exact h
  -- Each record around the options has one member, and each list one record.
  have hmethod :=
    hoptions.label (k := .method) (f := { label := "options", shape := .options }) (by decide)
  have hservice := hmethod.singleton.label (k := .service)
    (f := { label := "method", shape := .records .method }) (by decide)
  have hfile := hservice.singleton.label (k := .file)
    (f := { label := "service", shape := .records .service }) (by decide)
  exact hfile.singleton.label (k := .descriptorSet)
    (f := { label := "file", shape := .records .file }) (by decide)

/-- A rule with one additional binding. -/
def ruleBefore : Json :=
  .object [("get", .string "/v1"),
    ("additionalBindings", .array [.object [("get", .string "/v2")]])]

/-- The same rule, with the other name of a field, in another order and with a note. -/
def ruleAfter : Json :=
  .object [("note", .null), ("additional_bindings", .array [.object [("get", .string "/v2")]]),
    ("get", .string "/v1")]

/-- The two rules differ only in what the format allows. -/
theorem respelled_rule (room : Nat) :
    Respelled true (room + 1) (.record .httpRule) ruleBefore ruleAfter := by
  refine @Respelled.object true (room + 1) .httpRule
    [⟨{ label := "get" }, "get", "get", .string "/v1", .string "/v1"⟩,
      ⟨{ label := "additionalBindings", second? := "additional_bindings",
         shape := .records .httpRule },
        "additionalBindings", "additional_bindings", .array [.object [("get", .string "/v2")]],
        .array [.object [("get", .string "/v2")]]⟩]
    [] [("note", .null)] _ _ ?_ (by decide) ?_ nofun ?_ (.refl _) ?_
  · rw [List.forall_mem_cons, List.forall_mem_singleton]
    exact ⟨⟨by decide, by decide, by decide⟩, by decide, by decide, by decide⟩
  · rw [List.forall_mem_cons, List.forall_mem_singleton]
    exact ⟨.same _, .same _⟩
  · rw [List.forall_mem_singleton]
    exact ⟨by decide, fun _ => Nat.succ_pos room⟩
  · exact List.reverse_perm [_, _, _]

/-- The set holds no numbers but those of its rule. -/
theorem plain_ruledSet {rule : Json} (h : rule.Plain) : (ruledSet rule).Plain := by
  simp [ruledSet, Json.Plain, Json.PlainItems, Json.PlainMembers, h]

theorem plain_ruleBefore : (ruledSet ruleBefore).Plain :=
  plain_ruledSet (by simp [ruleBefore, Json.Plain, Json.PlainItems, Json.PlainMembers])

theorem plain_ruleAfter : (ruledSet ruleAfter).Plain :=
  plain_ruledSet (by simp [ruleAfter, Json.Plain, Json.PlainItems, Json.PlainMembers])

/-- A configuration with settings for publishing, which stand under some key. -/
def settingsUnder (key : String) : Json := .object [("publishing", .object [(key, .array [])])]

theorem plain_settingsUnder (key : String) : (settingsUnder key).Plain := by
  simp [settingsUnder, Json.Plain, Json.PlainItems, Json.PlainMembers]

/-- Both names of the settings are known. -/
theorem respelled_settingsUnder (room : Nat) :
    Respelled false (room + 2) (.record .serviceConfig) (settingsUnder "methodSettings")
      (settingsUnder "method_settings") := by
  have hsettings :
      Respelled false (room + 1) (.record .publishing) (.object [("methodSettings", .array [])])
      (.object [("method_settings", .array [])]) :=
    Respelled.member (.same _)
      (f := { label := "methodSettings", second? := "method_settings",
              shape := .records .methodSettings })
      (by decide) (by decide) (by decide)
  exact hsettings.label (k := .serviceConfig)
    (f := { label := "publishing", shape := .record .publishing }) (by decide)

/-- The two rules make the same model, and the two ways of writing settings hold the same. -/
theorem parse_of_respelled_rule :
    Respelled false nestingLimit (.record .descriptorSet) (ruledSet ruleBefore)
      (ruledSet ruleAfter) ∧
    (∃ set set', parseDescriptorSet (ruledSet ruleBefore).compact = .ok set ∧
      parseDescriptorSet (ruledSet ruleAfter).compact = .ok set' ∧
      ∀ options, buildApi set options = buildApi set' options) ∧
    ∃ config, parseServiceConfig (settingsUnder "methodSettings").compact = .ok config ∧
      parseServiceConfig (settingsUnder "method_settings").compact = .ok config := by
  have hbefore : (ruledSet ruleBefore).IsWrittenAs _ := Json.ofText_compact plain_ruleBefore
  have hafter : (ruledSet ruleAfter).IsWrittenAs _ := Json.ofText_compact plain_ruleAfter
  have hcamel : (settingsUnder "methodSettings").IsWrittenAs _ :=
    Json.ofText_compact (plain_settingsUnder _)
  have hsnake : (settingsUnder "method_settings").IsWrittenAs _ :=
    Json.ofText_compact (plain_settingsUnder _)
  have hrespelled : Respelled false nestingLimit (.record .descriptorSet) (ruledSet ruleBefore)
      (ruledSet ruleAfter) :=
    respelled_ruledSet (respelled_rule 118)
  refine ⟨hrespelled, ?_, ?_⟩
  · refine ((parse_of_respelled hbefore hafter).1 hrespelled).resolve_left ?_
    rintro ⟨⟨e, he⟩, -⟩
    -- One of the two texts is parsed, so it is not that both are refused.
    have hok : (parseDescriptorSet (ruledSet ruleBefore).compact).isOk = true := by
      rw [parseDescriptorSet_of_isWrittenAs hbefore]
      decide +kernel
    rw [he] at hok
    cases hok
  · refine ((parse_of_respelled hcamel hsnake).2 (respelled_settingsUnder 125)).resolve_left ?_
    rintro ⟨⟨e, he⟩, -⟩
    have hok : (parseServiceConfig (settingsUnder "methodSettings").compact).isOk = true := by
      rw [parseServiceConfig_of_isWrittenAs hcamel]
      decide +kernel
    rw [he] at hok
    cases hok

/-! ### A note that is too deep -/

/-- A list inside a list, and so on. -/
def Json.nest : Nat → Json
  | 0 => .null
  | depth + 1 => .array [nest depth]

/-- Such a list is as high as it is deep. -/
theorem Json.height_nest (depth : Nat) : (nest depth).height = depth := by
  induction depth with
  | zero => rfl
  | succ depth ih => simp [nest, height, itemsHeight, ih]

theorem Json.plain_nest (depth : Nat) : (nest depth).Plain := by
  induction depth with
  | zero => trivial
  | succ depth ih => exact ⟨ih, trivial⟩

/-- A rule with a note. -/
def notedRule (note : Json) : Json := .object [("get", .string "/v1"), ("note", note)]

/-- A rule without one. -/
def bareRule : Json := .object [("get", .string "/v1")]

/-- If there were room for it, a note of any depth might come in. -/
theorem respelled_notedRule {depth room : Nat} (h : depth ≤ room) :
    Respelled true (room + 1) (.record .httpRule) bareRule (notedRule (.nest depth)) := by
  refine @Respelled.object true (room + 1) .httpRule
    [⟨{ label := "get" }, "get", "get", .string "/v1", .string "/v1"⟩]
    [] [("note", .nest depth)] _ _ ?_ (by decide) ?_ nofun ?_ (.refl _) (.refl _)
  · rw [List.forall_mem_singleton]
    exact ⟨by decide, by decide, by decide⟩
  · rw [List.forall_mem_singleton]
    exact .same _
  · rw [List.forall_mem_singleton, Json.height_nest]
    -- The format knows no note, and what is kept of it must fit the room.
    have hunknown : RecordKind.httpRule.knows "note" = false := by decide
    exact ⟨hunknown, fun _ => Nat.lt_succ_of_le h⟩

/-- A text is refused for a note inside a rule that is too deep, though the rule would do without
    it. -/
theorem parse_error_of_deep_note :
    Respelled false 1000 (.record .descriptorSet) (ruledSet bareRule)
      (ruledSet (notedRule (.nest 200))) ∧
    (ruledSet bareRule).IsWrittenAs (ruledSet bareRule).compact ∧
    (ruledSet (notedRule (.nest 200))).IsWrittenAs (ruledSet (notedRule (.nest 200))).compact ∧
    (∃ set, parseDescriptorSet (ruledSet bareRule).compact = .ok set) ∧
    ∃ e, parseDescriptorSet (ruledSet (notedRule (.nest 200))).compact = .error e := by
  have hbarePlain : bareRule.Plain := by simp [bareRule, Json.Plain, Json.PlainMembers]
  have hnotedPlain : (notedRule (.nest 200)).Plain := by
    simp [notedRule, Json.Plain, Json.PlainMembers, Json.plain_nest]
  have hbare : (ruledSet bareRule).IsWrittenAs _ := Json.ofText_compact (plain_ruledSet hbarePlain)
  have hnoted : (ruledSet (notedRule (.nest 200))).IsWrittenAs _ :=
    Json.ofText_compact (plain_ruledSet hnotedPlain)
  refine ⟨respelled_ruledSet (@respelled_notedRule 200 991 (by decide)), hbare, hnoted,
    exists_eq_ok_of_isOk ?_, exists_eq_error_of_isOk ?_⟩
  · rw [parseDescriptorSet_of_isWrittenAs hbare]
    decide +kernel
  · rw [parseDescriptorSet_of_isWrittenAs hnoted]
    decide +kernel

end ProtoApi
