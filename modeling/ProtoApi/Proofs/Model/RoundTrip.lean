import ProtoApi.Model.Digest
import ProtoApi.Proofs.Decoder.ReadsBack

namespace ProtoApi

open Decoder (ReadsBack readsBack_string readsBack_boolean readsBack_int32 readsBack_index
  readsBack_strings readsBack_optional readsBack_list readsBack_table readsBack_nameSet
  readsBack_variant readsBack_record)

/-!
# Models are read back from their written form

* `Service.readsBack`, `Method.readsBack` and their likes — every entity is read back from its
  written form. The depth of an entity is the number of containers that stand inside each other in
  it;
* `EnumType.Fits`, `Registry.Fits` — the positions in a model fit 64 bits, as all positions do that
  are ever written;
* `Api.ofText_toJson` — a model is read back from both of its texts.
-/

/-- A text that may be absent is read back. -/
theorem readsBack_possibleString {depth : Nat} (s? : Option String) :
    ReadsBack (Decoder.optional Decoder.string) depth (.ofOption .string s?) s? :=
  readsBack_optional (fun _ => nofun) fun s _ => readsBack_string s

/-! ### Services -/

/-- A piece of a path is an object whose only key says which kind it is. -/
theorem PathSegment.readsBack (s : PathSegment) {depth : Nat} :
    ReadsBack decoder (depth + 1) s.toJson s := by
  have hcontent : ∀ (make : String → PathSegment) (text : String),
      ReadsBack (contentDecoder make) depth (.string text) (make text) :=
    fun make text => ⟨trivial, fun _ _ _ => rfl⟩
  cases s with
  | literal text => exact Decoder.readsBack_tagged (by decide) rfl (hcontent literal text)
  | fieldPath path => exact Decoder.readsBack_tagged (by decide) rfl (hcontent fieldPath path)
  | verb text => exact Decoder.readsBack_tagged (by decide) rfl (hcontent verb text)

/-- A binding holds lists of such pieces. -/
theorem HttpBinding.readsBack (b : HttpBinding) {depth : Nat} :
    ReadsBack decoder (depth + 3) b.toJson b := by
  apply readsBack_record (r := (b.verb, b.path, b.queryParameters, b.body, ())) (by decide)
  refine .field rfl rfl (readsBack_string b.verb) ?_
  refine .field rfl rfl (readsBack_list fun s _ => s.readsBack) ?_
  refine .field rfl rfl (readsBack_nameSet b.queryParameters) ?_
  refine .field rfl rfl (readsBack_possibleString b.body) ?_
  exact .none

/-- A routing parameter holds texts only. -/
theorem RoutingParameter.readsBack (p : RoutingParameter) {depth : Nat} :
    ReadsBack decoder (depth + 1) p.toJson p := by
  apply readsBack_record (r := (p.fieldPath, p.name, p.before, p.matcher, p.after, ())) (by decide)
  refine .field rfl rfl (readsBack_string p.fieldPath) ?_
  refine .field rfl rfl (readsBack_string p.name) ?_
  refine .field rfl rfl (readsBack_string p.before) ?_
  refine .field rfl rfl (readsBack_string p.matcher) ?_
  refine .field rfl rfl (readsBack_string p.after) ?_
  exact .none

theorem OperationInfo.readsBack (o : OperationInfo) {depth : Nat} :
    ReadsBack decoder (depth + 1) o.toJson o := by
  apply readsBack_record (r := (o.metadataType, o.responseType, ())) (by decide)
  refine .field rfl rfl (readsBack_string o.metadataType) ?_
  refine .field rfl rfl (readsBack_string o.responseType) ?_
  exact .none

/-- A method, whose binding stands deepest in it. -/
theorem Method.readsBack (m : Method) {depth : Nat} : ReadsBack decoder (depth + 4) m.toJson m := by
  apply readsBack_record
    (r := (m.id, m.name, m.documentation, m.inputType, m.outputType, m.binding, m.routing,
      m.clientStreaming, m.serverStreaming, m.operationInfo, m.returnsEmpty, m.pageable,
      m.hostOverride, m.deprecated, ()))
    (by decide)
  refine .field rfl rfl (readsBack_string m.id) ?_
  refine .field rfl rfl (readsBack_string m.name) ?_
  refine .field rfl rfl (readsBack_string m.documentation) ?_
  refine .field rfl rfl (readsBack_string m.inputType) ?_
  refine .field rfl rfl (readsBack_string m.outputType) ?_
  refine .field rfl rfl m.binding.readsBack ?_
  refine .field rfl rfl (readsBack_list fun p _ => p.readsBack) ?_
  refine .field rfl rfl (readsBack_boolean m.clientStreaming) ?_
  refine .field rfl rfl (readsBack_boolean m.serverStreaming) ?_
  refine .field rfl rfl (readsBack_optional (fun _ => nofun) fun o _ => o.readsBack) ?_
  refine .field rfl rfl (readsBack_boolean m.returnsEmpty) ?_
  refine .field rfl rfl (readsBack_boolean m.pageable) ?_
  refine .field rfl rfl (readsBack_possibleString m.hostOverride) ?_
  refine .field rfl rfl (readsBack_boolean m.deprecated) ?_
  exact .none

/-- A service, which holds the ids of its methods and not the methods. -/
theorem Service.readsBack (s : Service) {depth : Nat} :
    ReadsBack decoder (depth + 2) s.toJson s := by
  apply readsBack_record
    (r := (s.id, s.name, s.package, s.documentation, s.defaultHost, s.deprecated, s.methods, ()))
    (by decide)
  refine .field rfl rfl (readsBack_string s.id) ?_
  refine .field rfl rfl (readsBack_string s.name) ?_
  refine .field rfl rfl (readsBack_string s.package) ?_
  refine .field rfl rfl (readsBack_string s.documentation) ?_
  refine .field rfl rfl (readsBack_string s.defaultHost) ?_
  refine .field rfl rfl (readsBack_boolean s.deprecated) ?_
  refine .field rfl rfl (readsBack_strings s.methods) ?_
  exact .none

/-! ### Messages -/

/-- The kind of a field is read back from its name. -/
theorem FieldKind.readsBack (k : FieldKind) {depth : Nat} : ReadsBack decoder depth k.toJson k :=
  readsBack_variant k.lookup_name

/-- So is a behaviour. -/
theorem FieldBehavior.readsBack (b : FieldBehavior) {depth : Nat} :
    ReadsBack decoder depth b.toJson b :=
  readsBack_variant b.lookup_name

/-- A field, with the list of its behaviours. -/
theorem Field.readsBack (f : Field) {depth : Nat} : ReadsBack decoder (depth + 2) f.toJson f := by
  apply readsBack_record
    (r := (f.id, f.name, f.jsonName, f.documentation, f.kind, f.typeId, f.repeated, f.optional,
      f.map, f.isOneOf, f.autoPopulated, f.behavior, f.deprecated, ()))
    (by decide)
  refine .field rfl rfl (readsBack_string f.id) ?_
  refine .field rfl rfl (readsBack_string f.name) ?_
  refine .field rfl rfl (readsBack_string f.jsonName) ?_
  refine .field rfl rfl (readsBack_string f.documentation) ?_
  refine .field rfl rfl f.kind.readsBack ?_
  refine .field rfl rfl (readsBack_possibleString f.typeId) ?_
  refine .field rfl rfl (readsBack_boolean f.repeated) ?_
  refine .field rfl rfl (readsBack_boolean f.optional) ?_
  refine .field rfl rfl (readsBack_boolean f.map) ?_
  refine .field rfl rfl (readsBack_boolean f.isOneOf) ?_
  refine .field rfl rfl (readsBack_boolean f.autoPopulated) ?_
  refine .field rfl rfl (readsBack_list fun b _ => b.readsBack) ?_
  refine .field rfl rfl (readsBack_boolean f.deprecated) ?_
  exact .none

theorem OneOf.readsBack (o : OneOf) {depth : Nat} : ReadsBack decoder (depth + 2) o.toJson o := by
  apply readsBack_record (r := (o.id, o.name, o.documentation, o.fields, ())) (by decide)
  refine .field rfl rfl (readsBack_string o.id) ?_
  refine .field rfl rfl (readsBack_string o.name) ?_
  refine .field rfl rfl (readsBack_string o.documentation) ?_
  refine .field rfl rfl (readsBack_strings o.fields) ?_
  exact .none

/-- A message, with its fields and oneofs; the messages inside it are ids. -/
theorem Message.readsBack (m : Message) {depth : Nat} :
    ReadsBack decoder (depth + 4) m.toJson m := by
  apply readsBack_record
    (r := (m.id, m.name, m.package, m.parent, m.documentation, m.deprecated, m.isMap,
      m.isPageableResponse, m.pageableItem, m.fields, m.oneOfs, m.messages, m.enums, ()))
    (by decide)
  refine .field rfl rfl (readsBack_string m.id) ?_
  refine .field rfl rfl (readsBack_string m.name) ?_
  refine .field rfl rfl (readsBack_string m.package) ?_
  refine .field rfl rfl (readsBack_possibleString m.parent) ?_
  refine .field rfl rfl (readsBack_string m.documentation) ?_
  refine .field rfl rfl (readsBack_boolean m.deprecated) ?_
  refine .field rfl rfl (readsBack_boolean m.isMap) ?_
  refine .field rfl rfl (readsBack_boolean m.isPageableResponse) ?_
  refine .field rfl rfl (readsBack_possibleString m.pageableItem) ?_
  refine .field rfl rfl (readsBack_list fun f _ => f.readsBack) ?_
  refine .field rfl rfl (readsBack_list fun o _ => o.readsBack) ?_
  refine .field rfl rfl (readsBack_strings m.messages) ?_
  refine .field rfl rfl (readsBack_strings m.enums) ?_
  exact .none

/-! ### Enums -/

/-- A value of an enum. Its number has 32 bits, so that it fits without a condition. -/
theorem EnumValue.readsBack (v : EnumValue) {depth : Nat} :
    ReadsBack decoder (depth + 1) v.toJson v := by
  apply readsBack_record (r := (v.name, v.number, v.parent, v.documentation, v.deprecated, ()))
    (by decide)
  refine .field rfl rfl (readsBack_string v.name) ?_
  refine .field rfl rfl (readsBack_int32 v.number) ?_
  refine .field rfl rfl (readsBack_string v.parent) ?_
  refine .field rfl rfl (readsBack_string v.documentation) ?_
  refine .field rfl rfl (readsBack_boolean v.deprecated) ?_
  exact .none

/-- The positions in an enum fit 64 bits. -/
def EnumType.Fits (e : EnumType) : Prop := ∀ i ∈ e.uniqueNumberValues, i < UInt64.size

/-- An enum, whose positions are the only numbers that might not fit. -/
theorem EnumType.readsBack {e : EnumType} (h : e.Fits) {depth : Nat} :
    ReadsBack decoder (depth + 3) e.toJson e := by
  apply readsBack_record
    (r := (e.id, e.name, e.package, e.parent, e.documentation, e.deprecated, e.values,
      e.uniqueNumberValues, ()))
    (by decide)
  refine .field rfl rfl (readsBack_string e.id) ?_
  refine .field rfl rfl (readsBack_string e.name) ?_
  refine .field rfl rfl (readsBack_string e.package) ?_
  refine .field rfl rfl (readsBack_possibleString e.parent) ?_
  refine .field rfl rfl (readsBack_string e.documentation) ?_
  refine .field rfl rfl (readsBack_boolean e.deprecated) ?_
  refine .field rfl rfl (readsBack_list fun v _ => v.readsBack) ?_
  refine .field rfl rfl (readsBack_list fun i hi => readsBack_index (h i hi)) ?_
  exact .none

/-! ### The model -/

/-- The positions in all enums fit 64 bits. -/
def Registry.Fits (r : Registry) : Prop := ∀ e ∈ r.enums.values, e.Fits

/-- A registry: each table is an object whose keys are the ids. -/
theorem Registry.readsBack {r : Registry} (h : r.Fits) {depth : Nat} :
    ReadsBack decoder (depth + 6) r.toJson r := by
  apply readsBack_record (r := (r.services, r.methods, r.messages, r.enums, ())) (by decide)
  refine .field rfl rfl (readsBack_table fun s _ => s.readsBack) ?_
  refine .field rfl rfl (readsBack_table fun m _ => m.readsBack) ?_
  refine .field rfl rfl (readsBack_table fun m _ => m.readsBack) ?_
  refine .field rfl rfl (readsBack_table fun e he => EnumType.readsBack (h e he)) ?_
  exact .none

/-- A model is read back at any depth, as long as the positions fit. -/
theorem Api.readsBack {a : Api} (h : a.registry.Fits) {depth : Nat} :
    ReadsBack decoder (depth + 7) a.toJson a := by
  apply readsBack_record
    (r := (a.name, a.packageName, a.title, a.description, a.services, a.messages, a.enums,
      a.registry, ()))
    (by decide)
  refine .field rfl rfl (readsBack_string a.name) ?_
  refine .field rfl rfl (readsBack_string a.packageName) ?_
  refine .field rfl rfl (readsBack_string a.title) ?_
  refine .field rfl rfl (readsBack_string a.description) ?_
  refine .field rfl rfl (readsBack_strings a.services) ?_
  refine .field rfl rfl (readsBack_strings a.messages) ?_
  refine .field rfl rfl (readsBack_strings a.enums) ?_
  refine .field rfl rfl (Registry.readsBack h) ?_
  exact .none

/-- A model whose positions fit 64 bits is read back from both of its texts, so that no other such
    model has the same text, and whatever is read from them has its digest. -/
theorem Api.ofText_toJson {a : Api} (h : a.registry.Fits) :
    decoder.ofText a.toJson.compact = .ok a ∧ decoder.ofText a.toJson.pretty = .ok a ∧
      (∀ b : Api, b.registry.Fits → b.toJson.compact = a.toJson.compact → b = a) ∧
      ∀ b : Api, decoder.ofText a.toJson.compact = .ok b ∨ decoder.ofText a.toJson.pretty = .ok b →
        b.digest = a.digest := by
  have hall : ∀ b : Api, b.registry.Fits →
      decoder.ofText b.toJson.compact = .ok b ∧ decoder.ofText b.toJson.pretty = .ok b := by
    intro b hb
    have hread : ReadsBack decoder 7 b.toJson b := Api.readsBack hb
    exact hread.ofText (by decide)
  obtain ⟨hcompact, hpretty⟩ := hall a h
  refine ⟨hcompact, hpretty, ?_, ?_⟩
  · intro b hb htext
    obtain ⟨hread, -⟩ := hall b hb
    -- The other model is read from the same text, and a text has one content.
    rw [htext, hcompact] at hread
    exact (Except.ok.inj hread).symm
  · rintro b (hread | hread)
    · rw [hcompact] at hread
      rw [Except.ok.inj hread]
    · rw [hpretty] at hread
      rw [Except.ok.inj hread]

/-- A model with texts that have to be escaped, an enum that is registered under another name than
    its own, and the greatest position of all. -/
def oddModel : Api where
  name := "\"\\\x00\n\x7f\u00fc"
  registry := {
    enums := Table.empty.insert "" {
      id := ".odd.Sign"
      values := [{ name := "LEAST", number := -2147483648 }]
      uniqueNumberValues := [0, 18446744073709551615] } }

/-- It is read back all the same. -/
theorem Api.ofText_oddModel :
    oddModel.registry.Fits ∧ decoder.ofText oddModel.toJson.compact = .ok oddModel ∧
      decoder.ofText oddModel.toJson.pretty = .ok oddModel := by
  have h : oddModel.registry.Fits := by
    unfold Registry.Fits EnumType.Fits
    decide
  obtain ⟨hcompact, hpretty, -, -⟩ := Api.ofText_toJson h
  exact ⟨h, hcompact, hpretty⟩

end ProtoApi
