import ProtoApi.Descriptor.Format
import ProtoApi.Proofs.Spelling.Extensions

namespace ProtoApi

open Json (Tree memberTrees itemTrees)

/-!
# Options that are written in two ways

* `Options.Alike` — options with aligned values under the same names;
* `isDeprecated_congr` and its like — they say the same;
* `optionsSlot_sameOutcome` — this is what is kept of two ways of writing options.
-/

namespace Options

/-- Options that hold aligned values under the same names. -/
def Alike (o o' : Option Options) : Prop :=
  ∀ key, Option.Rel (Aligned (extensionShape key)) (o.bind (·.get? key)) (o'.bind (·.get? key))

variable {o o' : Option Options}

/-- Options hold the values that they hold. -/
theorem Alike.refl (o : Option Options) : Alike o o := by
  intro key
  cases o.bind (·.get? key) with
  | none => exact .none
  | some v => exact .some (.same v)

/-- A value without records is the same. -/
theorem Alike.get?_eq (h : Alike o o') {key : String} (hkey : extensionShape key = .leaf) :
    o.bind (·.get? key) = o'.bind (·.get? key) := by
  have hkey' := h key
  rw [hkey] at hkey'
  generalize o.bind (·.get? key) = v? at hkey' ⊢
  generalize o'.bind (·.get? key) = v?' at hkey' ⊢
  cases hkey' with
  | none => rfl
  | some haligned =>
    cases haligned with
    | same => rfl

/-- An extension is decoded to the same. -/
theorem Alike.decodeExtension?_eq (h : Alike o o') {name : String} {shape : Shape}
    (hshape : extensionShape ("[" ++ name ++ "]") = shape) {α : Type} {d : Decoder α}
    (hd : ∀ room room', Decoder.Twin room room' shape d d) :
    decodeExtension? d o name = decodeExtension? d o' name := by
  have hkey := h ("[" ++ name ++ "]")
  rw [hshape] at hkey
  unfold decodeExtension? extension?
  generalize o.bind (·.get? ("[" ++ name ++ "]")) = v? at hkey ⊢
  generalize o'.bind (·.get? ("[" ++ name ++ "]")) = v?' at hkey ⊢
  cases hkey with
  | none => rfl
  | some haligned => rw [Option.map_some, Option.map_some, Decoder.ofValue_eq_of_twin hd haligned]

end Options

/-! ### What options say -/

section Annotations

variable {o o' : Option Options}

/-- What is said without a record is the same, here the deprecation. -/
theorem isDeprecated_congr (h : Options.Alike o o') : isDeprecated o = isDeprecated o' := by
  unfold isDeprecated
  rw [h.get?_eq (by decide)]

/-- So is the host of a service. -/
theorem defaultHost_congr (h : Options.Alike o o') : defaultHost o = defaultHost o' := by
  unfold defaultHost extension?
  rw [h.get?_eq (by decide)]

/-- So are the behaviours of a field. -/
theorem fieldBehavior_congr (h : Options.Alike o o') : fieldBehavior o = fieldBehavior o' := by
  have hvalue : extension? o "google.api.field_behavior"
      = extension? o' "google.api.field_behavior" :=
    h.get?_eq (by decide)
  unfold fieldBehavior
  rw [hvalue]

/-- The only field of a record that has one, under its only name, is the same. -/
theorem member?_eq_of_aligned {w w' : Json} (h : Aligned (.record .fieldInfo) w w') :
    w.member? "format" = w'.member? "format" := by
  have hknows : ∀ key, RecordKind.fieldInfo.knows key = decide (key = "format") := by
    intro key
    simp [RecordKind.knows, RecordKind.fields, KnownField.answers]
  -- Members of other names do not matter to the look-up.
  have hlookup : ∀ members : List (String × Json), members.lookup "format"
      = (members.filter fun m => RecordKind.fieldInfo.knows m.1).lookup "format" := by
    intro members
    induction members with
    | nil => rfl
    | cons m members ih =>
      by_cases hkey : m.1 = "format"
      · rw [List.filter_cons_of_pos (by rw [hknows, hkey]; rfl), List.lookup_cons,
          List.lookup_cons, hkey]
        rfl
      · have hne : ("format" == m.1) = false := by simpa using Ne.symm hkey
        rw [List.filter_cons_of_neg (by rw [hknows]; simpa using hkey), List.lookup_cons, hne]
        exact ih
  cases h with
  | same => rfl
  | @object _ pairs members members' hfor hvalues hold hnew =>
    -- Both sides name the field alike and hold a value without records.
    have hpairs : pairs.map Change.old = pairs.map Change.new := by
      refine List.map_congr_left fun c hc => ?_
      have hfield : c.field = { label := "format" } := by
        simpa [RecordKind.fields] using (hfor c hc).mem
      have hnames : ∀ key, c.field.answers key = true → key = "format" := by
        intro key
        rw [hfield]
        simp [KnownField.answers]
      have hvalue := hvalues c hc
      rw [hfield] at hvalue
      unfold Change.old Change.new
      rw [hnames _ (hfor c hc).old, hnames _ (hfor c hc).new]
      generalize c.value = v at hvalue ⊢
      generalize c.value' = v' at hvalue ⊢
      cases hvalue with
      | same => rfl
    show members.lookup "format" = members'.lookup "format"
    rw [hlookup members, hlookup members', hold, hnew, hpairs]
  | positional => rfl

/-- The format of a field is said in a record, whose only field is the same. -/
theorem isUuid4_congr (h : Options.Alike o o') : isUuid4 o = isUuid4 o' := by
  have hkey := h "[google.api.field_info]"
  have hvalue : (extension? o "google.api.field_info").bind (·.member? "format")
      = (extension? o' "google.api.field_info").bind (·.member? "format") := by
    show (o.bind (·.get? "[google.api.field_info]")).bind _
      = (o'.bind (·.get? "[google.api.field_info]")).bind _
    generalize o.bind (·.get? "[google.api.field_info]") = v? at hkey ⊢
    generalize o'.bind (·.get? "[google.api.field_info]") = v?' at hkey ⊢
    cases hkey with
    | none => rfl
    | some haligned => exact member?_eq_of_aligned haligned
  unfold isUuid4
  rw [hvalue]

/-- The types of an operation are decoded to the same. -/
theorem operationInfo?_congr (h : Options.Alike o o') (package : String) :
    operationInfo? package o = operationInfo? package o' := by
  have hshape : extensionShape ("[" ++ "google.longrunning.operation_info" ++ "]")
      = .record .operationInfo := by decide
  unfold operationInfo?
  rw [h.decodeExtension?_eq hshape operationTypesDecoder_twin]

/-- So is an HTTP rule. -/
theorem httpRule?_congr (h : Options.Alike o o') : httpRule? o = httpRule? o' :=
  h.decodeExtension?_eq (by decide) HttpRule.decoder_twin

/-- So are routing parameters. -/
theorem routing_congr (h : Options.Alike o o') : routing o = routing o' := by
  unfold routing
  rw [h.decodeExtension?_eq (by decide) routingRuleDecoder_twin]

end Annotations

/-! ### Options from a text -/

/-- Options are read from an object if there is room for all that stands in it. -/
theorem table_any_eq_ok_iff {room : Nat} {members : List (String × Json)} {t : Options} :
    Decoder.table Decoder.any .text room (Json.object members).toTree = .ok t ↔
      ∃ n, room = n + 1 ∧ (∀ m ∈ members, m.2.height ≤ n) ∧
      t = Table.ofList (Json.sortedMembers members) := by
  cases room with
  | zero =>
    refine iff_of_false (fun h => by cases h) ?_
    rintro ⟨n, h, -⟩
    cases h
  | succ n =>
    have hmembers := @Decoder.mapM_memberTrees_eq_ok_iff (Decoder.anyValue .text n) (fun v =>
      v.height ≤ n) members fun m _ w => Decoder.anyValue_eq_ok_iff
    show ((memberTrees members).mapM _ >>= fun entries => Except.ok (Table.ofList entries))
      = .ok t ↔ _
    rw [bind_eq_ok_iff]
    constructor
    · rintro ⟨ws, hws, ht⟩
      obtain ⟨hheight, rfl⟩ := hmembers.1 hws
      exact ⟨n, rfl, hheight, (Except.ok.inj ht).symm⟩
    · rintro ⟨n', hn, hheight, rfl⟩
      cases hn
      exact ⟨_, hmembers.2 ⟨hheight, rfl⟩, rfl⟩

/-- Tables of values that are aligned one by one, under the same names. -/
theorem alike_ofList {entries : List (String × Json × Json)}
    (h : ∀ e ∈ entries, Aligned (extensionShape e.1) e.2.1.sorted e.2.2.sorted) :
    Options.Alike (some (Table.ofList (Json.sortedMembers (entries.map fun e => (e.1, e.2.1)))))
      (some (Table.ofList (Json.sortedMembers (entries.map fun e => (e.1, e.2.2))))) := by
  intro key
  show Option.Rel _ (Table.get? _ key) (Table.get? _ key)
  unfold Table.ofList
  rw [Json.sortedMembers_eq, Json.sortedMembers_eq, List.map_map, List.map_map, List.foldl_map,
    List.foldl_map]
  simp only [Function.comp_apply]
  -- Of several values under one name the last one counts, on both sides.
  have hget := fun val : String × Json × Json → Json =>
    Table.get?_foldl_insert (fun e : String × Json × Json => e.1) val entries Table.empty key
  rw [hget fun e => e.2.1.sorted, hget fun e => e.2.2.sorted]
  cases hfind : entries.reverse.find? fun e => e.1 = key with
  | none => exact .none
  | some e =>
    have hmem : e ∈ entries := List.mem_reverse.1 (List.mem_of_find?_eq_some hfind)
    have hkey : e.1 = key := by simpa using List.find?_some hfind
    rw [← hkey]
    exact .some (h e hmem)

/-- Options that are written in two ways are kept alike. -/
theorem optionsSlot_sameOutcome {room : Nat} {v v' : Json}
    (h : Respelled false room .options v v') :
    SameOutcome Options.Alike (optionsSlot.decode .text room v.toTree)
      (optionsSlot.decode .text room v'.toTree) := by
  show SameOutcome _ (Decoder.optional (Decoder.table Decoder.any) .text room v.toTree)
    (Decoder.optional (Decoder.table Decoder.any) .text room v'.toTree)
  cases h with
  | same => exact SameOutcome.refl Options.Alike.refl _
  | @options _ entries hentries =>
    -- There is room for all values of the one way of writing if there is for those of the other.
    have hroom : (∀ m ∈ entries.map fun e => (e.1, e.2.1), m.2.height ≤ room - 1) ↔
        ∀ m ∈ entries.map fun e => (e.1, e.2.2), m.2.height ≤ room - 1 := by
      rw [List.forall_mem_map, List.forall_mem_map]
      exact forall_congr' fun e => forall_congr' fun he => (hentries e he).height_le_iff
    have halike := alike_ofList fun e he => (hentries e he).aligned
    show SameOutcome _
      ((Decoder.table Decoder.any .text room
        (Json.object (entries.map fun e => (e.1, e.2.1))).toTree).map some)
      ((Decoder.table Decoder.any .text room
        (Json.object (entries.map fun e => (e.1, e.2.2))).toTree).map some)
    constructor
    · intro o ho
      obtain ⟨t, ht, rfl⟩ := map_eq_ok_iff.1 ho
      obtain ⟨n, rfl, hheight, rfl⟩ := table_any_eq_ok_iff.1 ht
      exact ⟨_, map_eq_ok_iff.2 ⟨_, table_any_eq_ok_iff.2 ⟨n, rfl, hroom.1 hheight, rfl⟩, rfl⟩,
        halike⟩
    · intro o ho
      obtain ⟨t, ht, rfl⟩ := map_eq_ok_iff.1 ho
      obtain ⟨n, rfl, hheight, rfl⟩ := table_any_eq_ok_iff.1 ht
      exact ⟨_, map_eq_ok_iff.2 ⟨_, table_any_eq_ok_iff.2 ⟨n, rfl, hroom.2 hheight, rfl⟩, rfl⟩,
        halike⟩

end ProtoApi
