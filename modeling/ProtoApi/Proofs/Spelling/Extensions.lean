import ProtoApi.Annotations
import ProtoApi.Proofs.Spelling.Kept
import ProtoApi.Proofs.Spelling.Records

namespace ProtoApi

open Json (Tree memberTrees itemTrees)

/-!
# Extensions that are decoded from kept values

A kept value is decoded by a reader that has room enough for it. Two aligned values are decoded to
the same, be that a content or an error.

* `Decoder.Twin`, `Slot.Twin`, `Fields.Twin` — readers and fields that agree on aligned values, each
  within its own room;
* `Fields.Twin.takeAll_sameResult`, `Fields.Twin.readItems_sameResult` — such fields read the
  members of two records alike, and the items of two lists;
* `record_twin`, `list_twin`, `optional_twin` — so records agree, lists of them and records that may
  be null;
* `HttpRule.decoder_twin`, `routingRuleDecoder_twin`, `operationTypesDecoder_twin` — the extensions
  that are read.
-/

/-! ### Fields in two rooms -/

/-- Two readers agree on aligned values if each has room enough. -/
def Decoder.Twin {α : Type} (room room' : Nat) (shape : Shape) (d d' : Decoder α) : Prop :=
  ∀ w w', Aligned shape w w' → w.height ≤ room → w'.height ≤ room' →
    d .value room w.toTree = d' .value room' w'.toTree

/-- Two fields that a format knows agree on aligned values, and are the same in every other
    respect. -/
structure Slot.Twin {α : Type} (room room' : Nat) (f : KnownField) (s s' : Slot α) : Prop where
  label : s.label = f.label
  second : s.second = f.second?
  decode : Decoder.Twin room room' f.shape s.decode s'.decode
  rest : s' = { s with decode := s'.decode }

/-- Fields of two records that agree one by one. -/
inductive Fields.Twin (room room' : Nat) : List KnownField → {ρ : Type} → Fields ρ → Fields ρ → Prop
  | none : Twin room room' [] .none .none
  | field {α ρ : Type} {f : KnownField} {fs : List KnownField} {slot slot' : Slot α}
      {rest rest' : Fields ρ}
      (hslot : slot.Twin room room' f slot') (hrest : Twin room room' fs rest rest') :
      Twin room room' (f :: fs) (.field slot rest) (.field slot' rest')

/-- Two members of records that are the same, or stand for aligned values of one field. -/
def Matched (fs : List KnownField) (m m' : String × Json) : Prop :=
  m = m' ∨ ∃ f ∈ fs, f.answers m.1 = true ∧ f.answers m'.1 = true ∧ Aligned f.shape m.2 m'.2

namespace Slot.Twin

variable {α : Type} {room room' : Nat} {f : KnownField} {s s' : Slot α}

/-- Both fields go by the names that the format knows. -/
theorem answers (h : s.Twin room room' f s') (key : String) : s.answers key = f.answers key := by
  unfold Slot.answers KnownField.answers
  rw [h.label, h.second]

theorem answers' (h : s.Twin room room' f s') (key : String) : s'.answers key = f.answers key := by
  rw [h.rest]
  exact h.answers key

/-- Filling both with aligned values fills them with the same content, or fails with the same
    error. -/
theorem fill (h : s.Twin room room' f s') {w w' : Json} (haligned : Aligned f.shape w w')
    (hw : w.height ≤ room) (hw' : w'.height ≤ room') :
    SameResult (fun s s' => s.Twin room room' f s') (s.fill .value room w.toTree)
      (s'.fill .value room' w'.toTree) := by
  have hfull : s'.value.isSome = s.value.isSome := by rw [h.rest]
  have hlabel : s'.label = s.label := by rw [h.rest]
  unfold Slot.fill
  rw [hfull, hlabel, h.decode w w' haligned hw hw']
  -- A field that is filled already is refused in both rooms.
  by_cases hfull : s.value.isSome = true
  · rw [if_pos hfull, if_pos hfull]
    exact .error _
  · rw [if_neg hfull, if_neg hfull]
    cases s'.decode .value room' w'.toTree with
    | error e => exact .error e
    | ok a =>
      refine .ok ⟨h.label, h.second, h.decode, ?_⟩
      rw [h.rest]

/-- What such fields hold is the same, and so is what they have when they are absent. -/
theorem result (h : s.Twin room room' f s') : s.result = s'.result := by
  rw [h.rest]
  rfl

end Slot.Twin

namespace Fields

variable {ρ : Type} {form : Form} {room room' : Nat}

/-- Whether a field goes by a name. -/
def answers {ρ : Type} : Fields ρ → String → Bool
  | none, _ => false
  | field slot rest, key => slot.answers key || rest.answers key

/-- What belongs to no field is passed over. -/
theorem take_of_not_answers {fields : Fields ρ} {key : String} (h : fields.answers key = false)
    (v : Json) : fields.take form room key v.toTree = .ok fields := by
  induction fields with
  | none =>
    rw [take, Decoder.passOver, Json.skip_toTree]
  | field slot rest ih =>
    rw [answers, Bool.or_eq_false_iff] at h
    rw [take_field h.1, ih h.2]
    rfl

/-- Taking a member fills a field, but it renames none. -/
theorem answers_of_take {fields fields' : Fields ρ} {key : String} {t : Tree}
    (h : fields.take form room key t = .ok fields') : fields'.answers = fields.answers := by
  induction fields with
  | none =>
    rw [take] at h
    cases hpass : Decoder.passOver t with
    | error e =>
      rw [hpass] at h
      cases h
    | ok u =>
      rw [hpass] at h
      rw [← Except.ok.inj h]
  | field slot rest ih =>
    -- Whether it is the first slot that takes the member or a later one, its names stay.
    funext other
    by_cases hkey : slot.answers key = true
    · rw [take_of_answers hkey] at h
      obtain ⟨slot', hslot, rfl⟩ := map_eq_ok_iff.1 h
      rw [answers, answers, Slot.answers_of_fill hslot]
    · rw [take_field (Bool.eq_false_iff.2 hkey)] at h
      obtain ⟨rest', hrest, rfl⟩ := map_eq_ok_iff.1 h
      rw [answers, answers, ih hrest]

/-- Members that belong to no field do not matter. -/
theorem takeAll_filter (fields : Fields ρ) (members : List (String × Json)) :
    fields.takeAll form room (memberTrees members)
      = fields.takeAll form room (memberTrees (members.filter fun m => fields.answers m.1)) := by
  induction members generalizing fields with
  | nil => rfl
  | cons m members ih =>
    rw [memberTrees, takeAll_cons]
    -- A member of a field fills it, and the fields answer to the same names after that.
    by_cases hkey : fields.answers m.1 = true
    · rw [List.filter_cons_of_pos (p := fun m : String × Json => fields.answers m.1) hkey,
        memberTrees, takeAll_cons]
      cases htake : fields.take form room m.1 m.2.toTree with
      | error e => rfl
      | ok fields' =>
        have h := ih fields'
        rw [answers_of_take htake] at h
        exact h
    · rw [List.filter_cons_of_neg (p := fun m : String × Json => fields.answers m.1) hkey,
        take_of_not_answers (Bool.eq_false_iff.2 hkey)]
      exact ih fields

namespace Twin

variable {fs : List KnownField} {fields fields' : Fields ρ}

/-- Fields that agree one by one go by the same names, those of the format. -/
theorem answers (h : fields.Twin room room' fs fields') (key : String) :
    fields.answers key = fs.any (·.answers key) ∧ fields'.answers key = fs.any (·.answers key) := by
  induction h with
  | none => exact ⟨rfl, rfl⟩
  | field hslot _ ih =>
    rw [Fields.answers, Fields.answers, List.any_cons, ih.1, ih.2, hslot.answers, hslot.answers']
    exact ⟨rfl, rfl⟩

/-- There are as many of them. -/
theorem size_eq (h : fields.Twin room room' fs fields') : fields.size = fields'.size := by
  induction h with
  | none => rfl
  | field _ _ ih => rw [size, size, ih]

/-- A pair of members that are matched is read alike. -/
theorem take_sameResult (h : fields.Twin room room' fs fields')
    (hapart : fs.Pairwise KnownField.Apart) {m m' : String × Json} (hmatched : Matched fs m m')
    (hm : m.2.height ≤ room) (hm' : m'.2.height ≤ room') :
    SameResult (fun fields fields' => fields.Twin room room' fs fields')
      (fields.take .value room m.1 m.2.toTree) (fields'.take .value room' m'.1 m'.2.toTree) := by
  induction h with
  | none =>
    rw [take_of_not_answers rfl, take_of_not_answers rfl]
    exact .ok .none
  | @field α ρ f fs slot slot' rest rest' hslot hrest ih =>
    rw [List.pairwise_cons] at hapart
    -- Fields have different names, so that the first one that knows a key is the only one.
    by_cases hkey : f.answers m.1 = true
    · -- The first field takes both.
      have hown : f.answers m'.1 = true ∧ Aligned f.shape m.2 m'.2 := by
        rcases hmatched with rfl | ⟨g, hg, hans, hans', haligned⟩
        · exact ⟨hkey, .same _⟩
        · rcases List.mem_cons.1 hg with rfl | hg
          · exact ⟨hans', haligned⟩
          · have hnot := hapart.1 g hg _ hkey
            rw [hans] at hnot
            cases hnot
      rw [take_of_answers ((hslot.answers _).trans hkey),
        take_of_answers ((hslot.answers' _).trans hown.1)]
      exact (hslot.fill hown.2 hm hm').map fun _ _ hslot => Twin.field hslot hrest
    · -- It passes both on.
      have hpassed : f.answers m'.1 = false ∧ Matched fs m m' := by
        rcases hmatched with rfl | ⟨g, hg, hans, hans', haligned⟩
        · exact ⟨Bool.eq_false_iff.2 hkey, Or.inl rfl⟩
        · rcases List.mem_cons.1 hg with rfl | hg
          · exact absurd hans hkey
          · refine ⟨Bool.eq_false_iff.2 fun hf => ?_, Or.inr ⟨g, hg, hans, hans', haligned⟩⟩
            have hnot := hapart.1 g hg _ hf
            rw [hans'] at hnot
            cases hnot
      rw [take_field ((hslot.answers _).trans (Bool.eq_false_iff.2 hkey)),
        take_field ((hslot.answers' _).trans hpassed.1)]
      exact (ih hapart.2 hpassed.2).map fun _ _ hrest => Twin.field hslot hrest

/-- Lists of members that are matched are read alike. -/
theorem takeAll_sameResult (h : fields.Twin room room' fs fields')
    (hapart : fs.Pairwise KnownField.Apart) {members members' : List (String × Json)}
    (hmatched : List.Forall₂ (Matched fs) members members') (hm : ∀ m ∈ members, m.2.height ≤ room)
    (hm' : ∀ m ∈ members', m.2.height ≤ room') :
    SameResult (fun fields fields' => fields.Twin room room' fs fields')
      (fields.takeAll .value room (memberTrees members))
        (fields'.takeAll .value room' (memberTrees members')) := by
  induction hmatched generalizing fields fields' with
  | nil => exact .ok h
  | cons hfirst hothers ih =>
    rw [List.forall_mem_cons] at hm hm'
    rw [memberTrees, memberTrees, takeAll_cons, takeAll_cons]
    exact (h.take_sameResult hapart hfirst hm.1 hm'.1).bind fun _ _ h => ih h hm.2 hm'.2

/-- What was read into them is the same. -/
theorem results_eq (h : fields.Twin room room' fs fields') : fields.results = fields'.results := by
  induction h with
  | none => rfl
  | field hslot _ ih => rw [results, results, hslot.result, ih]

/-- The items of lists that stand for a record are read alike. -/
theorem readItems_sameResult (h : fields.Twin room room' fs fields') {items : List (Json × Json)}
    (hitems : ∀ i ∈ items.zip fs, Aligned i.2.shape i.1.1 i.1.2)
    (hheight : ∀ i ∈ items, i.1.height ≤ room ∧ i.2.height ≤ room') (tooShort : Nat → DecodeError)
    (position : Nat) :
    SameResult (fun x y => x.1 = y.1 ∧ x.2.length = y.2.length)
      (fields.readItems .value room tooShort .closed position (itemTrees (items.map Prod.fst)))
      (fields'.readItems .value room' tooShort .closed position
        (itemTrees (items.map Prod.snd))) := by
  induction h generalizing items position with
  | none =>
    refine .ok ⟨rfl, ?_⟩
    rw [Decoder.itemTrees_eq, Decoder.itemTrees_eq]
    simp
  | @field α ρ f fs slot slot' rest rest' hslot hrest ih =>
    cases items with
    | nil =>
      have hothers := @ih [] nofun nofun (position + 1)
      rw [hslot.rest, List.map_nil, List.map_nil, itemTrees, readItems, readItems]
      refine (SameResult.of_eq (R := Eq) (fun _ => rfl) rfl).bind fun _ _ _ => ?_
      dsimp only
      -- A field that is left out has its default, if that is allowed.
      cases slot.mayTrail with
      | false => exact .error _
      | true =>
        cases slot.absent with
        | none => exact .error _
        | some a =>
          refine hothers.bind ?_
          rintro ⟨r, surplus⟩ ⟨q, surplus'⟩ ⟨hrq, hlength⟩
          exact .ok ⟨Prod.ext rfl hrq, hlength⟩
    | cons i items =>
      rw [List.forall_mem_cons] at hheight
      have hfirst := hslot.decode i.1 i.2 (hitems (i, f) List.mem_cons_self) hheight.1.1 hheight.1.2
      have hothers := ih (fun j hj => hitems j (List.mem_cons_of_mem _ hj)) hheight.2 (position + 1)
      refine (SameResult.of_eq (R := Eq) (fun _ => rfl) hfirst).bind fun a b hab => hothers.bind ?_
      rintro ⟨r, surplus⟩ ⟨q, surplus'⟩ ⟨hrq, hlength⟩
      exact .ok ⟨Prod.ext hab hrq, hlength⟩

end Twin

end Fields

/-! ### Records, lists and what may be null -/

namespace Json

theorem map_fst_diagonal (items : List Json) :
    (items.map fun v => (v, v)).map Prod.fst = items := by
  rw [List.map_map]
  exact List.map_id items

theorem map_snd_diagonal (items : List Json) :
    (items.map fun v => (v, v)).map Prod.snd = items := by
  rw [List.map_map]
  exact List.map_id items

end Json

namespace Decoder

variable {α ρ : Type} {room room' : Nat} {k : RecordKind}

/-- Lists that stand for a record are read alike. -/
theorem record_array_eq {name : String} {fields fields' : Fields ρ} {build : ρ → α}
    (hfields : ∀ n n', room = n + 1 → room' = n' + 1 → fields.Twin n n' k.fields fields')
    {items : List (Json × Json)} (hitems : ∀ i ∈ items.zip k.fields, Aligned i.2.shape i.1.1 i.1.2)
    (hw : (Json.array (items.map Prod.fst)).height ≤ room)
    (hw' : (Json.array (items.map Prod.snd)).height ≤ room') :
    record name fields build .value room (Json.array (items.map Prod.fst)).toTree
      = record name fields' build .value room' (Json.array (items.map Prod.snd)).toTree := by
  rw [Json.height_array_le_iff, List.forall_mem_map] at hw hw'
  obtain ⟨n, rfl⟩ : ∃ n, room = n + 1 := ⟨room - 1, by omega⟩
  obtain ⟨n', rfl⟩ : ∃ n', room' = n' + 1 := ⟨room' - 1, by omega⟩
  have htwin := hfields n n' rfl rfl
  show (fields.readItems .value n _ .closed 0 (itemTrees (items.map Prod.fst)) >>= _)
    = (fields'.readItems .value n' _ .closed 0 (itemTrees (items.map Prod.snd)) >>= _)
  rw [htwin.size_eq]
  refine (htwin.readItems_sameResult hitems (fun i hi => ⟨hw.2 i hi, hw'.2 i hi⟩) _ 0).bind_eq ?_
  rintro ⟨r, surplus⟩ ⟨q, surplus'⟩ ⟨rfl, hlength⟩
  change surplus.length = surplus'.length at hlength
  -- What is left over is refused by its number only.
  have hsurplus : refuseSurplus .value (itemTrees (items.map Prod.fst)).length surplus .closed
      = refuseSurplus .value (itemTrees (items.map Prod.snd)).length surplus' .closed := by
    rw [itemTrees_eq, itemTrees_eq, List.length_map, List.length_map, List.length_map,
      List.length_map]
    cases surplus with
    | nil => rw [List.length_eq_zero_iff.1 hlength.symm]
    | cons t surplus =>
      cases surplus' with
      | nil => cases hlength
      | cons t' surplus' => rfl
  exact congrArg (· >>= fun _ => _) hsurplus

/-- Objects whose members are matched, as far as they belong to fields, are read alike. -/
theorem record_object_eq {name : String} {fields fields' : Fields ρ} {build : ρ → α}
    (hfields : ∀ n n', room = n + 1 → room' = n' + 1 → fields.Twin n n' k.fields fields')
    {members members' : List (String × Json)}
    (hmatched : List.Forall₂ (Matched k.fields) (members.filter fun m => k.knows m.1)
      (members'.filter fun m => k.knows m.1))
    (hw : (Json.object members).height ≤ room) (hw' : (Json.object members').height ≤ room') :
    record name fields build .value room (Json.object members).toTree
      = record name fields' build .value room' (Json.object members').toTree := by
  rw [Json.height_object_le_iff] at hw hw'
  obtain ⟨n, rfl⟩ : ∃ n, room = n + 1 := ⟨room - 1, by omega⟩
  obtain ⟨n', rfl⟩ : ∃ n', room' = n' + 1 := ⟨room' - 1, by omega⟩
  have htwin := hfields n n' rfl rfl
  -- Fields and format know the same members, and the others do not matter.
  have hknown : (members.filter fun m => fields.answers m.1) = members.filter fun m =>
      k.knows m.1 :=
    List.filter_congr fun m _ => (htwin.answers m.1).1
  have hknown' : (members'.filter fun m => fields'.answers m.1) = members'.filter fun m =>
      k.knows m.1 :=
    List.filter_congr fun m _ => (htwin.answers m.1).2
  have htake :=
    htwin.takeAll_sameResult k.fields_apart hmatched (fun m hm => hw.2 m (List.mem_filter.1 hm).1)
    fun m hm => hw'.2 m (List.mem_filter.1 hm).1
  rw [← hknown, ← hknown', ← Fields.takeAll_filter, ← Fields.takeAll_filter] at htake
  generalize hfilled : fields.takeAll .value n (memberTrees members) = filled at htake
  generalize hfilled' : fields'.takeAll .value n' (memberTrees members') = filled' at htake
  cases htake with
  | error e => rw [record_object_of_error hfilled, record_object_of_error hfilled']
  | ok h => rw [record_object_of_ok hfilled, record_object_of_ok hfilled', h.results_eq]

/-- Records whose fields agree one by one agree. -/
theorem record_twin {name : String} {fields fields' : Fields ρ} {build : ρ → α}
    (hfields : ∀ n n', room = n + 1 → room' = n' + 1 → fields.Twin n n' k.fields fields') :
    Twin room room' (.record k) (record name fields build) (record name fields' build) := by
  intro w w' h hw hw'
  cases h with
  | same =>
    cases w with
    | null | boolean | number | string => rfl
    | array items =>
      -- A list is aligned with itself item by item.
      have hdiagonal : ∀ i ∈ (items.map fun v => (v, v)).zip k.fields,
          Aligned i.2.shape i.1.1 i.1.2 := by
        intro i hi
        rw [List.zip_map_left] at hi
        obtain ⟨j, -, rfl⟩ := List.mem_map.1 hi
        exact .same _
      have h := @record_array_eq α ρ room room' k name fields fields' build hfields _ hdiagonal
      rw [Json.map_fst_diagonal, Json.map_snd_diagonal] at h
      exact h hw hw'
    | object members =>
      exact record_object_eq hfields (List.forall₂_same.2 fun m _ => Or.inl rfl) hw hw'
  | @object _ pairs members members' hfor hvalues hold hnew =>
    refine record_object_eq hfields ?_ hw hw'
    rw [hold, hnew, List.forall₂_map_left_iff, List.forall₂_map_right_iff]
    exact List.forall₂_same.2 fun c hc =>
      Or.inr ⟨c.field, (hfor c hc).mem, (hfor c hc).old, (hfor c hc).new, hvalues c hc⟩
  | positional hitems => exact record_array_eq hfields hitems hw hw'

/-- Two readers read the same from a list if they do from each item. -/
theorem mapM_congr {ε β γ : Type} {f g : β → Except ε γ} {xs : List β} (h : ∀ x ∈ xs, f x = g x) :
    xs.mapM f = xs.mapM g := by
  induction xs with
  | nil => rfl
  | cons x xs ih =>
    rw [List.forall_mem_cons] at h
    rw [List.mapM_cons, List.mapM_cons, h.1, ih h.2]

/-- Lists of items that agree agree. -/
theorem list_twin {d d' : Decoder α}
    (hitem : ∀ n n', room = n + 1 → room' = n' + 1 → Twin n n' (.record k) d d') :
    Twin room room' (.records k) (list d) (list d') := by
  -- A list stands two levels above the members of its items.
  have hlists : ∀ items : List (Json × Json), (∀ i ∈ items, Aligned (.record k) i.1 i.2) →
      (Json.array (items.map Prod.fst)).height ≤ room →
        (Json.array (items.map Prod.snd)).height ≤ room' →
      list d .value room (Json.array (items.map Prod.fst)).toTree
        = list d' .value room' (Json.array (items.map Prod.snd)).toTree := by
    intro items hitems hw hw'
    rw [Json.height_array_le_iff, List.forall_mem_map] at hw hw'
    obtain ⟨n, rfl⟩ : ∃ n, room = n + 1 := ⟨room - 1, by omega⟩
    obtain ⟨n', rfl⟩ : ∃ n', room' = n' + 1 := ⟨room' - 1, by omega⟩
    have hmapM : (itemTrees (items.map Prod.fst)).mapM (d .value n)
        = (itemTrees (items.map Prod.snd)).mapM (d' .value n') := by
      rw [itemTrees_eq, itemTrees_eq, List.map_map, List.map_map, List.mapM_map, List.mapM_map]
      exact mapM_congr fun i hi => hitem n n' rfl rfl i.1 i.2 (hitems i hi) (hw.2 i hi) (hw'.2 i hi)
    show ((itemTrees (items.map Prod.fst)).mapM (d .value n) >>= _) = _
    rw [hmapM]
    rfl
  intro w w' h hw hw'
  cases h with
  | same =>
    cases w with
    | null | boolean | number | string | object => rfl
    | array items =>
      have h := hlists (items.map fun v => (v, v)) (List.forall_mem_map.2 fun v _ => .same v)
      rw [Json.map_fst_diagonal, Json.map_snd_diagonal] at h
      exact h hw hw'
  | records hitems => exact hlists _ hitems hw hw'

/-- What may be null is read alike if a record that is there is. -/
theorem optional_twin {d d' : Decoder α} {shape : Shape} (h : Twin room room' shape d d') :
    Twin room room' shape (optional d) (optional d') := by
  intro w w' haligned hw hw'
  have hmap := congrArg (Except.map some) (h w w' haligned hw hw')
  cases haligned with
  | same =>
    cases w with
    | null => rfl
    | boolean | number | string | array | object => exact hmap
  | object => exact hmap
  | positional => exact hmap
  | records => exact hmap

/-- What is read in a place without records, whatever the room. -/
theorem leaf_twin {d : Decoder α} (h : ∀ n n' t, d .value n t = d .value n' t) :
    Twin room room' .leaf d d := by
  intro w w' haligned _ _
  cases haligned with
  | same => exact h room room' w.toTree

/-- A text, or what is none, is read in the same way in any room. -/
theorem string_twin : Twin room room' .leaf string string :=
  leaf_twin fun _ _ t => by cases t <;> rfl

/-- Aligned values are decoded to the same. -/
theorem ofValue_eq_of_twin {d : Decoder α} {shape : Shape}
    (h : ∀ room room', Twin room room' shape d d) {w w' : Json} (haligned : Aligned shape w w') :
    d.ofValue w = d.ofValue w' :=
  h w.height w'.height w w' haligned (Nat.le_refl _) (Nat.le_refl _)

end Decoder

namespace Slot.Twin

variable {α : Type} {room room' : Nat} {label : String} {second : Option String} {shape : Shape}
  {d d' : Decoder α}

/-- A field that may be null agrees if its reader does. -/
theorem possible (h : Decoder.Twin room room' shape d d') :
    (Slot.possible label d second).Twin room room' ⟨label, second, shape⟩
      (Slot.possible label d' second) :=
  ⟨rfl, rfl, Decoder.optional_twin h, rfl⟩

/-- A field with a default agrees if its reader does, since the default is the same. -/
theorem orElse (h : Decoder.Twin room room' shape d d') (default : α) :
    (Slot.orElse label d default second).Twin room room' ⟨label, second, shape⟩
      (Slot.orElse label d' default second) :=
  ⟨rfl, rfl, h, rfl⟩

end Slot.Twin

/-! ### The extensions -/

open Decoder (Twin record_twin list_twin string_twin)

namespace HttpRule

variable {room room' : Nat}

/-- A rule is read in its room, and its additional bindings in what is left of it. -/
theorem decodeWithin_eq (form : Form) (room : Nat) : ∃ additional : Decoder HttpRule,
    decodeWithin form room = decoderWith additional form room ∧
      ∀ m, room = m + 2 → additional form m = decodeWithin form m := by
  rcases room with _ | _ | room
  · exact ⟨_, rfl, fun _ h => by cases h⟩
  · exact ⟨_, rfl, fun _ h => by cases h⟩
  · refine ⟨_, rfl, fun m h => ?_⟩
    cases h
    rfl

theorem customDecoder_twin : Twin room room' (.record .customPattern) customDecoder customDecoder :=
  record_twin fun _ _ _ _ => .field (.orElse string_twin "") (.field (.orElse string_twin "") .none)

/-- A rule agrees if the rules inside it do, which have two levels less room: one for the rule and
    one for the list. -/
theorem decoderWith_twin {additional additional' : Decoder HttpRule}
    (h : ∀ m m', room = m + 2 → room' = m' + 2 →
      Twin m m' (.record .httpRule) additional additional') :
    Twin room room' (.record .httpRule) (decoderWith additional) (decoderWith additional') := by
  refine record_twin fun n n' hn hn' => ?_
  have hadditional :
      Twin n n' (.records .httpRule) (Decoder.list additional) (Decoder.list additional') := by
    refine list_twin fun m m' hm hm' => h m m' ?_ ?_
    · omega
    · omega
  exact .field (.orElse string_twin "") <| .field (.possible string_twin) <|
    .field (.possible string_twin) <| .field (.possible string_twin) <|
    .field (.possible string_twin) <| .field (.possible string_twin) <|
    .field (.possible customDecoder_twin) <| .field (.possible string_twin) <|
    .field (.orElse hadditional []) .none

/-- Rules are read alike at any depth. -/
theorem decoder_twin (room room' : Nat) : Twin room room' (.record .httpRule) decoder decoder := by
  induction room using Nat.strong_induction_on generalizing room' with
  | h room ih =>
    obtain ⟨additional, heq, hadditional⟩ := decodeWithin_eq .value room
    obtain ⟨additional', heq', hadditional'⟩ := decodeWithin_eq .value room'
    intro w w' haligned hw hw'
    show decodeWithin .value room w.toTree = decodeWithin .value room' w'.toTree
    rw [heq, heq']
    refine decoderWith_twin (fun m m' hm hm' v v' hv hm_le hm_le' => ?_) w w' haligned hw hw'
    -- The bindings are read in the smaller room, for which the claim is known.
    rw [hadditional m hm, hadditional' m' hm']
    exact ih m (by omega) m' v v' hv hm_le hm_le'

end HttpRule

theorem routingParameterDecoder_twin {room room' : Nat} :
    Twin room room' (.record .routingParameter) routingParameterDecoder routingParameterDecoder :=
  record_twin fun _ _ _ _ => .field (.orElse string_twin "") (.field (.orElse string_twin "") .none)

/-- A routing rule is a list of parameters, each with two texts. -/
theorem routingRuleDecoder_twin (room room' : Nat) :
    Twin room room' (.record .routingRule) routingRuleDecoder routingRuleDecoder :=
  record_twin fun _ _ _ _ =>
    .field (.orElse (list_twin fun _ _ _ _ => routingParameterDecoder_twin) []) .none

theorem operationTypesDecoder_twin (room room' : Nat) :
    Twin room room' (.record .operationInfo) operationTypesDecoder operationTypesDecoder :=
  record_twin fun _ _ _ _ => .field (.orElse string_twin "") (.field (.orElse string_twin "") .none)

end ProtoApi
