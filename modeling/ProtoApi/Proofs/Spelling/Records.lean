import ProtoApi.Proofs.Decoder.ReadsBack
import ProtoApi.Proofs.Except
import ProtoApi.Proofs.Spelling.Formats

namespace ProtoApi

open Json (Tree memberTrees itemTrees)

/-!
# Records that are decoded from a text

Whether a record can be decoded, and what comes of it, depends on what its fields find among the
members, but not on the order in which these stand.

* `Slot.Holds`, `Fields.Holds`, `takeAll_results_iff` — what a record makes of its members, told
  without their order;
* `Fields.Follows`, `holds_related` — fields that read members alike which are written in two ways;
* `record_sameOutcome`, `list_sameOutcome`, `optional_sameOutcome` — so do records, lists of them
  and records that may be null.
-/

/-! ### What a record makes of its members -/

section Holds

variable (form : Form) (room : Nat)

/-- What a field makes of the members that belong to it. -/
def Slot.Holds {α : Type} (s : Slot α) : List (String × Json) → α → Prop
  | [], a => s.absent = some a
  | [m], a => s.decode form room m.2.toTree = .ok a
  | _ :: _ :: _, _ => False

/-- What fields make of members, each of those that belong to it. A member belongs to the first
    field that answers to its key. -/
def Fields.Holds {ρ : Type} : Fields ρ → List (String × Json) → ρ → Prop
  | none, _, () => True
  | field slot rest, members, (a, r) =>
    slot.Holds form room (members.filter fun m => slot.answers m.1) a ∧
      rest.Holds (members.filter fun m => !slot.answers m.1) r

end Holds

namespace Slot

variable {α : Type} {form : Form} {room : Nat}

/-- Reads the members that belong to a field, one after the other. -/
def fillAll (form : Form) (room : Nat) (s : Slot α) :
    List (String × Json) → Except DecodeError (Slot α)
  | [] => .ok s
  | m :: members => s.fill form room m.2.toTree >>= fun s => s.fillAll form room members

/-- A field that is filled goes by the same names. -/
theorem answers_of_fill {s s' : Slot α} {t : Tree} (h : s.fill form room t = .ok s')
    (key : String) : s'.answers key = s.answers key := by
  unfold fill at h
  rw [ite_error_eq_ok_iff] at h
  obtain ⟨a, -, h⟩ := bind_eq_ok_iff.1 h.2
  rw [← Except.ok.inj h]
  rfl

/-- A field that has read nothing so far holds what it makes of its members. -/
theorem fillAll_result_iff {s : Slot α} (hs : s.value = none) {members : List (String × Json)}
    {a : α} : (s.fillAll form room members >>= result) = .ok a ↔ s.Holds form room members a := by
  have hfresh : ¬ s.value.isSome = true := by simp [hs]
  match members with
  | [] =>
    show s.result = .ok a ↔ s.absent = some a
    unfold result
    rw [hs, Option.none_or]
    cases s.absent with
    | none => simp
    | some b => simp
  | [m] =>
    show (s.fill form room m.2.toTree >>= fun s => Except.ok s) >>= result = .ok a ↔
      s.decode form room m.2.toTree = .ok a
    unfold fill
    rw [if_neg hfresh]
    cases s.decode form room m.2.toTree with
    | error e => simp [Bind.bind, Except.bind]
    | ok b => simp [Bind.bind, Except.bind, pure, Except.pure, result]
  | m :: m' :: members =>
    refine iff_of_false ?_ id
    intro h
    -- The second member meets a field that is full.
    obtain ⟨s₂, hfill, -⟩ := bind_eq_ok_iff.1 h
    obtain ⟨s₁, hfirst, hrest⟩ := bind_eq_ok_iff.1 hfill
    obtain ⟨s₁', hsecond, -⟩ := bind_eq_ok_iff.1 hrest
    unfold fill at hfirst hsecond
    rw [ite_error_eq_ok_iff] at hfirst hsecond
    obtain ⟨b, -, hb⟩ := bind_eq_ok_iff.1 hfirst.2
    rw [← Except.ok.inj hb] at hsecond
    exact hsecond.1 rfl

end Slot

namespace Fields

variable {α ρ : Type} {form : Form} {room : Nat}

/-- Members belong to the first field or are passed on to the others. -/
theorem takeAll_field_eq_ok_iff {slot : Slot α} {rest : Fields ρ} {members : List (String × Json)}
    {filled : Fields (α × ρ)} :
    (Fields.field slot rest).takeAll form room (memberTrees members) = .ok filled ↔
      ∃ slot' rest', slot.fillAll form room (members.filter fun m => slot.answers m.1) = .ok slot' ∧
        rest.takeAll form room (memberTrees (members.filter fun m => !slot.answers m.1))
          = .ok rest' ∧
        filled = .field slot' rest' := by
  induction members generalizing slot rest with
  | nil =>
    constructor
    · intro h
      exact ⟨slot, rest, rfl, rfl, (Except.ok.inj h).symm⟩
    · rintro ⟨slot', rest', hslot, hrest, rfl⟩
      cases hslot
      cases hrest
      rfl
  | cons m members ih =>
    rw [memberTrees, takeAll_cons]
    by_cases hanswers : slot.answers m.1 = true
    · simp only [List.filter_cons, hanswers, if_true, Bool.not_true, Bool.false_eq_true, if_false]
      rw [take_of_answers hanswers]
      show _ ↔ ∃ slot' rest', slot.fill form room m.2.toTree >>= _ = _ ∧ _
      cases hfill : slot.fill form room m.2.toTree with
      | error e => simp [Bind.bind, Except.bind, Except.map]
      | ok slot₁ =>
        -- A filled slot still answers to the same names, so the later members are parted as before.
        have hsame : slot₁.answers = slot.answers := funext (Slot.answers_of_fill hfill)
        have hih := @ih slot₁ rest
        rw [hsame] at hih
        exact hih
    · have hanswers : slot.answers m.1 = false := Bool.eq_false_iff.2 hanswers
      simp only [List.filter_cons, hanswers, if_true, Bool.not_false, Bool.false_eq_true, if_false]
      rw [take_field hanswers, memberTrees, takeAll_cons]
      cases rest.take form room m.1 m.2.toTree with
      | error e => simp [Bind.bind, Except.bind, Except.map]
      | ok rest₁ => exact ih

/-- What a record makes of its members does not depend on their order, except for the error where it
    fails. -/
theorem takeAll_results_iff {fields : Fields ρ} (hfresh : fields.isFresh = true)
    {members : List (String × Json)} {r : ρ} :
    (∃ filled, fields.takeAll form room (memberTrees members) = .ok filled ∧
      filled.results = .ok r) ↔
      fields.Holds form room members r := by
  induction fields generalizing members with
  | none =>
    -- No member is left for a field, and passing over them meets no fault.
    have hpass : (Fields.none).takeAll form room (memberTrees members) = .ok .none := by
      induction members with
      | nil => rfl
      | cons m members ih =>
        rw [memberTrees, takeAll_cons, take, Decoder.passOver, Json.skip_toTree]
        exact ih
    exact iff_of_true ⟨.none, hpass, rfl⟩ trivial
  | field slot rest ih =>
    simp only [isFresh, Bool.and_eq_true, Option.isNone_iff_eq_none] at hfresh
    obtain ⟨a, r⟩ := r
    unfold Holds
    rw [← Slot.fillAll_result_iff hfresh.1, ← ih hfresh.2, bind_eq_ok_iff]
    constructor
    · rintro ⟨filled, htake, hresults⟩
      obtain ⟨slot', rest', hslot, hrest, rfl⟩ := takeAll_field_eq_ok_iff.1 htake
      obtain ⟨b, hb, hresults⟩ := bind_eq_ok_iff.1 hresults
      obtain ⟨q, hq, hresults⟩ := bind_eq_ok_iff.1 hresults
      obtain ⟨rfl, rfl⟩ := Prod.mk.inj (Except.ok.inj hresults)
      exact ⟨⟨slot', hslot, hb⟩, rest', hrest, hq⟩
    · rintro ⟨⟨slot', hslot, ha⟩, rest', hrest, hr⟩
      refine ⟨.field slot' rest', takeAll_field_eq_ok_iff.2 ⟨slot', rest', hslot, hrest, rfl⟩, ?_⟩
      exact bind_eq_ok_iff.2 ⟨a, ha, bind_eq_ok_iff.2 ⟨r, hr, rfl⟩⟩

end Fields

/-! ### Fields that read members alike -/

/-- The fields of a record are those that a format knows, and each of them reads alike what is
    written in two ways. The contents that they read are related by `Q`. -/
inductive Fields.Follows (room : Nat) :
    List KnownField → {ρ : Type} → Fields ρ → (ρ → ρ → Prop) → Prop
  | none : Follows room [] .none fun _ _ => True
  | field {α ρ : Type} {f : KnownField} {fs : List KnownField} {slot : Slot α} {rest : Fields ρ}
      {R : α → α → Prop}
      {Q : ρ → ρ → Prop} (hlabel : slot.label = f.label) (hsecond : slot.second = f.second?)
      (hvalue : slot.value = Option.none) (hrefl : ∀ a, R a a)
      (hdecode : ∀ v v', Respelled false room f.shape v v' →
        SameOutcome R (slot.decode .text room v.toTree) (slot.decode .text room v'.toTree))
      (hrest : Follows room fs rest Q) :
      Follows room (f :: fs) (.field slot rest) fun r r' => R r.1 r'.1 ∧ Q r.2 r'.2

/-- The members of a record with changes are parted into those of one field and the others. -/
theorem filter_answers_perm {f : KnownField} {fs : List KnownField} (hapart : ∀ g ∈ fs, f.Apart g)
    {changes : List Change} {member : Change → String × Json}
    (hfields : ∀ c ∈ changes, c.field ∈ f :: fs ∧ c.field.answers (member c).1 = true)
    {others members : List (String × Json)} (hothers : ∀ m ∈ others, f.answers m.1 = false)
    (hp : members.Perm (changes.map member ++ others)) :
    (members.filter fun m => f.answers m.1).Perm
        ((changes.filter fun c => c.field = f).map member) ∧
      (members.filter fun m => !f.answers m.1).Perm
        ((changes.filter fun c => c.field ≠ f).map member ++ others) := by
  -- A changed member belongs to the field that its change names, since no other one answers to its
  -- key.
  have hanswers : ∀ c ∈ changes, f.answers (member c).1 = decide (c.field = f) := by
    intro c hc
    obtain ⟨hmem, hown⟩ := hfields c hc
    rcases List.mem_cons.1 hmem with heq | hmem
    · rw [← heq, hown]
      simp
    · by_cases hf : f.answers (member c).1 = true
      · have hnot := hapart c.field hmem _ hf
        rw [hown] at hnot
        cases hnot
      · have hne : c.field ≠ f := by
          rintro heq
          rw [heq] at hown
          exact hf hown
        rw [Bool.eq_false_iff.2 hf, decide_eq_false hne]
  constructor
  · have hnone : others.filter (fun m => f.answers m.1) = [] := by
      rw [List.filter_eq_nil_iff]
      intro m hm
      rw [hothers m hm]
      exact Bool.false_ne_true
    refine (hp.filter _).trans (.of_eq ?_)
    rw [List.filter_append, hnone, List.append_nil, List.filter_map]
    exact congrArg (List.map member) (List.filter_congr hanswers)
  · have hall : others.filter (fun m => !f.answers m.1) = others := by
      rw [List.filter_eq_self]
      intro m hm
      rw [hothers m hm]
      rfl
    refine (hp.filter _).trans (.of_eq ?_)
    rw [List.filter_append, hall, List.filter_map]
    refine congrArg (List.map member · ++ others) (List.filter_congr fun c hc => ?_)
    show (!f.answers (member c).1) = _
    rw [hanswers c hc]
    simp

/-- A field is changed once at most. -/
theorem filter_field_of_nodup {changes : List Change} (honce : (changes.map (·.field)).Nodup)
    (f : KnownField) :
    (changes.filter fun c => c.field = f) = [] ∨ ∃ c ∈ changes,
      (changes.filter fun c => c.field = f) = [c] := by
  have hnodup : ((changes.filter fun c => c.field = f).map (·.field)).Nodup :=
    honce.sublist (List.filter_sublist.map _)
  match hown : changes.filter fun c => c.field = f with
  | [] => exact Or.inl hown
  | [c] =>
    have hc : c ∈ changes.filter fun c => c.field = f := by
      rw [hown]; exact List.mem_singleton_self c
    exact Or.inr ⟨c, (List.mem_filter.1 hc).1, hown⟩
  -- Two changes of one field would be two equal fields among those that are changed.
  | c :: c' :: own =>
    have hfield : ∀ d ∈ changes.filter fun c => c.field = f, d.field = f := by
      intro d hd
      simpa using (List.mem_filter.1 hd).2
    rw [hown] at hnodup hfield
    have hc := hfield c List.mem_cons_self
    have hc' := hfield c' (List.mem_cons_of_mem _ List.mem_cons_self)
    simp [hc, hc'] at hnodup

namespace Fields.Follows

variable {ρ : Type} {room : Nat} {fs : List KnownField} {fields : Fields ρ} {Q : ρ → ρ → Prop}

/-- The contents of fields are related to themselves. -/
theorem refl (h : fields.Follows room fs Q) (r : ρ) : Q r r := by
  induction h with
  | none => trivial
  | field _ _ _ hrefl _ _ ih => exact ⟨hrefl r.1, ih r.2⟩

/-- Such fields hold nothing when reading begins. -/
theorem isFresh (h : fields.Follows room fs Q) : fields.isFresh = true := by
  induction h with
  | none => rfl
  | field _ _ hvalue _ _ _ ih => simp [Fields.isFresh, hvalue, ih]

/-- A field reads alike the members that belong to it. -/
theorem slot_holds_related {α : Type} {f : KnownField} {slot : Slot α} {R : α → α → Prop}
    (hrefl : ∀ a, R a a)
    (hdecode : ∀ v v', Respelled false room f.shape v v' →
      SameOutcome R (slot.decode .text room v.toTree) (slot.decode .text room v'.toTree))
    {changes : List Change} (honce : (changes.map (·.field)).Nodup)
    (hvalues : ∀ c ∈ changes, Respelled false room c.field.shape c.value c.value')
    {members members' : List (String × Json)}
    (hold : members.Perm ((changes.filter fun c => c.field = f).map Change.old))
    (hnew : members'.Perm ((changes.filter fun c => c.field = f).map Change.new)) :
    (∀ a, slot.Holds .text room members a → ∃ b, slot.Holds .text room members' b ∧ R a b) ∧
      ∀ b, slot.Holds .text room members' b → ∃ a, slot.Holds .text room members a ∧ R a b := by
  rcases filter_field_of_nodup honce f with hown | ⟨c, hc, hown⟩
  · -- The field is absent in both.
    rw [hown] at hold hnew
    rw [hold.eq_nil, hnew.eq_nil]
    exact ⟨fun a ha => ⟨a, ha, hrefl a⟩, fun a ha => ⟨a, ha, hrefl a⟩⟩
  · rw [hown] at hold hnew
    rw [List.perm_singleton.1 hold, List.perm_singleton.1 hnew]
    have hmem : c ∈ changes.filter fun c => c.field = f := by
      rw [hown]
      exact List.mem_singleton_self c
    have hfield : c.field = f := by simpa using (List.mem_filter.1 hmem).2
    have hvalue := hvalues c hc
    rw [hfield] at hvalue
    have hsame := hdecode c.value c.value' hvalue
    exact ⟨hsame.forth, hsame.back⟩

/-- What the fields make of the members of a record is related to what they make of them after
    changes. -/
theorem holds_related (h : fields.Follows room fs Q) (hapart : fs.Pairwise KnownField.Apart)
    {changes : List Change} (hfields : ∀ c ∈ changes, c.IsFor fs)
    (honce : (changes.map (·.field)).Nodup)
    (hvalues : ∀ c ∈ changes, Respelled false room c.field.shape c.value c.value')
    {others others' members members' : List (String × Json)}
    (hothers : ∀ f ∈ fs, (∀ m ∈ others, f.answers m.1 = false) ∧ ∀ m ∈ others',
      f.answers m.1 = false)
    (hold : members.Perm (changes.map Change.old ++ others))
    (hnew : members'.Perm (changes.map Change.new ++ others')) :
    (∀ r, fields.Holds .text room members r → ∃ q, fields.Holds .text room members' q ∧ Q r q) ∧
      ∀ q, fields.Holds .text room members' q → ∃ r, fields.Holds .text room members r ∧ Q r q := by
  induction h generalizing changes members members' with
  | none => exact ⟨fun _ _ => ⟨(), trivial, trivial⟩, fun _ _ => ⟨(), trivial, trivial⟩⟩
  | @field α ρ f fs slot rest R Q hlabel hsecond hvalue hrefl hdecode hrest ih =>
    rw [List.pairwise_cons] at hapart
    have hanswers : ∀ key, slot.answers key = f.answers key := by
      intro key
      unfold Slot.answers KnownField.answers
      rw [hlabel, hsecond]
    have hown := hothers f List.mem_cons_self
    obtain ⟨holdOwn, holdRest⟩ := filter_answers_perm hapart.1
      (fun c hc => ⟨(hfields c hc).mem, (hfields c hc).old⟩) hown.1 hold
    obtain ⟨hnewOwn, hnewRest⟩ := filter_answers_perm hapart.1
      (fun c hc => ⟨(hfields c hc).mem, (hfields c hc).new⟩) hown.2 hnew
    obtain ⟨hforth, hback⟩ := slot_holds_related hrefl hdecode honce hvalues holdOwn hnewOwn
    -- The other fields find the other members.
    have hrestFields : ∀ c ∈ changes.filter fun c => c.field ≠ f, c.IsFor fs := by
      intro c hc
      obtain ⟨hmem, hne⟩ := List.mem_filter.1 hc
      have hfor := hfields c hmem
      exact ⟨(List.mem_cons.1 hfor.mem).resolve_left (by simpa using hne), hfor.old, hfor.new⟩
    obtain ⟨hforthRest, hbackRest⟩ :=
      ih hapart.2 hrestFields (honce.sublist (List.filter_sublist.map _))
      (fun c hc => hvalues c (List.mem_filter.1 hc).1) (fun g hg =>
        hothers g (List.mem_cons_of_mem f hg))
      holdRest hnewRest
    unfold Fields.Holds
    simp only [hanswers]
    constructor
    · rintro ⟨a, r⟩ ⟨ha, hr⟩
      obtain ⟨b, hb, hab⟩ := hforth a ha
      obtain ⟨q, hq, hrq⟩ := hforthRest r hr
      exact ⟨(b, q), ⟨hb, hq⟩, hab, hrq⟩
    · rintro ⟨b, q⟩ ⟨hb, hq⟩
      obtain ⟨a, ha, hab⟩ := hback b hb
      obtain ⟨r, hr, hrq⟩ := hbackRest q hq
      exact ⟨(a, r), ⟨ha, hr⟩, hab, hrq⟩

/-- Fields read alike the items of a list that stands for a record. -/
theorem readItems_sameOutcome (h : fields.Follows room fs Q) {items : List (Json × Json)}
    (hitems : ∀ i ∈ items.zip fs, Respelled false room i.2.shape i.1.1 i.1.2)
    (tooShort : Nat → DecodeError) (position : Nat) :
    SameOutcome (fun x y => Q x.1 y.1 ∧ x.2.length = y.2.length)
      (fields.readItems .text room tooShort .closed position (itemTrees (items.map Prod.fst)))
      (fields.readItems .text room tooShort .closed position (itemTrees (items.map Prod.snd))) := by
  induction h generalizing items position with
  | none =>
    refine SameOutcome.ok ⟨trivial, ?_⟩
    simp [Decoder.itemTrees_eq]
  | @field α ρ f fs slot rest R Q hlabel hsecond hvalue hrefl hdecode hrest ih =>
    cases items with
    -- The list is too short for its record; from here on there is nothing to differ in.
    | nil =>
      refine SameOutcome.refl (fun x => ⟨?_, rfl⟩) _
      exact ⟨hrefl x.1.1, hrest.refl x.1.2⟩
    | cons i items =>
      have hfirst := hdecode i.1 i.2 (hitems (i, f) List.mem_cons_self)
      have hothers := ih (fun j hj => hitems j (List.mem_cons_of_mem _ hj)) (position + 1)
      refine hfirst.bind fun a b hab => hothers.bind ?_
      rintro ⟨r, surplus⟩ ⟨q, surplus'⟩ ⟨hrq, hlength⟩
      exact SameOutcome.ok ⟨⟨hab, hrq⟩, hlength⟩

end Fields.Follows

/-! ### Records, lists and what may be null -/

namespace Decoder

variable {α ρ : Type} {room : Nat} {k : RecordKind} {R : α → α → Prop}

/-- What a record makes of an object. -/
theorem record_object_eq_ok_iff {name : String} {fields : Fields ρ} {build : ρ → α}
    (hfresh : fields.isFresh = true) {form : Form} {members : List (String × Json)} {a : α} :
    record name fields build form room (Json.object members).toTree = .ok a ↔
      ∃ n r, room = n + 1 ∧ fields.Holds form n members r ∧ build r = a := by
  cases room with
  | zero =>
    refine iff_of_false (fun h => by cases h) ?_
    rintro ⟨n, r, h, -⟩
    cases h
  | succ n =>
    constructor
    · intro h
      cases htake : fields.takeAll form n (memberTrees members) with
      | error e =>
        rw [record_object_of_error htake] at h
        cases h
      | ok filled =>
        rw [record_object_of_ok htake, map_eq_ok_iff] at h
        -- The fields have taken all members; what is missing shows only when their results are
        -- asked for.
        obtain ⟨r, hr, hbuild⟩ := h
        exact ⟨n, r, rfl, (Fields.takeAll_results_iff hfresh).1 ⟨filled, htake, hr⟩, hbuild⟩
    · rintro ⟨n', r, hroom, hholds, rfl⟩
      cases hroom
      obtain ⟨filled, htake, hresults⟩ := (Fields.takeAll_results_iff hfresh).2 hholds
      rw [record_object_of_ok htake, map_eq_ok_iff]
      exact ⟨r, hresults, rfl⟩

/-- A list that stands for a record has no more items than the record has fields. -/
theorem refuseSurplus_sameOutcome {length length' : Nat} {surplus surplus' : List Tree}
    (h : surplus.length = surplus'.length) :
    SameOutcome (fun _ _ => True) (refuseSurplus .text length surplus .closed)
      (refuseSurplus .text length' surplus' .closed) := by
  cases surplus with
  | nil =>
    rw [List.length_eq_zero_iff.1 h.symm]
    exact SameOutcome.refl (fun _ => trivial) _
  | cons t surplus =>
    cases surplus' with
    | nil => cases h
    | cons t' surplus' => exact SameOutcome.error _ _

/-- A record whose fields read alike is read alike. -/
theorem record_sameOutcome {name : String} {fields : Fields ρ} {build : ρ → α} {Q : ρ → ρ → Prop}
    (hfields : ∀ n, room = n + 1 → fields.Follows n k.fields Q)
    (hbuild : ∀ r q, Q r q → R (build r) (build q)) (hrefl : ∀ a, R a a) {v v' : Json}
    (h : Respelled false room (.record k) v v') :
    SameOutcome R (record name fields build .text room v.toTree)
      (record name fields build .text room v'.toTree) := by
  cases h with
  | same => exact SameOutcome.refl hrefl _
  | @object _ _ _ changes others added members members' hchanges honce hvalues hothers hadded
    hold hnew =>
    cases room with
    | zero => exact SameOutcome.error _ _
    | succ n =>
      have hfollows := hfields n rfl
      -- No field answers to a member that the record does not know, neither to an old one nor to a
      -- new one.
      have hnone : ∀ f ∈ k.fields,
          (∀ m ∈ others, f.answers m.1 = false) ∧ ∀ m ∈ others ++ added, f.answers m.1 = false := by
        intro f hf
        have hunknown : ∀ key, k.knows key = false → f.answers key = false := by
          intro key hkey
          exact Bool.eq_false_iff.2 fun hans => List.any_eq_false.1 hkey f hf hans
        refine ⟨fun m hm => hunknown m.1 (hothers m hm), fun m hm => hunknown m.1 ?_⟩
        rcases List.mem_append.1 hm with hm | hm
        · exact hothers m hm
        · exact (hadded m hm).1
      obtain ⟨hforth, hback⟩ :=
        hfollows.holds_related k.fields_apart hchanges honce hvalues hnone hold hnew
      constructor
      · intro a ha
        obtain ⟨n', r, hn, hr, rfl⟩ := (record_object_eq_ok_iff hfollows.isFresh).1 ha
        cases hn
        obtain ⟨q, hq, hrq⟩ := hforth r hr
        exact ⟨build q, (record_object_eq_ok_iff hfollows.isFresh).2 ⟨n, q, rfl, hq, rfl⟩,
          hbuild r q hrq⟩
      · intro b hb
        obtain ⟨n', q, hn, hq, rfl⟩ := (record_object_eq_ok_iff hfollows.isFresh).1 hb
        cases hn
        obtain ⟨r, hr, hrq⟩ := hback q hq
        exact ⟨build r, (record_object_eq_ok_iff hfollows.isFresh).2 ⟨n, r, rfl, hr, rfl⟩,
          hbuild r q hrq⟩
  | @positional _ _ _ items hitems hsurplus =>
    cases room with
    | zero => exact SameOutcome.error _ _
    | succ n =>
      -- By position the items are what matters; the surplus is refused by its length alone.
      have hread := (hfields n rfl).readItems_sameOutcome hitems
        (fun position => .invalidLength position (lengthExpected name fields.size)) 0
      refine hread.bind ?_
      rintro ⟨r, surplus⟩ ⟨q, surplus'⟩ ⟨hrq, hlength⟩
      exact (refuseSurplus_sameOutcome hlength).bind fun _ _ _ => SameOutcome.ok (hbuild r q hrq)

/-- A list of items that are read alike is read alike. -/
theorem list_sameOutcome {d : Decoder α}
    (hitem : ∀ n, room = n + 1 → ∀ v v', Respelled false n (.record k) v v' →
      SameOutcome R (d .text n v.toTree) (d .text n v'.toTree))
    (hrefl : ∀ a, R a a) {v v' : Json} (h : Respelled false room (.records k) v v') :
    SameOutcome (List.Forall₂ R) (list d .text room v.toTree) (list d .text room v'.toTree) := by
  have hreflAll : ∀ as, List.Forall₂ R as as := fun as => List.forall₂_same.2 fun a _ => hrefl a
  cases h with
  | same => exact SameOutcome.refl hreflAll _
  | @records _ _ _ items hitems =>
    cases room with
    | zero => exact SameOutcome.error _ _
    | succ n =>
      have hmapM : SameOutcome (List.Forall₂ R) ((itemTrees (items.map Prod.fst)).mapM (d .text n))
          ((itemTrees (items.map Prod.snd)).mapM (d .text n)) := by
        -- The induction is on the pairs of items, so nothing may be left that speaks of the whole
        -- lists.
        clear hreflAll
        induction items with
        | nil => exact SameOutcome.ok .nil
        | cons i items ih =>
          rw [List.map_cons, List.map_cons, itemTrees, itemTrees, List.mapM_cons, List.mapM_cons]
          refine (hitem n rfl i.1 i.2 (hitems i List.mem_cons_self)).bind fun a b hab => ?_
          refine (ih fun j hj => hitems j (List.mem_cons_of_mem i hj)).bind fun as bs h => ?_
          exact SameOutcome.ok (.cons hab h)
      exact hmapM.bind fun as bs h => SameOutcome.ok h

/-- What may be null is read alike if a record that is there is. -/
theorem optional_sameOutcome {d : Decoder α} {shape : Shape}
    (hd : ∀ v v', Respelled false room shape v v' →
      SameOutcome R (d .text room v.toTree) (d .text room v'.toTree))
    (hrefl : ∀ a, R a a) {v v' : Json} (h : Respelled false room shape v v') :
    SameOutcome (Option.Rel R) (optional d .text room v.toTree)
      (optional d .text room v'.toTree) := by
  -- No respelling turns a record into null or null into a record.
  have hsome : ∀ {t t' : Tree}, t ≠ .null → t' ≠ .null →
      SameOutcome R (d .text room t) (d .text room t') →
      SameOutcome (Option.Rel R) (optional d .text room t) (optional d .text room t') := by
    intro t t' ht ht' hsame
    rw [optional_of_ne_null ht, optional_of_ne_null ht']
    exact hsame.map fun a b hab => .some hab
  have hboth := hd v v' h
  cases h with
  | same =>
    refine SameOutcome.refl (fun a? => ?_) _
    cases a? with
    | none => exact .none
    | some a => exact .some (hrefl a)
  | object => exact hsome nofun nofun hboth
  | positional => exact hsome nofun nofun hboth
  | records => exact hsome nofun nofun hboth
  | options => exact hsome nofun nofun hboth

end Decoder

end ProtoApi
