import ProtoApi.Proofs.Spelling.Options

namespace ProtoApi

open Decoder (string boolean int32 list optional record record_sameOutcome list_sameOutcome
  optional_sameOutcome)

/-!
# Declarations that are written in two ways

* `Alike` of each declaration — two declarations that differ in their options at most, which are
  alike;
* `Fields.Follows.leaf`, `Fields.Follows.options`, `Fields.Follows.records` — fields without
  records, with options and with lists of records;
* `decoder_sameOutcome` of each declaration — this is what is decoded of two ways of writing.
-/

/-! ### Declarations that are alike -/

/-- Fields that differ in their options at most. -/
def FieldDecl.Alike (f f' : FieldDecl) : Prop :=
  ∃ options?, Options.Alike f.options? options? ∧ f' = { f with options? }

/-- Values of an enum that differ in their options at most. -/
def EnumValueDecl.Alike (v v' : EnumValueDecl) : Prop :=
  ∃ options?, Options.Alike v.options? options? ∧ v' = { v with options? }

/-- Enums that differ in their options, and in those of their values, at most. -/
def EnumDecl.Alike (e e' : EnumDecl) : Prop :=
  ∃ values options?, List.Forall₂ EnumValueDecl.Alike e.values values ∧
    Options.Alike e.options? options? ∧
    e' = { e with values, options? }

/-- Messages that differ in options at most, their own or those of what is declared inside them. -/
inductive MessageDecl.Alike : MessageDecl → MessageDecl → Prop
  | mk {name? : Option String} {fields fields' : List FieldDecl}
      {nested : List (MessageDecl × MessageDecl)}
      {enums enums' : List EnumDecl} {oneofs : List OneofDecl} {options? options?' : Option Options}
      (hfields : List.Forall₂ FieldDecl.Alike fields fields')
      (hnested : ∀ i ∈ nested, Alike i.1 i.2)
      (henums : List.Forall₂ EnumDecl.Alike enums enums')
      (hoptions : Options.Alike options? options?') :
      Alike ⟨name?, fields, nested.map Prod.fst, enums, oneofs, options?⟩
        ⟨name?, fields', nested.map Prod.snd, enums', oneofs, options?'⟩

/-- Methods that differ in their options at most. -/
def MethodDecl.Alike (m m' : MethodDecl) : Prop :=
  ∃ options?, Options.Alike m.options? options? ∧ m' = { m with options? }

/-- Services that differ in their options, and in those of their methods, at most. -/
def ServiceDecl.Alike (s s' : ServiceDecl) : Prop :=
  ∃ methods options?, List.Forall₂ MethodDecl.Alike s.methods methods ∧
    Options.Alike s.options? options? ∧
    s' = { s with methods, options? }

/-- Files that differ in options at most. -/
def FileDecl.Alike (f f' : FileDecl) : Prop :=
  ∃ messages enums services options?, List.Forall₂ MessageDecl.Alike f.messages messages ∧
    List.Forall₂ EnumDecl.Alike f.enums enums ∧ List.Forall₂ ServiceDecl.Alike f.services services ∧
    f' = { f with messages, enums, services, options? }

/-- Sets of files that differ in options at most. -/
def DescriptorSet.Alike (s s' : DescriptorSet) : Prop :=
  List.Forall₂ FileDecl.Alike s.files s'.files

/-- Lists are alike that can be paired off. -/
theorem forall₂_iff_exists_pairs {α : Type} {R : α → α → Prop} {xs ys : List α} :
    List.Forall₂ R xs ys ↔ ∃ pairs : List (α × α),
      xs = pairs.map Prod.fst ∧ ys = pairs.map Prod.snd ∧ ∀ i ∈ pairs, R i.1 i.2 := by
  constructor
  · intro h
    induction h with
    | nil => exact ⟨[], rfl, rfl, nofun⟩
    | @cons x y xs ys hxy _ ih =>
      obtain ⟨pairs, rfl, rfl, hpairs⟩ := ih
      exact ⟨(x, y) :: pairs, rfl, rfl, List.forall_mem_cons.2 ⟨hxy, hpairs⟩⟩
  · rintro ⟨pairs, rfl, rfl, hpairs⟩
    rw [List.forall₂_map_left_iff, List.forall₂_map_right_iff]
    exact List.forall₂_same.2 hpairs

/-- A declaration is alike to itself, which covers what a decoder leaves at its default. -/
theorem FieldDecl.Alike.refl (f : FieldDecl) : f.Alike f := ⟨f.options?, .refl _, rfl⟩

theorem EnumValueDecl.Alike.refl (v : EnumValueDecl) : v.Alike v := ⟨v.options?, .refl _, rfl⟩

theorem EnumDecl.Alike.refl (e : EnumDecl) : e.Alike e :=
  ⟨e.values, e.options?, List.forall₂_same.2 fun v _ => .refl v, .refl _, rfl⟩

theorem MethodDecl.Alike.refl (m : MethodDecl) : m.Alike m := ⟨m.options?, .refl _, rfl⟩

theorem ServiceDecl.Alike.refl (s : ServiceDecl) : s.Alike s :=
  ⟨s.methods, s.options?, List.forall₂_same.2 fun m _ => .refl m, .refl _, rfl⟩

/-- Messages are alike if their parts are one by one, so that the nested ones need not be paired
    off. -/
theorem MessageDecl.Alike.of_forall₂ {name? : Option String} {fields fields' : List FieldDecl}
    {nested nested' : List MessageDecl} {enums enums' : List EnumDecl} {oneofs : List OneofDecl}
    {options? options?' : Option Options} (hfields : List.Forall₂ FieldDecl.Alike fields fields')
    (hnested : List.Forall₂ MessageDecl.Alike nested nested')
    (henums : List.Forall₂ EnumDecl.Alike enums enums')
    (hoptions : Options.Alike options? options?') :
    MessageDecl.Alike ⟨name?, fields, nested, enums, oneofs, options?⟩
      ⟨name?, fields', nested', enums', oneofs, options?'⟩ := by
  obtain ⟨pairs, rfl, rfl, hpairs⟩ := forall₂_iff_exists_pairs.1 hnested
  exact .mk hfields hpairs henums hoptions

/-- A message is alike to itself, and so are the messages inside it. -/
theorem MessageDecl.Alike.refl : (m : MessageDecl) → m.Alike m
  | ⟨_, _, _, _, _, _⟩ =>
    .of_forall₂ (List.forall₂_same.2 fun f _ => .refl f)
      (List.forall₂_same.2 fun n _ => MessageDecl.Alike.refl n)
      (List.forall₂_same.2 fun e _ => .refl e) (.refl _)

theorem FileDecl.Alike.refl (f : FileDecl) : f.Alike f :=
  ⟨f.messages, f.enums, f.services, f.options?, List.forall₂_same.2 fun m _ => .refl m,
    List.forall₂_same.2 fun e _ => .refl e, List.forall₂_same.2 fun s _ => .refl s, rfl⟩

theorem DescriptorSet.Alike.refl (s : DescriptorSet) : s.Alike s :=
  List.forall₂_same.2 fun f _ => .refl f

/-! ### What is decoded -/

namespace Fields.Follows

variable {α ρ : Type} {room : Nat} {f : KnownField} {fs : List KnownField} {rest : Fields ρ}
  {Q : ρ → ρ → Prop}

/-- A field without records. -/
theorem leaf {slot : Slot α} (hshape : f.shape = .leaf) (hlabel : slot.label = f.label)
    (hsecond : slot.second = f.second?) (hvalue : slot.value = Option.none)
    (hrest : rest.Follows room fs Q) :
    (Fields.field slot rest).Follows room (f :: fs) fun r r' => r.1 = r'.1 ∧ Q r.2 r'.2 := by
  refine .field hlabel hsecond hvalue (fun _ => rfl) (fun v v' h => ?_) hrest
  rw [hshape] at h
  -- Without records there is one way of writing only.
  cases h with
  | same => exact SameOutcome.refl (fun _ => rfl) _

/-- The options of a declaration. -/
theorem options (hshape : f = { label := "options", shape := .options })
    (hrest : rest.Follows room fs Q) :
    (Fields.field optionsSlot rest).Follows room (f :: fs) fun r r' =>
      Options.Alike r.1 r'.1 ∧ Q r.2 r'.2 := by
  subst hshape
  exact .field rfl rfl rfl Options.Alike.refl (fun _ _ h => optionsSlot_sameOutcome h) hrest

/-- A field that holds a list of records. -/
theorem records {k : RecordKind} {label : String} {second : Option String} {d : Decoder α}
    {R : α → α → Prop}
    (hd : ∀ n, room = n + 1 → ∀ v v', Respelled false n (.record k) v v' →
      SameOutcome R (d .text n v.toTree) (d .text n v'.toTree))
    (hrefl : ∀ a, R a a) (hrest : rest.Follows room fs Q) :
    (Fields.field (Slot.orElse label (list d) [] second) rest).Follows room
      (⟨label, second, .records k⟩ :: fs) fun r r' => List.Forall₂ R r.1 r'.1 ∧ Q r.2 r'.2 :=
  .field rfl rfl rfl (fun _ => List.forall₂_same.2 fun a _ => hrefl a)
    (fun _ _ h => list_sameOutcome hd hrefl h) hrest

/-- A field that holds a list of records in which nothing can differ. -/
theorem records_eq {k : RecordKind} {label : String} {second : Option String} {d : Decoder α}
    (hd : ∀ n, room = n + 1 → ∀ v v', Respelled false n (.record k) v v' →
      SameOutcome Eq (d .text n v.toTree) (d .text n v'.toTree)) (hrest : rest.Follows room fs Q) :
    (Fields.field (Slot.orElse label (list d) [] second) rest).Follows room
      (⟨label, second, .records k⟩ :: fs) fun r r' => r.1 = r'.1 ∧ Q r.2 r'.2 := by
  refine .field rfl rfl rfl (fun _ => rfl) (fun v v' h => ?_) hrest
  refine (list_sameOutcome hd (fun _ => rfl) h).mono fun as bs has => ?_
  rwa [List.forall₂_eq_eq_eq] at has

/-- A field that holds a record in which nothing can differ, or null. -/
theorem optional_eq {k : RecordKind} {slot : Slot (Option α)} {d : Decoder α}
    (hdecode : slot.decode = optional d) (hshape : f.shape = .record k)
    (hlabel : slot.label = f.label) (hsecond : slot.second = f.second?)
    (hvalue : slot.value = Option.none)
    (hd : ∀ v v', Respelled false room (.record k) v v' →
      SameOutcome Eq (d .text room v.toTree) (d .text room v'.toTree))
    (hrest : rest.Follows room fs Q) :
    (Fields.field slot rest).Follows room (f :: fs) fun r r' => r.1 = r'.1 ∧ Q r.2 r'.2 := by
  refine .field hlabel hsecond hvalue (fun _ => rfl) (fun v v' h => ?_) hrest
  rw [hshape] at h
  rw [hdecode]
  refine (optional_sameOutcome hd (fun _ => rfl) h).mono fun a? b? hab => ?_
  cases hab with
  | none => rfl
  | some hab => rw [hab]

end Fields.Follows

section Decoders

variable {room : Nat} {v v' : Json}

open Fields.Follows (leaf options records records_eq optional_eq)

/-- Two ways of writing a field are decoded to fields that are alike, or neither of them is
    decoded. -/
theorem FieldDecl.decoder_sameOutcome (h : Respelled false room (.record .field) v v') :
    SameOutcome FieldDecl.Alike (FieldDecl.decoder .text room v.toTree)
      (FieldDecl.decoder .text room v'.toTree) := by
  refine record_sameOutcome (fun n hn => leaf rfl rfl rfl rfl <| leaf rfl rfl rfl rfl <|
    leaf rfl rfl rfl rfl <| leaf rfl rfl rfl rfl <| leaf rfl rfl rfl rfl <|
    leaf rfl rfl rfl rfl <| options rfl <| leaf rfl rfl rfl rfl <|
    leaf rfl rfl rfl rfl .none) ?_ FieldDecl.Alike.refl h
  -- The contents are compared field by field, in the order of the record.
  rintro ⟨_, _, _, _, _, _, options?, _, _, _⟩ ⟨_, _, _, _, _, _, options?', _, _, _⟩
    ⟨rfl, rfl, rfl, rfl, rfl, rfl, hoptions, rfl, rfl, _⟩
  exact ⟨options?', hoptions, rfl⟩

/-- A oneof has no options, so what is decoded is the same. -/
theorem OneofDecl.decoder_sameOutcome (h : Respelled false room (.record .oneof) v v') :
    SameOutcome Eq (OneofDecl.decoder .text room v.toTree)
      (OneofDecl.decoder .text room v'.toTree) := by
  refine record_sameOutcome (fun n hn => leaf rfl rfl rfl rfl .none) ?_ (fun _ => rfl) h
  rintro ⟨_, _⟩ ⟨_, _⟩ ⟨rfl, _⟩
  rfl

/-- The values of an enum. -/
theorem EnumValueDecl.decoder_sameOutcome (h : Respelled false room (.record .enumValue) v v') :
    SameOutcome EnumValueDecl.Alike (EnumValueDecl.decoder .text room v.toTree)
      (EnumValueDecl.decoder .text room v'.toTree) := by
  refine record_sameOutcome (fun n hn => leaf rfl rfl rfl rfl <| leaf rfl rfl rfl rfl <|
    options rfl .none) ?_ EnumValueDecl.Alike.refl h
  rintro ⟨_, _, _, _⟩ ⟨_, _, options?', _⟩ ⟨rfl, rfl, hoptions, _⟩
  exact ⟨options?', hoptions, rfl⟩

/-- Enums, with the values in them. -/
theorem EnumDecl.decoder_sameOutcome (h : Respelled false room (.record .enum) v v') :
    SameOutcome EnumDecl.Alike (EnumDecl.decoder .text room v.toTree)
      (EnumDecl.decoder .text room v'.toTree) := by
  refine record_sameOutcome (fun n hn => leaf rfl rfl rfl rfl <|
    records (fun _ _ _ _ h => EnumValueDecl.decoder_sameOutcome h) EnumValueDecl.Alike.refl <|
    options rfl .none) ?_ EnumDecl.Alike.refl h
  rintro ⟨_, _, _, _⟩ ⟨_, values', options?', _⟩ ⟨rfl, hvalues, hoptions, _⟩
  exact ⟨values', options?', hvalues, hoptions, rfl⟩

/-- Methods. -/
theorem MethodDecl.decoder_sameOutcome (h : Respelled false room (.record .method) v v') :
    SameOutcome MethodDecl.Alike (MethodDecl.decoder .text room v.toTree)
      (MethodDecl.decoder .text room v'.toTree) := by
  refine record_sameOutcome (fun n hn => leaf rfl rfl rfl rfl <| leaf rfl rfl rfl rfl <|
    leaf rfl rfl rfl rfl <| leaf rfl rfl rfl rfl <| leaf rfl rfl rfl rfl <|
    options rfl .none) ?_ MethodDecl.Alike.refl h
  rintro ⟨_, _, _, _, _, _, _⟩ ⟨_, _, _, _, _, options?', _⟩ ⟨rfl, rfl, rfl, rfl, rfl, hoptions, _⟩
  exact ⟨options?', hoptions, rfl⟩

/-- Services, with the methods in them. -/
theorem ServiceDecl.decoder_sameOutcome (h : Respelled false room (.record .service) v v') :
    SameOutcome ServiceDecl.Alike (ServiceDecl.decoder .text room v.toTree)
      (ServiceDecl.decoder .text room v'.toTree) := by
  refine record_sameOutcome (fun n hn => leaf rfl rfl rfl rfl <|
    records (fun _ _ _ _ h => MethodDecl.decoder_sameOutcome h) MethodDecl.Alike.refl <|
    options rfl .none) ?_ ServiceDecl.Alike.refl h
  rintro ⟨_, _, _, _⟩ ⟨_, methods', options?', _⟩ ⟨rfl, hmethods, hoptions, _⟩
  exact ⟨methods', options?', hmethods, hoptions, rfl⟩

/-- A location holds no record, so what is decoded is the same. -/
theorem Location.decoder_sameOutcome (h : Respelled false room (.record .location) v v') :
    SameOutcome Eq (Location.decoder .text room v.toTree)
      (Location.decoder .text room v'.toTree) := by
  refine record_sameOutcome (fun n hn => leaf rfl rfl rfl rfl <| leaf rfl rfl rfl rfl .none) ?_
    (fun _ => rfl) h
  rintro ⟨_, _, _⟩ ⟨_, _, _⟩ ⟨rfl, rfl, _⟩
  rfl

/-- The locations of a file. -/
theorem Location.listDecoder_sameOutcome (h : Respelled false room (.record .sourceInfo) v v') :
    SameOutcome Eq (Location.listDecoder .text room v.toTree)
      (Location.listDecoder .text room v'.toTree) := by
  refine record_sameOutcome (fun n hn =>
    records_eq (fun _ _ _ _ h => Location.decoder_sameOutcome h) .none) ?_ (fun _ => rfl) h
  rintro ⟨_, _⟩ ⟨_, _⟩ ⟨rfl, _⟩
  rfl

/-- A message is read in its room, and the messages inside it in what is left of it. -/
theorem MessageDecl.decodeWithin_eq (form : Form) (room : Nat) : ∃ nested : Decoder MessageDecl,
    decodeWithin form room = decoderWith nested form room ∧
      ∀ m, room = m + 2 → nested form m = decodeWithin form m := by
  rcases room with _ | _ | room
  · exact ⟨_, rfl, fun _ h => by cases h⟩
  · exact ⟨_, rfl, fun _ h => by cases h⟩
  · refine ⟨_, rfl, fun m h => ?_⟩
    cases h
    rfl

/-- Messages at any depth. -/
theorem MessageDecl.decoder_sameOutcome (h : Respelled false room (.record .message) v v') :
    SameOutcome MessageDecl.Alike (MessageDecl.decoder .text room v.toTree)
      (MessageDecl.decoder .text room v'.toTree) := by
  induction room using Nat.strong_induction_on generalizing v v' with
  | h room ih =>
    obtain ⟨nested, heq, hnested⟩ := MessageDecl.decodeWithin_eq .text room
    show SameOutcome _ (decodeWithin .text room v.toTree) (decodeWithin .text room v'.toTree)
    rw [heq]
    -- Messages inside a message stand two places deeper: in a list, which is a member of a record.
    have hinner : ∀ n, room = n + 1 → ∀ m, n = m + 1 → ∀ v v',
        Respelled false m (.record .message) v v' →
        SameOutcome MessageDecl.Alike (nested .text m v.toTree) (nested .text m v'.toTree) := by
      rintro n rfl m rfl v v' h
      rw [hnested m rfl]
      exact ih m (by omega) h
    unfold decoderWith
    refine record_sameOutcome (k := .message) (fun n hn => leaf rfl rfl rfl rfl <|
      records (fun _ _ _ _ h => FieldDecl.decoder_sameOutcome h) FieldDecl.Alike.refl <|
      records (hinner n hn) MessageDecl.Alike.refl <|
      records (fun _ _ _ _ h => EnumDecl.decoder_sameOutcome h) EnumDecl.Alike.refl <|
      records_eq (fun _ _ _ _ h => OneofDecl.decoder_sameOutcome h) <| options rfl .none) ?_
        MessageDecl.Alike.refl h
    rintro ⟨_, _, _, _, _, _, _⟩ ⟨_, _, _, _, _, _, _⟩ ⟨rfl, hfields, hnested, henums, rfl,
      hoptions, _⟩
    exact .of_forall₂ hfields hnested henums hoptions

/-- Files, with the declarations in them. -/
theorem FileDecl.decoder_sameOutcome (h : Respelled false room (.record .file) v v') :
    SameOutcome FileDecl.Alike (FileDecl.decoder .text room v.toTree)
      (FileDecl.decoder .text room v'.toTree) := by
  refine record_sameOutcome (fun n hn => leaf rfl rfl rfl rfl <| leaf rfl rfl rfl rfl <|
    records (fun _ _ _ _ h => MessageDecl.decoder_sameOutcome h) MessageDecl.Alike.refl <|
    records (fun _ _ _ _ h => EnumDecl.decoder_sameOutcome h) EnumDecl.Alike.refl <|
    records (fun _ _ _ _ h => ServiceDecl.decoder_sameOutcome h) ServiceDecl.Alike.refl <|
    options rfl <| optional_eq rfl rfl rfl rfl rfl
      (fun _ _ h => Location.listDecoder_sameOutcome h) .none) ?_ FileDecl.Alike.refl h
  rintro ⟨_, _, _, _, _, _, _, _⟩ ⟨_, _, messages', enums', services', options?', _, _⟩
    ⟨rfl, rfl, hmessages, henums, hservices, -, rfl, _⟩
  exact ⟨messages', enums', services', options?', hmessages, henums, hservices, rfl⟩

/-- Sets of files that are written in two ways are decoded alike, or not at all. -/
theorem DescriptorSet.decoder_sameOutcome (h : Respelled false room (.record .descriptorSet) v v') :
    SameOutcome DescriptorSet.Alike (DescriptorSet.decoder .text room v.toTree)
      (DescriptorSet.decoder .text room v'.toTree) := by
  refine record_sameOutcome (fun n hn => records (fun _ _ _ _ h => FileDecl.decoder_sameOutcome h)
    FileDecl.Alike.refl .none) ?_ DescriptorSet.Alike.refl h
  rintro ⟨_, _⟩ ⟨_, _⟩ ⟨hfiles, _⟩
  exact hfiles

end Decoders

end ProtoApi
