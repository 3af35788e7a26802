import ProtoApi.Model.Format
import ProtoApi.Proofs.Json.Written
import ProtoApi.Proofs.Table

namespace ProtoApi

open Json (Tree TreeMember memberTrees itemTrees)

/-!
# Decoders that read back what is written

* `Decoder.ReadsBack` — a decoder makes of a written value what the value was written for, in a text
  and in a value alike, wherever there is room for the containers of the value. The value is plain,
  so that nothing is lost in the text;
* `readsBack_string` and its likes — scalars;
* `readsBack_optional`, `readsBack_list`, `readsBack_table`, `readsBack_nameSet` — parts that recur,
  read back if what they are made of is;
* `readsBack_variant`, `readsBack_tagged` — variants, found under their names;
* `Fields.ReadsBack`, `readsBack_record` — records whose members come in the order of the fields,
  each under its label;
* `ReadsBack.ofText` — what is read back from a value is read back from both of its texts.
-/

namespace Decoder

/-- What `v` is written for is read back as `a`. -/
structure ReadsBack {α : Type} (d : Decoder α) (depth : Nat) (v : Json) (a : α) : Prop where
  plain : v.Plain
  decode : ∀ form room, depth ≤ room → d form room v.toTree = .ok a

variable {α : Type} {d : Decoder α} {depth : Nat}

/-! ### Scalars -/

/-- A text is read back, in quotes or as it is. -/
theorem readsBack_string (s : String) : ReadsBack string depth (.string s) s :=
  ⟨trivial, fun _ _ _ => rfl⟩

theorem readsBack_boolean (b : Bool) : ReadsBack boolean depth (.boolean b) b :=
  ⟨trivial, fun _ _ _ => rfl⟩

/-- A whole number between the bounds is read. -/
theorem integerBetween_ofInt {least greatest n : Int} (hl : least ≤ n) (hg : n ≤ greatest)
    (expected : String) (form : Form) (room : Nat) :
    integerBetween least greatest expected form room (Json.ofInt n).toTree = .ok n := by
  show (if least ≤ n ∧ n ≤ greatest then Except.ok n else _) = _
  exact if_pos ⟨hl, hg⟩

/-- A number of 32 bits is read back, which fits the bounds of its reader and those of a
    document. -/
theorem readsBack_int32 (n : Int32) : ReadsBack int32 depth (.ofInt n.toInt) n where
  plain := by
    have hleast := n.le_toInt
    have hgreatest := n.toInt_lt
    refine ⟨n.toInt, rfl, ?_⟩
    unfold Json.FitsWord UInt64.size
    omega
  decode form room _ := by
    show (integerBetween _ _ "i32" form room _).map Int32.ofInt = _
    rw [integerBetween_ofInt n.minValue_le_toInt n.toInt_le]
    show Except.ok (Int32.ofInt n.toInt) = _
    rw [Int32.ofInt_toInt]

/-- A position is read back if it fits 64 bits. -/
theorem readsBack_index {n : Nat} (h : n < UInt64.size) : ReadsBack index depth (.ofInt n) n where
  plain := by
    refine ⟨n, rfl, ?_⟩
    unfold Json.FitsWord
    omega
  decode form room _ := by
    show (integerBetween _ _ "usize" form room _).map Int.toNat = _
    rw [integerBetween_ofInt (by omega) (by omega)]
    show Except.ok (n : Int).toNat = _
    rw [Int.toNat_natCast]

/-! ### Containers -/

/-- A container is opened where there is room for it, and what is inside it is read with the room
    that is left. -/
theorem enter_eq_ok {room : Nat} {inside : Nat → Except DecodeError α} {a : α}
    (hroom : depth + 1 ≤ room) (h : ∀ room, depth ≤ room → inside room = .ok a) :
    enter room inside = .ok a := by
  cases room with
  | zero => exact absurd hroom (by omega)
  | succ room => exact h room (Nat.le_of_succ_le_succ hroom)

/-- What is not null is something. -/
theorem optional_of_ne_null {form : Form} {room : Nat} {t : Tree} (h : t ≠ .null) :
    optional d form room t = (d form room t).map some := by
  cases t with
  | null => exact absurd rfl h
  | boolean | number | string | array | object | fault => rfl

/-- Something that may be nothing is read back if what is written for it is never null. -/
theorem readsBack_optional {toJson : α → Json} {a? : Option α}
    (hnull : ∀ a, (toJson a).toTree ≠ .null)
    (h : ∀ a, a? = some a → ReadsBack d depth (toJson a) a) :
    ReadsBack (optional d) depth (.ofOption toJson a?) a? := by
  cases a? with
  | none => exact ⟨trivial, fun _ _ _ => rfl⟩
  | some a =>
    -- What is written for something is not null, so that it is not taken for nothing.
    have ha := h a rfl
    refine ⟨ha.plain, fun form room hroom => ?_⟩
    show optional d form room (toJson a).toTree = _
    rw [optional_of_ne_null (hnull a), ha.decode form room hroom]
    rfl

/-- The trees of items are those of one item after the other. -/
theorem itemTrees_eq (items : List Json) : itemTrees items = items.map Json.toTree := by
  induction items with
  | nil => rfl
  | cons v rest ih => rw [itemTrees, ih, List.map_cons]

/-- So it is for members, whose keys are read as they are written. -/
theorem memberTrees_eq (members : List (String × Json)) :
    memberTrees members = members.map fun m => (.of m.1, m.2.toTree) := by
  induction members with
  | nil => rfl
  | cons m rest ih => rw [memberTrees, ih, List.map_cons]

/-- A list of results is read if each of them is. -/
theorem mapM_eq_ok {ε β γ : Type} {f : β → Except ε γ} {g : γ → β} {xs : List γ}
    (h : ∀ x ∈ xs, f (g x) = .ok x) : (xs.map g).mapM f = .ok xs := by
  induction xs with
  | nil => rfl
  | cons x xs ih =>
    rw [List.map_cons, List.mapM_cons, h x List.mem_cons_self,
      ih fun y hy => h y (List.mem_cons_of_mem x hy)]
    rfl

/-- A list is read back if its items are. -/
theorem readsBack_list {toJson : α → Json} {xs : List α}
    (h : ∀ x ∈ xs, ReadsBack d depth (toJson x) x) :
    ReadsBack (list d) (depth + 1) (.ofList toJson xs) xs where
  plain := by
    rw [Json.ofList, Json.Plain, Json.plainItems_iff]
    intro v hv
    obtain ⟨x, hx, rfl⟩ := List.mem_map.1 hv
    exact (h x hx).plain
  decode form room hroom := by
    show enter room _ = _
    apply enter_eq_ok hroom
    intro room hroom
    have hitems : (itemTrees (xs.map toJson)).mapM (d form room) = .ok xs := by
      rw [itemTrees_eq, List.map_map]
      apply mapM_eq_ok
      intro x hx
      exact (h x hx).decode form room hroom
    rw [hitems]
    rfl

/-- A list of texts is read back. -/
theorem readsBack_strings (xs : List String) :
    ReadsBack (list string) (depth + 1) (.ofStrings xs) xs :=
  readsBack_list fun x _ => readsBack_string x

/-- A table is read back if its contents are. -/
theorem readsBack_table {toJson : α → Json} {t : Table α}
    (h : ∀ a ∈ t.values, ReadsBack d depth (toJson a) a) :
    ReadsBack (table d) (depth + 1) (.ofEntries toJson t) t where
  plain := by
    rw [Json.ofEntries, Json.Plain, Json.plainMembers_iff]
    intro m hm
    obtain ⟨e, he, rfl⟩ := List.mem_map.1 hm
    exact (h e.2 (List.mem_map_of_mem he)).plain
  decode form room hroom := by
    show enter room _ = _
    apply enter_eq_ok hroom
    intro room hroom
    -- Keys are texts, which are always read, so that the contents decide.
    have hentries : (memberTrees (t.entries.map fun e => (e.1, toJson e.2))).mapM
        (fun (key, t) => do return (← read key, ← d form room t)) = .ok t.entries := by
      rw [memberTrees_eq, List.map_map]
      apply mapM_eq_ok
      intro e he
      have hread := (h e.2 (List.mem_map_of_mem he)).decode form room hroom
      show (d form room (toJson e.2).toTree >>= fun a => _) = _
      rw [hread]
      rfl
    rw [hentries]
    show Except.ok (Table.ofList t.entries) = _
    rw [Table.ofList_entries]

/-- A set of names is read back. -/
theorem readsBack_nameSet (s : NameSet) : ReadsBack nameSet (depth + 1) (.ofStrings s.names) s where
  plain := by
    have hnames : ReadsBack (list string) (depth + 1) (.ofStrings s.names) s.names :=
      readsBack_strings s.names
    exact hnames.plain
  decode form room hroom := by
    show (list string form room _).map NameSet.ofNames = _
    rw [(readsBack_strings s.names).decode form room hroom]
    show Except.ok (NameSet.ofNames s.names) = _
    rw [NameSet.ofNames_names]

/-! ### Variants -/

/-- A variant is read back from its name. -/
theorem readsBack_variant {variants : List (String × α)} {name : String} {a : α}
    (h : variants.lookup name = some a) : ReadsBack (variant variants) depth (.string name) a where
  plain := trivial
  decode form room _ := by
    cases form with
    | text =>
      show variantNamed variants name = _
      rw [variantNamed, h]
    | value =>
      show variantNamed variants name = _
      rw [variantNamed, h]

section Tagged

variable {tag content : String} {variants : List (String × Decoder α)} {form : Form} {room : Nat}
  {t : Tree}

/-- The tag chooses how the content is read. -/
theorem member_tag (h : variant variants form room t = .ok d) :
    Tagged.member tag content variants form room {} tag t = .ok { tag := some d } := by
  have hfresh : ¬ ({} : Tagged α).tag.isSome = true := Bool.false_ne_true
  unfold Tagged.member
  rw [if_pos rfl, if_neg hfresh, h]
  rfl

/-- The content is read as the tag says, and the variant is known then. -/
theorem member_content {a : α} (hkeys : content ≠ tag) (h : d form room t = .ok a) :
    Tagged.member tag content variants form room { tag := some d } content t
      = .ok { tag := some d, result := some a } := by
  have hfresh :
      ¬ (({ tag := some d } : Tagged α).result.isSome || ({ tag := some d } : Tagged α).kept.isSome)
        = true :=
    Bool.false_ne_true
  unfold Tagged.member
  rw [if_neg hkeys, if_pos rfl, if_neg hfresh]
  simp only
  rw [h]
  rfl

end Tagged

/-- A variant with a content is read back where its tag comes first. -/
theorem readsBack_tagged {type tag content name : String} {variants : List (String × Decoder α)}
    {v : Json} {a : α} (hkeys : content ≠ tag) (hname : variants.lookup name = some d)
    (h : ReadsBack d depth v a) :
    ReadsBack (tagged type tag content variants) (depth + 1)
      (.object [(tag, .string name), (content, v)]) a where
  plain := by
    rw [Json.Plain, Json.PlainMembers, Json.PlainMembers]
    exact ⟨trivial, h.plain, trivial⟩
  decode form room hroom := by
    show enter room _ = _
    apply enter_eq_ok hroom
    intro room hroom
    have hvariant : ReadsBack (variant variants) depth (.string name) d := readsBack_variant hname
    -- The tag comes first, so that the content is decoded at once and never kept.
    have hmembers : Tagged.members tag content variants form room {}
        [(.of tag, (Json.string name).toTree), (.of content, v.toTree)]
          = .ok { tag := some d, result := some a } := by
      show (Tagged.member tag content variants form room {} tag (Json.string name).toTree
        >>= fun seen => _) = _
      rw [member_tag (hvariant.decode form room hroom)]
      show (Tagged.member tag content variants form room { tag := some d } content v.toTree
        >>= fun seen => _) = _
      rw [member_content hkeys (h.decode form room hroom)]
      rfl
    show (Tagged.members tag content variants form room {}
      [(.of tag, (Json.string name).toTree), (.of content, v.toTree)] >>= fun seen => _) = _
    rw [hmembers]
    rfl

end Decoder

/-! ### Records -/

/-- Members in the order of some fields, each under the label of its field, are read back as the
    contents of the fields. -/
inductive Fields.ReadsBack (depth : Nat) :
    {ρ : Type} → Fields ρ → List (String × Json) → ρ → Prop where
  | none : ReadsBack depth .none [] ()
  | field {α ρ : Type} {slot : Slot α} {rest : Fields ρ} {v : Json} {members : List (String × Json)}
      {a : α} {r : ρ} (hsecond : slot.second = Option.none) (hvalue : slot.value = Option.none)
      (h : Decoder.ReadsBack slot.decode depth v a) (hrest : ReadsBack depth rest members r) :
      ReadsBack depth (.field slot rest) ((slot.label, v) :: members) (a, r)

namespace Fields

/-- The labels of some fields. -/
def labels {ρ : Type} : Fields ρ → List String
  | none => []
  | field slot rest => slot.label :: rest.labels

/-- Whether nothing has been read so far. -/
def isFresh {ρ : Type} : Fields ρ → Bool
  | none => true
  | field slot rest => slot.value.isNone && rest.isFresh

variable {α ρ : Type} {form : Form} {room depth : Nat}

/-- Members are taken one by one, and the first one that cannot be taken ends it. -/
theorem takeAll_cons (fields : Fields ρ) (key : String) (t : Tree) (members : List TreeMember) :
    fields.takeAll form room ((.of key, t) :: members)
      = fields.take form room key t >>= fun fields => fields.takeAll form room members := by
  have hread : Decoder.read (Json.Lexeme.of key) = .ok key := rfl
  rw [takeAll, hread]
  simp only
  cases fields.take form room key t <;> rfl

/-- A field takes what stands under a name of its own. -/
theorem take_of_answers {slot : Slot α} {key : String} (h : slot.answers key = true)
    (rest : Fields ρ) (t : Tree) :
    (Fields.field slot rest).take form room key t = (slot.fill form room t).map fun slot =>
      .field slot rest := by
  rw [take, if_pos h]
  cases slot.fill form room t <;> rfl

/-- A field passes on what stands under a key that it does not answer to. -/
theorem take_field {slot : Slot α} {key : String} (h : slot.answers key = false) (rest : Fields ρ)
    (t : Tree) :
    (Fields.field slot rest).take form room key t
      = (rest.take form room key t).map (Fields.field slot) := by
  rw [take, if_neg (Bool.eq_false_iff.1 h)]
  cases rest.take form room key t <;> rfl

/-- A field passes on all members if it answers to none of their keys. -/
theorem takeAll_field {slot : Slot α} {members : List (String × Json)}
    (h : ∀ m ∈ members, slot.answers m.1 = false) (rest : Fields ρ) :
    (Fields.field slot rest).takeAll form room (memberTrees members)
      = (rest.takeAll form room (memberTrees members)).map (Fields.field slot) := by
  induction members generalizing rest with
  | nil => rfl
  | cons m members ih =>
    rw [memberTrees, takeAll_cons, takeAll_cons, take_field (h m List.mem_cons_self)]
    cases rest.take form room m.1 m.2.toTree with
    | error e => rfl
    | ok rest => exact ih (fun m' hm' => h m' (List.mem_cons_of_mem m hm')) rest

/-- A field takes what stands under its label. -/
theorem take_label {slot : Slot α} {t : Tree} {a : α} (hvalue : slot.value = Option.none)
    (h : slot.decode form room t = .ok a) (rest : Fields ρ) :
    (Fields.field slot rest).take form room slot.label t
      = .ok (.field { slot with value := some a } rest) := by
  have hfresh : ¬ slot.value.isSome = true := by
    rw [hvalue]
    exact Bool.false_ne_true
  -- The field is empty, so that this is not a member too many.
  have hfill : slot.fill form room t = .ok { slot with value := some a } := by
    unfold Slot.fill
    rw [if_neg hfresh, h]
    rfl
  have hanswers : slot.answers slot.label = true := by simp [Slot.answers]
  rw [take, if_pos hanswers, hfill]

/-- The keys of the members are the labels of the fields, in the same order. -/
theorem ReadsBack.keys_eq {fields : Fields ρ} {members : List (String × Json)} {r : ρ}
    (h : fields.ReadsBack depth members r) : members.map (·.1) = fields.labels := by
  induction h with
  | none => rfl
  | field _ _ _ _ ih => rw [List.map_cons, ih, labels]

/-- The members are plain if the content of each field is. -/
theorem ReadsBack.plain {fields : Fields ρ} {members : List (String × Json)} {r : ρ}
    (h : fields.ReadsBack depth members r) : Json.PlainMembers members := by
  induction h with
  | none => exact trivial
  | field _ _ h _ ih => exact ⟨h.plain, ih⟩

/-- Once all members are taken, the fields hold their contents. The members are taken by one field
    after the other, as none answers to the label of another one. -/
theorem ReadsBack.exists_takeAll {fields : Fields ρ} {members : List (String × Json)} {r : ρ}
    (h : fields.ReadsBack depth members r) (hlabels : fields.labels.Nodup) (hroom : depth ≤ room) :
    ∃ filled, fields.takeAll form room (memberTrees members) = .ok filled ∧
      filled.results = .ok r := by
  induction h with
  | none => exact ⟨.none, rfl, rfl⟩
  | @field α ρ slot rest v members a r hsecond hvalue h hrest ih =>
    rw [labels, List.nodup_cons] at hlabels
    obtain ⟨filled, htake, hresults⟩ := ih hlabels.2
    -- The first member fills the first field, which then passes all others on.
    refine ⟨.field { slot with value := some a } filled, ?_, ?_⟩
    · rw [memberTrees, takeAll_cons, take_label hvalue (h.decode form room hroom)]
      show takeAll form room (.field { slot with value := some a } rest) (memberTrees members) = _
      rw [takeAll_field, htake]
      · rfl
      · intro m hm
        have hlabel : m.1 ≠ slot.label := by
          intro heq
          rw [← hrest.keys_eq] at hlabels
          exact hlabels.1 (List.mem_map.2 ⟨m, hm, heq⟩)
        simp [Slot.answers, hlabel, hsecond]
    · show (Except.ok a >>= fun a => filled.results >>= fun r => _) = _
      rw [hresults]
      rfl

end Fields

namespace Decoder

variable {α ρ : Type} {depth : Nat}

/-- A record is made of an object whose members are all taken. -/
theorem record_object_of_ok {name : String} {fields filled : Fields ρ} {build : ρ → α} {form : Form}
    {room : Nat} {members : List (String × Json)}
    (h : fields.takeAll form room (memberTrees members) = .ok filled) :
    record name fields build form (room + 1) (Json.object members).toTree
      = filled.results.map build := by
  rw [Json.toTree, record, enter, h]
  dsimp only
  cases filled.results <;> rfl

/-- No record is made of an object with a member that cannot be taken. -/
theorem record_object_of_error {name : String} {fields : Fields ρ} {build : ρ → α} {form : Form}
    {room : Nat} {members : List (String × Json)} {e : DecodeError}
    (h : fields.takeAll form room (memberTrees members) = .error e) :
    record name fields build form (room + 1) (Json.object members).toTree = .error e := by
  rw [Json.toTree, record, enter, h]

/-- A record is read back from an object with a member for each field, in the order of the
    fields. -/
theorem readsBack_record {name : String} {fields : Fields ρ} {build : ρ → α}
    {members : List (String × Json)} {r : ρ} (hlabels : fields.labels.Nodup)
    (h : fields.ReadsBack depth members r) :
    ReadsBack (record name fields build) (depth + 1) (.object members) (build r) where
  plain := h.plain
  decode form room hroom := by
    show enter room _ = _
    apply enter_eq_ok hroom
    intro room hroom
    -- Every member is taken by its field, and every field has its content in the end.
    obtain ⟨filled, htake, hresults⟩ := h.exists_takeAll hlabels hroom
    rw [htake]
    show (filled.results >>= fun r => _) = _
    rw [hresults]
    rfl

/-! ### Whole documents -/

/-- What is read back from a value is read back from both of its texts. -/
theorem ReadsBack.ofText {d : Decoder α} {v : Json} {a : α} (h : ReadsBack d depth v a)
    (hdepth : depth ≤ nestingLimit) : d.ofText v.compact = .ok a ∧ d.ofText v.pretty = .ok a := by
  have hdecode := h.decode .text nestingLimit hdepth
  constructor
  · unfold Decoder.ofText
    rw [Json.ofText_compact h.plain]
    show (d .text nestingLimit v.toTree >>= fun a => _) = _
    rw [hdecode]
    rfl
  · unfold Decoder.ofText
    rw [Json.ofText_pretty h.plain]
    show (d .text nestingLimit v.toTree >>= fun a => _) = _
    rw [hdecode]
    rfl

end Decoder

end ProtoApi
