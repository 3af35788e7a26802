import ProtoApi.Build.Pipeline
import ProtoApi.Proofs.Build.Positions
import ProtoApi.Proofs.Json.Width

namespace ProtoApi

open Json (Tree TreeMember Closing Document)

/-!
# Enums of a descriptor set have no more values than fit its text

* `Decoder.ReadFrom` — what a decoder may read from a tree without long arrays, and
  `readFrom_of_list`, `readFrom_of_optional` for parts that recur;
* `Fields.MadeFrom`, `exists_madeFrom_of_record` — a record is made of what its fields have read and
  of what stands for absent ones;
* `MessageDecl.isNarrow_of_decodeWithin`, `FileDecl.isNarrow_of_readFrom` — so no enum is longer
  than the longest array;
* `isNarrow_of_parseDescriptorSet` — nor longer than the text of the set.
-/

/-! ### What records are made of -/

/-- The decoder reads `a` from a tree in which no array has more than `n` items. -/
def Decoder.ReadFrom {α : Type} (n : Nat) (d : Decoder α) (a : α) : Prop :=
  ∃ form room t, Tree.IsNarrow n t ∧ d form room t = .ok a

namespace Fields

variable {α ρ : Type} {n : Nat}

/-- Each of the contents stands for an absent field or is read by the field. -/
def MadeFrom (n : Nat) {ρ : Type} : Fields ρ → ρ → Prop
  | none, () => True
  | field slot rest, (a, r) => (slot.absent = some a ∨ slot.decode.ReadFrom n a) ∧ rest.MadeFrom n r

/-- What has been read so far is read from such trees. -/
def FilledFrom (n : Nat) {ρ : Type} : Fields ρ → Prop
  | none => True
  | field slot rest => (∀ a, slot.value = some a → slot.decode.ReadFrom n a) ∧ rest.FilledFrom n

/-- Fields that hold nothing hold nothing else. -/
theorem filledFrom_of_isFresh {fields : Fields ρ} (h : fields.isFresh = true) :
    fields.FilledFrom n := by
  induction fields with
  | none => trivial
  | field slot rest ih =>
    simp only [isFresh, Bool.and_eq_true, Option.isNone_iff_eq_none] at h
    refine ⟨?_, ih h.2⟩
    intro a ha
    rw [h.1] at ha
    cases ha

/-- Reading one more member fills a field from its tree and changes nothing else about the
    fields. -/
theorem filledFrom_of_take {form : Form} {room : Nat} {key : String} {t : Tree} (ht : t.IsNarrow n)
    {fields fields' : Fields ρ} (h : fields.take form room key t = .ok fields')
    (hfilled : fields.FilledFrom n) :
    fields'.FilledFrom n ∧ ∀ r, fields'.MadeFrom n r → fields.MadeFrom n r := by
  induction fields with
  | none =>
    rw [take] at h
    split at h
    · cases h
    · obtain rfl := Except.ok.inj h
      exact ⟨trivial, fun _ h => h⟩
  | field slot rest ih =>
    rw [take] at h
    split at h
    · split at h
      · cases h
      · next filled hfill =>
        obtain rfl := Except.ok.inj h
        -- The field has been empty and is filled with what its decoder reads from the tree.
        rw [Slot.fill, ite_error_eq_ok_iff] at hfill
        obtain ⟨-, hfill⟩ := hfill
        obtain ⟨a, ha, hfill⟩ := bind_eq_ok_iff.1 hfill
        obtain rfl := Except.ok.inj hfill
        refine ⟨⟨?_, hfilled.2⟩, fun r hr => hr⟩
        intro b hb
        obtain rfl := Option.some.inj hb
        exact ⟨form, room, t, ht, ha⟩
    · split at h
      · cases h
      · next rest' hrest =>
        obtain rfl := Except.ok.inj h
        obtain ⟨hfilled', hmade⟩ := ih hrest hfilled.2
        exact ⟨⟨hfilled.1, hfilled'⟩, fun r hr => ⟨hr.1, hmade r.2 hr.2⟩⟩

/-- So it is for one member after the other. -/
theorem filledFrom_of_takeAll {form : Form} {room : Nat} {members : List TreeMember}
    (hmembers : ∀ m ∈ members, m.2.IsNarrow n) {fields fields' : Fields ρ}
    (h : fields.takeAll form room members = .ok fields') (hfilled : fields.FilledFrom n) :
    fields'.FilledFrom n ∧ ∀ r, fields'.MadeFrom n r → fields.MadeFrom n r := by
  induction members generalizing fields with
  | nil =>
    obtain rfl := Except.ok.inj h
    exact ⟨hfilled, fun _ h => h⟩
  | cons m members ih =>
    rw [List.forall_mem_cons] at hmembers
    rw [takeAll] at h
    split at h
    · cases h
    · split at h
      · cases h
      · next fields₁ htake =>
        obtain ⟨hfilled₁, hmade₁⟩ := filledFrom_of_take hmembers.1 htake hfilled
        obtain ⟨hfilled', hmade'⟩ := ih hmembers.2 h hfilled₁
        exact ⟨hfilled', fun r hr => hmade₁ r (hmade' r hr)⟩

/-- What the fields hold in the end has been read, or it stands for what is absent. -/
theorem madeFrom_of_results {fields : Fields ρ} (hfilled : fields.FilledFrom n) {r : ρ}
    (h : fields.results = .ok r) : fields.MadeFrom n r := by
  induction fields with
  | none => trivial
  | field slot rest ih =>
    obtain ⟨a, ha, h⟩ := bind_eq_ok_iff.1 h
    obtain ⟨r, hr, h⟩ := bind_eq_ok_iff.1 h
    obtain rfl := Except.ok.inj h
    refine ⟨?_, ih hfilled.2 hr⟩
    -- A slot gives what it was filled with, or its default where nothing filled it.
    unfold Slot.result at ha
    cases hvalue : slot.value with
    | some b =>
      rw [hvalue] at ha
      obtain rfl : b = a := Except.ok.inj ha
      exact Or.inr (hfilled.1 b hvalue)
    | none =>
      rw [hvalue, Option.none_or] at ha
      split at ha
      · next b habsent =>
        obtain rfl : b = a := Except.ok.inj ha
        exact Or.inl habsent
      · cases ha

/-- A record that is written as a list is made of its items. -/
theorem madeFrom_of_readItems {form : Form} {room position : Nat} {tooShort : Nat → DecodeError}
    {closing : Closing} {items : List Tree} (hitems : ∀ t ∈ items, t.IsNarrow n) {fields : Fields ρ}
    {r : ρ} {surplus : List Tree}
    (h : fields.readItems form room tooShort closing position items = .ok (r, surplus)) :
    fields.MadeFrom n r := by
  induction fields generalizing position items surplus with
  | none => trivial
  | field slot rest ih =>
    cases items with
    | cons t items =>
      rw [List.forall_mem_cons] at hitems
      obtain ⟨a, ha, h⟩ := bind_eq_ok_iff.1 h
      obtain ⟨⟨r, surplus⟩, hrest, h⟩ := bind_eq_ok_iff.1 h
      obtain ⟨rfl, rfl⟩ := Prod.mk.inj (Except.ok.inj h)
      exact ⟨Or.inr ⟨form, room, t, hitems.1, ha⟩, ih hitems.2 hrest⟩
    | nil =>
      obtain ⟨u, -, h⟩ := bind_eq_ok_iff.1 h
      -- Without an item the field must have something that stands for it.
      split at h
      · next a _ habsent =>
        obtain ⟨b, hb, h⟩ := bind_eq_ok_iff.1 h
        obtain rfl : a = b := Except.ok.inj hb
        obtain ⟨⟨r, surplus⟩, hrest, h⟩ := bind_eq_ok_iff.1 h
        obtain ⟨rfl, rfl⟩ := Prod.mk.inj (Except.ok.inj h)
        exact ⟨Or.inl habsent, ih hitems hrest⟩
      · cases h

end Fields

namespace Decoder

variable {α ρ : Type} {n : Nat}

/-- Whoever gets into a container has had room for it. -/
theorem exists_of_enter {β : Type} {room : Nat} {inside : Nat → Except DecodeError β} {b : β}
    (h : enter room inside = .ok b) : ∃ room, inside room = .ok b := by
  cases room with
  | zero => cases h
  | succ room => exact ⟨room, h⟩

/-- A value of the wrong kind is never read. -/
theorem ne_ok_of_mismatch {t : Tree} {expected : String} {a : α} (h : mismatch t expected = .ok a) :
    False := by
  unfold mismatch at h
  split at h <;> cases h

/-- A record is made of what its fields have read. -/
theorem exists_madeFrom_of_record {name : String} {fields : Fields ρ} {build : ρ → α}
    (hfresh : fields.isFresh = true) {a : α} (h : (record name fields build).ReadFrom n a) :
    ∃ r, fields.MadeFrom n r ∧ build r = a := by
  obtain ⟨form, room, t, ht, h⟩ := h
  -- A record is written as an object or as a list; nothing else is read as one.
  cases t with
  | object members closing =>
    obtain ⟨room, h⟩ := exists_of_enter h
    cases ht with
    | object hmembers =>
      split at h
      · cases h
      · next fields' htake =>
        obtain ⟨u, -, h⟩ := bind_eq_ok_iff.1 h
        obtain ⟨r, hr, h⟩ := bind_eq_ok_iff.1 h
        obtain ⟨hfilled, hmade⟩ :=
          Fields.filledFrom_of_takeAll hmembers htake (Fields.filledFrom_of_isFresh hfresh)
        exact ⟨r, hmade r (Fields.madeFrom_of_results hfilled hr), Except.ok.inj h⟩
  | array items closing =>
    obtain ⟨room, h⟩ := exists_of_enter h
    cases ht with
    | array hlength hitems =>
      obtain ⟨⟨r, surplus⟩, hr, h⟩ := bind_eq_ok_iff.1 h
      obtain ⟨u, -, h⟩ := bind_eq_ok_iff.1 h
      exact ⟨r, Fields.madeFrom_of_readItems hitems hr, Except.ok.inj h⟩
  | null | boolean | number | string | fault =>
    simp only [record] at h
    exact (ne_ok_of_mismatch h).elim

/-- The items of a list are read from the items of an array. -/
theorem readFrom_of_mapM {d : Decoder α} {form : Form} {room : Nat} {items : List Tree}
    (hitems : ∀ t ∈ items, t.IsNarrow n) {xs : List α} (h : items.mapM (d form room) = .ok xs) :
    xs.length = items.length ∧ ∀ x ∈ xs, d.ReadFrom n x := by
  induction items generalizing xs with
  | nil =>
    obtain rfl := Except.ok.inj h
    simp
  | cons t items ih =>
    rw [List.forall_mem_cons] at hitems
    rw [List.mapM_cons] at h
    obtain ⟨x, hx, h⟩ := bind_eq_ok_iff.1 h
    obtain ⟨xs, hxs, h⟩ := bind_eq_ok_iff.1 h
    obtain rfl := Except.ok.inj h
    obtain ⟨hlength, hread⟩ := ih hitems.2 hxs
    refine ⟨by rw [List.length_cons, List.length_cons, hlength], ?_⟩
    rw [List.forall_mem_cons]
    exact ⟨⟨form, room, t, hitems.1, hx⟩, hread⟩

/-- A list has no more items than the arrays of the tree, and each of them is read from the tree. -/
theorem readFrom_of_list {d : Decoder α} {xs : List α} (h : (list d).ReadFrom n xs) :
    xs.length ≤ n ∧ ∀ x ∈ xs, d.ReadFrom n x := by
  obtain ⟨form, room, t, ht, h⟩ := h
  unfold list at h
  split at h
  · obtain ⟨room, h⟩ := exists_of_enter h
    obtain ⟨xs', hxs, h⟩ := bind_eq_ok_iff.1 h
    obtain ⟨u, -, h⟩ := bind_eq_ok_iff.1 h
    obtain rfl := Except.ok.inj h
    cases ht with
    | array hlength hitems =>
      obtain ⟨hlength', hread⟩ := readFrom_of_mapM hitems hxs
      exact ⟨hlength' ▸ hlength, hread⟩
  · exact absurd h ne_ok_of_mismatch

/-- What is empty unless a list is read. -/
theorem readFrom_of_orElse {d : Decoder α} {xs : List α}
    (h : some [] = some xs ∨ (list d).ReadFrom n xs) :
    xs.length ≤ n ∧ ∀ x ∈ xs, d.ReadFrom n x := by
  rcases h with h | h
  · obtain rfl := Option.some.inj h
    simp
  · exact readFrom_of_list h

end Decoder

/-! ### Declarations -/

variable {n : Nat}

/-- The values of an enum are read from one array. -/
theorem EnumDecl.length_le_of_readFrom {e : EnumDecl} (h : EnumDecl.decoder.ReadFrom n e) :
    e.values.length ≤ n := by
  obtain ⟨⟨name?, values, options?, _⟩, ⟨-, hvalues, -⟩, rfl⟩ :=
    Decoder.exists_madeFrom_of_record rfl h
  exact (Decoder.readFrom_of_orElse hvalues).1

/-- The enums that are declared together are those of a list. -/
theorem exists_mem_of_mem_declareEnums {package : String} {parent? : Option String}
    {enums : List EnumDecl} {d : DeclaredEnum} (h : d ∈ declareEnums package parent? enums) :
    d.decl ∈ enums := by
  obtain ⟨e, he, rfl⟩ := List.mem_map.1 h
  exact he

/-- An enum inside some messages is inside one of them. -/
theorem exists_mem_of_mem_declaredEnumsOf {package : String} {parent? : Option String}
    {messages : List MessageDecl} {d : DeclaredEnum}
    (h : d ∈ declaredEnumsOf package parent? messages) :
    ∃ m ∈ messages, d ∈ m.declaredEnums package parent? := by
  induction messages with
  | nil => simp [declaredEnumsOf] at h
  | cons m rest ih =>
    rw [declaredEnumsOf, List.mem_append] at h
    rcases h with h | h
    · exact ⟨m, List.mem_cons_self, h⟩
    · obtain ⟨m', hm', hd⟩ := ih h
      exact ⟨m', List.mem_cons_of_mem m hm', hd⟩

/-- A message is narrow if its enums are and the messages inside it. -/
theorem MessageDecl.isNarrow_of_decoderWith {nested : Decoder MessageDecl}
    (hnested : ∀ m, nested.ReadFrom n m → m.IsNarrow n) {m : MessageDecl}
    (h : (MessageDecl.decoderWith nested).ReadFrom n m) : m.IsNarrow n := by
  obtain ⟨⟨name?, fields, messages, enums, oneofs, options?, _⟩, hmade, rfl⟩ :=
    Decoder.exists_madeFrom_of_record rfl h
  obtain ⟨-, -, hmessages, henums, -, -⟩ := hmade
  intro package parent? d hd
  rw [MessageDecl.declaredEnums, List.mem_append] at hd
  rcases hd with hd | hd
  · obtain ⟨m, hm, hd⟩ := exists_mem_of_mem_declaredEnumsOf hd
    exact hnested m ((Decoder.readFrom_of_orElse hmessages).2 m hm) _ _ d hd
  · have he := (Decoder.readFrom_of_orElse henums).2 d.decl (exists_mem_of_mem_declareEnums hd)
    exact EnumDecl.length_le_of_readFrom he

/-- Messages are narrow at any depth that there is room for. -/
theorem MessageDecl.isNarrow_of_decodeWithin {form : Form} {room : Nat} {t : Tree}
    (ht : t.IsNarrow n) {m : MessageDecl} (h : MessageDecl.decodeWithin form room t = .ok m) :
    m.IsNarrow n := by
  -- Where there is no room for nested messages none of them can be read.
  have hnone : ∀ m : MessageDecl, Decoder.ReadFrom n (fun _ _ _ => .error (.malformed .tooDeep)) m →
      m.IsNarrow n := by
    rintro m' ⟨_, _, t', _, h'⟩
    cases h'
  induction room using Nat.strongRecOn generalizing t m with
  | ind room ih =>
    -- A message inside this one stands two levels deeper, in the list that holds it.
    match room, h with
    | 0, h => exact isNarrow_of_decoderWith hnone ⟨form, 0, t, ht, h⟩
    | 1, h => exact isNarrow_of_decoderWith hnone ⟨form, 1, t, ht, h⟩
    | room + 2, h =>
      refine isNarrow_of_decoderWith ?_ ⟨form, room + 2, t, ht, h⟩
      rintro m' ⟨_, _, t', ht', h'⟩
      exact ih room (by omega) ht' h'

/-- A file is narrow, with its own enums and those inside its messages. -/
theorem FileDecl.isNarrow_of_readFrom {f : FileDecl} (h : FileDecl.decoder.ReadFrom n f) :
    f.IsNarrow n := by
  obtain ⟨⟨name?, package?, messages, enums, services, options?, sourceInfo?, _⟩, hmade, rfl⟩ :=
    Decoder.exists_madeFrom_of_record rfl h
  obtain ⟨-, -, hmessages, henums, -, -, -⟩ := hmade
  intro d hd
  rw [FileDecl.declaredEnums, List.mem_append] at hd
  rcases hd with hd | hd
  · obtain ⟨m, hm, hd⟩ := exists_mem_of_mem_declaredEnumsOf hd
    obtain ⟨form, room, t, ht, hm⟩ := (Decoder.readFrom_of_orElse hmessages).2 m hm
    exact MessageDecl.isNarrow_of_decodeWithin ht hm _ _ d hd
  · have he := (Decoder.readFrom_of_orElse henums).2 d.decl (exists_mem_of_mem_declareEnums hd)
    exact EnumDecl.length_le_of_readFrom he

/-! ### Texts -/

/-- No enum of a set has more values than its text has characters, up to one. -/
theorem isNarrow_of_parseDescriptorSet {text : String} {set : DescriptorSet}
    (h : parseDescriptorSet text = .ok set) : ∀ f ∈ set.files, f.IsNarrow (text.length + 1) := by
  unfold parseDescriptorSet at h
  rw [mapError_eq_ok_iff] at h
  obtain ⟨set', hset, h⟩ := bind_eq_ok_iff.1 h
  rw [ite_error_eq_ok_iff] at h
  obtain rfl : set' = set := Except.ok.inj h.2
  have hread : DescriptorSet.decoder.ReadFrom (text.length + 1) set' :=
    ⟨.text, Decoder.nestingLimit, _, Json.isNarrow_ofText text, hset⟩
  obtain ⟨⟨files, _⟩, ⟨hfiles, -⟩, rfl⟩ := Decoder.exists_madeFrom_of_record rfl hread
  intro f hf
  exact FileDecl.isNarrow_of_readFrom ((Decoder.readFrom_of_orElse hfiles).2 f hf)

end ProtoApi
