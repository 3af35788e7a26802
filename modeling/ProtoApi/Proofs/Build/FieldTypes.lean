import ProtoApi.Proofs.Build.LastDeclaration
import Mathlib.Data.List.Forall2

namespace ProtoApi

/-!
# What the fields of a message are

A field takes its type and its presence from its declaration and from the message that it names,
which may be declared anywhere.

* `FieldDecl.Gives` — a kind in either of its spellings, and `FieldKind.ofLiteral_eq_iff_gives`:
  none has another one;
* `Field.fst_withType` — type and presence of a field as one change of it;
* `Field.IsTypedBy` — what a declaration makes of a field where a registry tells the entries of
  maps, and `isTypedBy_built`: this is how fields are built;
* `mapsAlike_registerTypes` — in the end the registry tells the same entries of maps as after the
  first sweep;
* `Registry.Typed` — all fields of a registry are typed by the last declarations of their messages,
  with what that same registry tells, and `typed_of_registerTypes`: so they are wherever
  registration succeeds.
-/

/-! ### Kinds -/

namespace FieldDecl

/-- A kind is given by its name or by its number. -/
def Gives (name : String) (number : Int32) (decl : FieldDecl) : Prop :=
  decl.kind? = some (.name name) ∨ decl.kind? = some (.number number)

/-- A field that holds a message. -/
def IsMessage (decl : FieldDecl) : Prop := decl.Gives "TYPE_MESSAGE" 11

/-- A field that is a group. -/
def IsGroup (decl : FieldDecl) : Prop := decl.Gives "TYPE_GROUP" 10

/-- A field that holds a value of an enum. -/
def IsEnum (decl : FieldDecl) : Prop := decl.Gives "TYPE_ENUM" 14

end FieldDecl

/-- A list of entries that has each value once gives a value under one key. -/
theorem eq_of_getD_lookup_eq {α β : Type} [BEq α] [LawfulBEq α] {l : List (α × β)}
    (hl : (l.map Prod.snd).Nodup) {fallback : β} {a b : α}
    (h : (l.lookup a).getD fallback = (l.lookup b).getD fallback)
    (hb : (l.lookup b).getD fallback ≠ fallback) : a = b := by
  have hmem : ∀ {c v}, l.lookup c = some v → (c, v) ∈ l := by
    intro c v hc
    obtain ⟨before, after, rfl, -⟩ := List.lookup_eq_some_iff.1 hc
    simp
  cases hlb : l.lookup b with
  | none => exact absurd (by rw [hlb, Option.getD_none]) hb
  | some v =>
    cases hla : l.lookup a with
    | none => exact absurd (by rw [← h, hla, Option.getD_none]) hb
    | some w =>
      rw [hla, hlb, Option.getD_some, Option.getD_some] at h
      subst h
      exact congrArg Prod.fst (List.inj_on_of_nodup_map hl (hmem hla) (hmem hlb) rfl)

namespace FieldKind

/-- No kind has two names. -/
theorem eq_of_ofName_eq {s t : String} (h : ofName s = ofName t) (ht : ofName t ≠ undefined) :
    s = t :=
  eq_of_getD_lookup_eq (by decide) h ht

/-- No kind has two numbers. -/
theorem eq_of_ofNumber_eq {m n : Int32} (h : ofNumber m = ofNumber n)
    (hn : ofNumber n ≠ undefined) : m = n :=
  Int32.toInt_inj.1 (eq_of_getD_lookup_eq (by decide) h hn)

/-- A declaration gives a kind in one of its two spellings. -/
theorem ofLiteral_eq_iff_gives {decl : FieldDecl} {name : String} {number : Int32}
    {kind : FieldKind} (hname : ofName name = kind) (hnumber : ofNumber number = kind)
    (hkind : kind ≠ undefined) : ofLiteral decl.kind? = kind ↔ decl.Gives name number := by
  unfold FieldDecl.Gives
  constructor
  · intro h
    cases hk : decl.kind? with
    | none => exact absurd (by rw [← h, hk, ofLiteral]) hkind
    | some literal =>
      rw [hk] at h
      cases literal with
      | name s => exact .inl (by rw [eq_of_ofName_eq (h.trans hname.symm) (hname ▸ hkind)])
      | number n => exact .inr (by rw [eq_of_ofNumber_eq (h.trans hnumber.symm) (hnumber ▸ hkind)])
  · rintro (h | h)
    · rw [h, ofLiteral, hname]
    · rw [h, ofLiteral, hnumber]

/-- A field is built as a message if its type says so, by name or by number. -/
theorem ofLiteral_eq_message_iff (decl : FieldDecl) :
    ofLiteral decl.kind? = message ↔ decl.IsMessage :=
  ofLiteral_eq_iff_gives (by decide) (by decide) (by decide)

theorem ofLiteral_eq_group_iff (decl : FieldDecl) : ofLiteral decl.kind? = group ↔ decl.IsGroup :=
  ofLiteral_eq_iff_gives (by decide) (by decide) (by decide)

theorem ofLiteral_eq_enum_iff (decl : FieldDecl) : ofLiteral decl.kind? = enum ↔ decl.IsEnum :=
  ofLiteral_eq_iff_gives (by decide) (by decide) (by decide)

end FieldKind

/-! ### One field -/

/-- Whether a field names the entry of a map. -/
def FieldDecl.namesMapEntry (r : Registry) (decl : FieldDecl) : Bool :=
  decide (FieldKind.ofLiteral decl.kind? = .message) && decl.typeName?.any r.isMapEntry

/-- A declaration gives a field its kind and, where the kind needs one, its type. Messages and
    groups can be absent unless they are repeated, and a map neither is repeated nor can it be
    absent. -/
theorem Field.fst_withType (r : Registry) (f : Field) (decl : FieldDecl) :
    (f.withType r decl).1 = { f with
      kind := FieldKind.ofLiteral decl.kind?
      typeId := if (FieldKind.ofLiteral decl.kind?).referencesType then decl.typeName? else f.typeId
      map := f.map || decl.namesMapEntry r
      repeated := f.repeated && !decl.namesMapEntry r
      optional :=
        if FieldKind.ofLiteral decl.kind? = .message ∨ FieldKind.ofLiteral decl.kind? = .group then
          !f.repeated && !decl.namesMapEntry r
        else f.optional } := by
  have hentry : ((decl.typeName?.bind r.message?).map (·.isMap)).getD false
      = decl.typeName?.any r.isMapEntry := by
    cases decl.typeName? <;> rfl
  unfold Field.withType FieldDecl.namesMapEntry
  rw [hentry]
  cases FieldKind.ofLiteral decl.kind?
  case message => cases decl.typeName?.any r.isMapEntry <;> simp [FieldKind.referencesType]
  all_goals simp [FieldKind.referencesType]

/-- A registry tells of an id that it is the entry of a map. -/
theorem Registry.isMapEntry_eq_true_iff {r : Registry} {id : String} :
    r.isMapEntry id = true ↔ ∃ m, r.message? id = some m ∧ m.isMap = true := by
  unfold Registry.isMapEntry
  cases r.message? id <;> simp

/-- A field names a map entry if it is a message field whose type is registered as one. -/
theorem FieldDecl.namesMapEntry_eq_true_iff (r : Registry) (decl : FieldDecl) :
    decl.namesMapEntry r = true ↔
      decl.IsMessage ∧ ∃ id m, decl.typeName? = some id ∧ r.message? id = some m ∧
      m.isMap = true := by
  unfold FieldDecl.namesMapEntry
  rw [Bool.and_eq_true, decide_eq_true_iff, FieldKind.ofLiteral_eq_message_iff, Option.any_eq_true]
  simp only [Registry.isMapEntry_eq_true_iff, exists_and_left]

/-- What a declaration makes of a field where `r` tells which messages are entries of maps. -/
structure Field.IsTypedBy (r : Registry) (f : Field) (decl : FieldDecl) : Prop where
  name : f.name = decl.name
  kind : f.kind = FieldKind.ofLiteral decl.kind?
  /-- A map is a field that names the entry of one. -/
  map_iff : f.map = true ↔
    decl.IsMessage ∧ ∃ id m, decl.typeName? = some id ∧ r.message? id = some m ∧ m.isMap = true
  of_map : f.map = true → f.repeated = false ∧ f.optional = false
  /-- Other messages, and groups, can be absent unless they are repeated. -/
  of_message : f.map = false → decl.IsMessage ∨ decl.IsGroup → f.repeated = decl.isRepeated ∧
      f.optional = !f.repeated
  of_other : ¬(decl.IsMessage ∨ decl.IsGroup) → f.repeated = decl.isRepeated ∧
      f.optional = decl.isProto3Optional
  /-- Messages, enums and groups name their type, and no other field names any. -/
  typeId : decl.IsMessage ∨ decl.IsEnum ∨ decl.IsGroup → f.typeId = decl.typeName?
  typeId_eq_none : ¬(decl.IsMessage ∨ decl.IsEnum ∨ decl.IsGroup) → f.typeId = none

/-- A field refers to a type if it is a message, an enum or a group. -/
theorem FieldKind.referencesType_ofLiteral_iff (decl : FieldDecl) :
    (ofLiteral decl.kind?).referencesType = true ↔ decl.IsMessage ∨ decl.IsEnum ∨ decl.IsGroup := by
  rw [← ofLiteral_eq_message_iff, ← ofLiteral_eq_enum_iff, ← ofLiteral_eq_group_iff]
  cases ofLiteral decl.kind? <;> simp [referencesType]

/-- A field is built as its declaration types it. -/
theorem isTypedBy_built (r : Registry) (messageId : String) (declared : Nat) (decl : FieldDecl) :
    (decl.built r messageId declared).field.IsTypedBy r decl := by
  have hfield : (decl.built r messageId declared).field = _ :=
    Field.fst_withType r (decl.untyped messageId) decl
  have hentry := FieldDecl.namesMapEntry_eq_true_iff r decl
  have hpresence :=
    or_congr (FieldKind.ofLiteral_eq_message_iff decl) (FieldKind.ofLiteral_eq_group_iff decl)
  have hreference := FieldKind.referencesType_ofLiteral_iff decl
  generalize (decl.built r messageId declared).field = f at hfield ⊢
  have hmap : f.map = decl.namesMapEntry r := by
    rw [hfield]
    rfl
  constructor
  case name =>
    rw [hfield]
    rfl
  case kind => rw [hfield]
  case map_iff => rw [hmap, hentry]
  case of_map =>
    intro h
    have hpresent := hpresence.2 (.inl (hentry.1 (hmap.symm.trans h)).1)
    rw [hfield]
    simp [hmap.symm.trans h, hpresent]
  case of_message =>
    intro h hmessage
    rw [hfield]
    simp [hmap.symm.trans h, hpresence.2 hmessage, FieldDecl.untyped]
  case of_other =>
    intro hother
    -- Only messages are entries of maps.
    have hno : decl.namesMapEntry r = false := by
      rw [← Bool.not_eq_true, hentry]
      exact fun h => hother (.inl h.1)
    rw [hfield]
    simp [hno, mt hpresence.1 hother, FieldDecl.untyped]
  case typeId =>
    intro h
    rw [hfield]
    exact if_pos (hreference.2 h)
  case typeId_eq_none =>
    intro h
    rw [hfield]
    exact if_neg (mt hreference.1 h)

/-! ### Registration -/

section Register

variable {ctx ctx' : Context} {files : List FileDecl} (h : registerTypes ctx files = (ctx', none))
include h

/-- The second sweep leaves the entries of maps as the first one has registered them. -/
theorem mapsAlike_registerTypes : (ctx.withShells files).registry.MapsAlike ctx'.registry := by
  obtain ⟨-, rfl⟩ := registerTypes_of_faultless h
  intro id
  unfold Registry.isMapEntry Registry.message? Context.populated
  simp only
  rw [get?_foldl_complete, Option.map_map]
  -- Fields are given, and the mark of an entry stays.
  cases (files.flatMap FileDecl.declaredMessages).reverse.find? (·.id = id) <;> rfl

/-- The last declaration of an id is registered, with all its fields. -/
theorem message?_of_isLast {d : DeclaredMessage}
    (hd : IsLast DeclaredMessage.id (files.flatMap FileDecl.declaredMessages) d) :
    ctx'.registry.message? d.id = some (d.entity (ctx.withShells files).registry) := by
  rw [message?_registerTypes h (isLast_iff_find?_reverse.1 hd),
    DeclaredMessage.complete_shell _ (fault?_eq_none h hd.mem)]

/-- A message that was not there before is the last declaration of its id. -/
theorem exists_isLast_of_message? {id : String} {m : Message}
    (hstart : ctx.registry.message? id = none) (hm : ctx'.registry.message? id = some m) :
    ∃ d, IsLast DeclaredMessage.id (files.flatMap FileDecl.declaredMessages) d ∧ d.id = id ∧
      m = d.entity (ctx.withShells files).registry := by
  by_cases hdeclared : ∃ d ∈ files.flatMap FileDecl.declaredMessages, d.id = id
  · obtain ⟨d, hd, rfl⟩ := hdeclared
    obtain ⟨last, -, hid, hlast⟩ := exists_isLast DeclaredMessage.id hd
    have hregistered := message?_of_isLast h hlast
    rw [hid, hm, Option.some.injEq] at hregistered
    exact ⟨last, hlast, hid, hregistered⟩
  · have hsame := message?_registerTypes_of_ne h fun d hd hid => hdeclared ⟨d, hd, hid⟩
    rw [hm, hstart] at hsame
    nomatch hsame

end Register

/-- The fields of a registry are those of the files, and the registry itself tells which of them are
    maps. -/
structure Registry.Typed (files : List FileDecl) (r : Registry) : Prop where
  /-- A message has the fields of its last declaration, in their order. -/
  fields : ∀ id m, r.message? id = some m →
    ∃ d, IsLast DeclaredMessage.id (files.flatMap FileDecl.declaredMessages) d ∧ d.id = id ∧
      List.Forall₂ (Field.IsTypedBy r) m.fields d.decl.fields
  /-- Entries of maps are the messages whose last declaration is marked, in whichever file and at
      whichever depth. -/
  isMap_iff : ∀ id, (∃ m, r.message? id = some m ∧ m.isMap = true) ↔
    ∃ d, IsLast DeclaredMessage.id (files.flatMap FileDecl.declaredMessages) d ∧ d.id = id ∧
    d.decl.isMapEntry = true

/-- What a field is told of the other messages is what stands in the registry in the end. -/
theorem Field.IsTypedBy.congr {r s : Registry} (hrs : r.MapsAlike s) {f : Field} {decl : FieldDecl}
    (hf : f.IsTypedBy r decl) : f.IsTypedBy s decl := by
  have hentry : (∃ id m, decl.typeName? = some id ∧ s.message? id = some m ∧ m.isMap = true) ↔
      ∃ id m, decl.typeName? = some id ∧ r.message? id = some m ∧ m.isMap = true := by
    simp only [exists_and_left, ← Registry.isMapEntry_eq_true_iff, hrs _]
  exact { hf with map_iff := by rw [hf.map_iff, hentry] }

/-- Where registration into nothing succeeds, all fields of all messages are typed. -/
theorem typed_of_registerTypes {files : List FileDecl} {ctx : Context}
    (h : registerTypes {} files = (ctx, none)) : ctx.registry.Typed files where
  fields id m hm := by
    obtain ⟨d, hd, hid, rfl⟩ := exists_isLast_of_message? h rfl hm
    refine ⟨d, hd, hid, ?_⟩
    show List.Forall₂ _ ((d.decl.fields.map _).map _) d.decl.fields
    rw [List.map_map, List.forall₂_map_left_iff, List.forall₂_same]
    exact fun decl _ =>
      (isTypedBy_built _ d.id d.decl.oneofs.length decl).congr (mapsAlike_registerTypes h)
  isMap_iff id := by
    constructor
    · rintro ⟨m, hm, hmap⟩
      obtain ⟨d, hd, hid, rfl⟩ := exists_isLast_of_message? h rfl hm
      exact ⟨d, hd, hid, hmap⟩
    · rintro ⟨d, hd, rfl, hmap⟩
      exact ⟨_, message?_of_isLast h hd, hmap⟩

/-- A file whose fields name messages that are declared behind them, or in another file, or
    nowhere. -/
def basketFile : FileDecl where
  name? := "basket.proto"
  package? := "shop"
  messages := [
    { name? := "Basket"
      fields := [
        { Mixin.repeated 1 "prices" "TYPE_MESSAGE" "prices" with
          typeName? := ".shop.Catalogue.PricesEntry" },
        { Mixin.repeated 2 "items" "TYPE_MESSAGE" "items" with typeName? := ".shop.Item" },
        { name? := "owner", kind? := some (.number 11), typeName? := ".people.Owner" },
        { name? := "notes", label? := some (.number 3), kind? := some (.number 10),
          typeName? := ".shop.Basket.Notes" },
        { name? := "colour", kind? := some (.name "TYPE_ENUM"), typeName? := ".shop.Colour",
          proto3Optional? := true },
        { Mixin.repeated 6 "counts" "TYPE_INT32" "counts" with typeName? := ".shop.Item" }] },
    { name? := "Item", options? := some (Table.ofList [("map_entry", .boolean true)]) }]

/-- A file with the entries of the map inside another message, and with another message in place of
    one above. -/
def catalogueFile : FileDecl where
  name? := "catalogue.proto"
  package? := "shop"
  messages := [
    { name? := "Catalogue"
      nested :=
        [{ name? := "PricesEntry",
           options? := some (Table.ofList [("mapEntry", .boolean true)]) }] },
    { name? := "Item" }]

/-- The later file makes a map of the first field and none of the second one. -/
theorem basketFile_typed :
    registerTypes {} [basketFile, catalogueFile]
        = ((registerTypes {} [basketFile, catalogueFile]).1, none) ∧
      (registerTypes {} [basketFile, catalogueFile]).1.registry.Typed [basketFile, catalogueFile] ∧
      ((registerTypes {} [basketFile, catalogueFile]).1.registry.message? ".shop.Basket").map
          (fun m => m.fields.map fun f => (f.name, f.map, f.repeated, f.optional))
        = some [("prices", true, false, false), ("items", false, true, false),
            ("owner", false, false, true), ("notes", false, true, false),
            ("colour", false, false, true), ("counts", false, true, false)] := by
  have hr : (registerTypes {} [basketFile, catalogueFile]).2 = none := by
    decide +kernel
  exact ⟨Prod.ext rfl hr, typed_of_registerTypes (Prod.ext rfl hr), by decide +kernel⟩

end ProtoApi
