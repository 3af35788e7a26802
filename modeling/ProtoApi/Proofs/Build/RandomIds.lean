import ProtoApi.Proofs.Build.AutoPopulation
import ProtoApi.Proofs.Build.Faults
import ProtoApi.Proofs.Build.FieldTypes
import ProtoApi.Proofs.Build.Finishing
import ProtoApi.Proofs.Build.Oneofs
import ProtoApi.Proofs.Build.Outcome

namespace ProtoApi

/-!
# Which fields hold random identifiers

Registration collects the ids of the fields that are marked as random identifiers. A message that is
declared again takes the place of the earlier one in the registry, but what the earlier one has
added to the collection stays there.

* `FieldDecl.IsRandom` — the mark of a field;
* `contains_uuid4Fields_registerTypes` — what is collected: the ids of all fields that some
  declaration marks;
* `DeclaredField.IsKept`, `Context.HoldsRandom` — the declarations that the registry has in the end,
  and the fields that these mark;
* `KeepsMarks` — no mark is taken back by a later declaration; `keepsMarks_of_agree` is for
  declarations that say the same;
* `Message.fillMarks`, `fillMarks_finished` — no phase between registration and the marking of
  fields changes which fields there are and which of them clients fill in;
* `Context.RecordsRandom`, `Registry.FillsRandom`, `recordsRandom_and_fillsRandom` — the collection
  is right about the registry, and clients fill in only what is marked, where no mark is taken back;
* `exists_fill_not_random` — otherwise they may fill in a field whose declaration has no mark.
-/

/-! ### Marks -/

/-- That a declaration marks its field as a random identifier, with the name of the format or its
    number. -/
def FieldDecl.IsRandom (decl : FieldDecl) : Prop :=
  ∃ info, extension? decl.options? "google.api.field_info" = some info ∧
    (info.member? "format" = some (.string "UUID4") ∨
      info.member? "format" = some (.number (.integer 1)))

/-- The annotation is read by its name or by its number. -/
theorem FieldDecl.isUuid4_eq_true_iff (decl : FieldDecl) :
    isUuid4 decl.options? = true ↔ decl.IsRandom := by
  unfold isUuid4 IsRandom
  cases extension? decl.options? "google.api.field_info" with
  | none => simp
  | some info =>
    rw [Option.bind_some]
    split
    · next s h => simp [h]
    · next n h => simp [h]
    · next hstring hnumber =>
      refine iff_of_false Bool.false_ne_true ?_
      rintro ⟨_, ⟨⟩, h | h⟩
      · exact hstring _ h
      · exact hnumber _ h

instance (decl : FieldDecl) : Decidable decl.IsRandom := decidable_of_iff _ decl.isUuid4_eq_true_iff

/-! ### What is collected -/

/-- A message without a fault adds the ids of the fields that it marks. -/
theorem mem_uuid4Ids_iff (r : Registry) {d : DeclaredMessage} (hd : d.fault? = none) {id : String} :
    id ∈ d.uuid4Ids r ↔ ∃ f ∈ d.declaredFields, f.id = id ∧ f.decl.IsRandom := by
  unfold DeclaredMessage.uuid4Ids DeclaredMessage.declaredFields
  rw [d.built_of_faultless r hd]
  simp only [List.mem_map, List.mem_filter, exists_exists_and_eq_and, and_assoc]
  refine exists_congr fun decl => and_congr_right fun _ => ?_
  rw [id_built, and_comm]
  exact and_congr_right fun _ => decl.isUuid4_eq_true_iff

section Register

variable {ctx ctx' : Context} {files : List FileDecl}

/-- The fields of a file are those of its messages. -/
theorem mem_declaredFields_iff {f : DeclaredField} :
    f ∈ files.flatMap FileDecl.declaredFields ↔
      ∃ d ∈ files.flatMap FileDecl.declaredMessages, f ∈ d.declaredFields := by
  rw [← flatMap_declaredFields, List.mem_flatMap]

/-- Registration that succeeds collects the ids of all fields that some declaration marks. -/
theorem contains_uuid4Fields_registerTypes (h : registerTypes ctx files = (ctx', none))
    (id : String) :
    ctx'.uuid4Fields.contains id = true ↔
      (∃ f ∈ files.flatMap FileDecl.declaredFields, f.id = id ∧ f.decl.IsRandom) ∨
        ctx.uuid4Fields.contains id = true := by
  have hfault : ∀ d ∈ files.flatMap FileDecl.declaredMessages, d.fault? = none :=
    fun d hd => fault?_eq_none h hd
  obtain ⟨-, rfl⟩ := registerTypes_of_faultless h
  unfold Context.populated
  rw [NameSet.contains_foldl_add, Bool.or_eq_true, decide_eq_true_iff, List.mem_flatMap]
  refine or_congr_left ?_
  constructor
  · rintro ⟨d, hd, hid⟩
    obtain ⟨f, hf, hfid, hrandom⟩ := (mem_uuid4Ids_iff _ (hfault d hd)).1 hid
    exact ⟨f, mem_declaredFields_iff.2 ⟨d, hd, hf⟩, hfid, hrandom⟩
  · rintro ⟨f, hf, hfid, hrandom⟩
    obtain ⟨d, hd, hf⟩ := mem_declaredFields_iff.1 hf
    exact ⟨d, hd, (mem_uuid4Ids_iff _ (hfault d hd)).2 ⟨f, hf, hfid, hrandom⟩⟩

end Register

/-! ### What the registry has -/

/-- That a declaration of a field is one that the registry has in the end: it stands in the last
    declaration of its message. -/
def DeclaredField.IsKept (files : List FileDecl) (f : DeclaredField) : Prop :=
  ∃ d, IsLast DeclaredMessage.id (files.flatMap FileDecl.declaredMessages) d ∧ f ∈ d.declaredFields

/-- That an id is the one of a field of a registered message and that the declaration that counts
    marks this field: the last one of its name in the last declaration of the message. -/
def Context.HoldsRandom (ctx : Context) (files : List FileDecl) (id : String) : Prop :=
  ∃ d m decl, IsLast DeclaredMessage.id (files.flatMap FileDecl.declaredMessages) d ∧
    ctx.registry.message? d.id = some m ∧ (∃ f ∈ m.fields, f.id = id) ∧
    IsLast FieldDecl.name d.decl.fields decl ∧ childId d.id decl.name = id ∧ decl.IsRandom

/-- That no mark is taken back: if a declaration marks a field, the registry has declarations of the
    id of that field, and all of them mark it. -/
def KeepsMarks (files : List FileDecl) : Prop :=
  ∀ f ∈ files.flatMap FileDecl.declaredFields, f.decl.IsRandom →
    (∃ g : DeclaredField, g.IsKept files ∧ g.id = f.id) ∧
      ∀ g : DeclaredField, g.IsKept files → g.id = f.id → g.decl.IsRandom

/-- A field that is kept is declared. -/
theorem DeclaredField.IsKept.mem {files : List FileDecl} {f : DeclaredField} (h : f.IsKept files) :
    f ∈ files.flatMap FileDecl.declaredFields := by
  obtain ⟨d, hd, hf⟩ := h
  exact mem_declaredFields_iff.2 ⟨d, hd.mem, hf⟩

/-- Declarations that say the same about each field take no mark back. -/
theorem keepsMarks_of_agree {files : List FileDecl}
    (hfields : ∀ f ∈ files.flatMap FileDecl.declaredFields,
      ∀ g ∈ files.flatMap FileDecl.declaredFields, g.id = f.id → f.decl.IsRandom → g.decl.IsRandom)
    (hmessages : ∀ d ∈ files.flatMap FileDecl.declaredMessages,
      ∀ d' ∈ files.flatMap FileDecl.declaredMessages, d'.id = d.id → ∀ f ∈ d.declaredFields,
      f.decl.IsRandom → ∃ g ∈ d'.declaredFields, g.id = f.id) : KeepsMarks files := by
  intro f hf hrandom
  refine ⟨?_, fun g hg hid => hfields f hf g hg.mem hid hrandom⟩
  obtain ⟨d, hd, hfd⟩ := mem_declaredFields_iff.1 hf
  obtain ⟨last, hlast, hid, hisLast⟩ := exists_isLast DeclaredMessage.id hd
  obtain ⟨g, hg, hgid⟩ := hmessages d hd last hlast hid f hfd hrandom
  exact ⟨g, ⟨last, hisLast, hg⟩, hgid⟩

section Register

variable {diagnostics : List Diagnostic} {ctx : Context} {files : List FileDecl}

/-- Registration into nothing collects nothing else. -/
theorem contains_iff_isRandom (h : registerTypes { diagnostics } files = (ctx, none))
    (id : String) :
    ctx.uuid4Fields.contains id = true ↔
      ∃ f ∈ files.flatMap FileDecl.declaredFields, f.id = id ∧ f.decl.IsRandom :=
  (contains_uuid4Fields_registerTypes h id).trans (or_iff_left Bool.false_ne_true)

/-- Some declaration marks what the registry holds. -/
theorem Context.HoldsRandom.exists_isRandom {id : String} (h : ctx.HoldsRandom files id) :
    ∃ f ∈ files.flatMap FileDecl.declaredFields, f.id = id ∧ f.decl.IsRandom := by
  obtain ⟨d, -, decl, hd, -, -, hdecl, hid, hrandom⟩ := h
  exact ⟨_, mem_declaredFields_iff.2 ⟨d, hd.mem, List.mem_map_of_mem hdecl.mem⟩, hid, hrandom⟩

/-- If no mark is taken back, the registry holds all that is marked. -/
theorem holdsRandom_of_keepsMarks (h : registerTypes { diagnostics } files = (ctx, none))
    (hkeeps : KeepsMarks files) {f : DeclaredField} (hf : f ∈ files.flatMap FileDecl.declaredFields)
    (hrandom : f.decl.IsRandom) : ctx.HoldsRandom files f.id := by
  obtain ⟨⟨g, ⟨d, hd, hg⟩, hgid⟩, hall⟩ := hkeeps f hf hrandom
  obtain ⟨decl, hdecl, rfl⟩ := List.mem_map.1 hg
  -- Of the declarations with one name in the message the last one counts.
  obtain ⟨last, hmem, hname, hlast⟩ := exists_isLast FieldDecl.name hdecl
  have hid : childId d.id last.name = f.id := by
    rw [hname]
    exact hgid
  have hmarked : last.IsRandom :=
    hall ⟨d.id, d.decl.oneofs.length, last⟩ ⟨d, hd, List.mem_map_of_mem hmem⟩ hid
  refine ⟨d, _, last, hd, message?_of_isLast h hd, ?_, hlast, hid, hmarked⟩
  rw [fields_entity]
  exact ⟨_, List.mem_map_of_mem hmem, (id_built _ d.id d.decl.oneofs.length last).trans hid⟩

end Register

/-! ### From registration to the marking of fields -/

/-- The fields of a message, and which of them clients fill in. -/
def Message.fillMarks (m : Message) : List (String × Bool) :=
  m.fields.map fun f => (f.id, f.autoPopulated)

/-- Clients fill in no field of a message that is just registered. -/
theorem fillMarks_entity (r : Registry) (d : DeclaredMessage) :
    (d.entity r).fillMarks = d.declaredFields.map fun f => (f.id, false) := by
  unfold Message.fillMarks DeclaredMessage.declaredFields
  rw [fields_entity, List.map_map, List.map_map]
  refine List.map_congr_left fun decl _ => Prod.ext (id_built r d.id _ decl) ?_
  obtain ⟨kind, typeId, repeated, optional, map, h⟩ := (decl.untyped d.id).exists_withType r decl
  show ((decl.untyped d.id).withType r decl).1.autoPopulated = false
  rw [h]
  rfl

namespace Finishing

variable {p : Finishing} (hp : p ≠ fields)
include hp

/-- A pass that does not fill in fields leaves their marks alone. -/
theorem fillMarks_eraseMessage (m : Message) : (p.eraseMessage m).fillMarks = m.fillMarks := by
  unfold Message.fillMarks
  rw [fields_eraseMessage, List.map_map]
  cases p with
  | comments => rfl
  | pages => rfl
  | fields => exact absurd rfl hp

/-- A step that writes something else leaves the fields as they are in this respect. -/
theorem fillMarks_congr {r s : Registry} (h : p.erase s = p.erase r) (id : String) :
    (s.message? id).map Message.fillMarks = (r.message? id).map Message.fillMarks := by
  have herase : ∀ r : Registry,
      ((p.erase r).message? id).map Message.fillMarks = (r.message? id).map Message.fillMarks := by
    intro r
    rw [message?_erase, Option.map_map]
    exact congrArg (Option.map · _) (funext (fillMarks_eraseMessage hp))
  rw [← herase s, h, herase r]

end Finishing

/-- Taking over methods collects no ids of fields. -/
theorem Composition.uuid4Fields_compose (c : Composition) (ctx : Context)
    (serviceIds : List String) : (c.compose ctx serviceIds).uuid4Fields = ctx.uuid4Fields := by
  refine List.foldlRecOn (motive := fun s : Context => s.uuid4Fields = ctx.uuid4Fields) _ _ rfl
    fun s h id _ => ?_
  rw [composeService_eq]
  exact h

namespace Preparation

variable (p : Preparation) (config? : Option ServiceConfig) (ctx : Context)

/-- No phase after registration collects ids of fields. -/
theorem uuid4Fields_finished : (p.finished config? ctx).uuid4Fields = ctx.uuid4Fields := by
  unfold finished
  rw [foldl_attachComments_eq]
  exact Composition.uuid4Fields_compose _ (p.included config? ctx) _

/-- None of them changes which fields there are and which of them clients fill in. -/
theorem fillMarks_finished (id : String) :
    ((p.finished config? ctx).registry.message? id).map Message.fillMarks
      = (ctx.registry.message? id).map Message.fillMarks := by
  have hcomposed := (p.composition config?).sameTypes_compose (p.included config? ctx)
    (p.listed config? ctx).services
  have hmessages : ((p.composition config?).compose (p.included config? ctx)
      (p.listed config? ctx).services).registry.messages = ctx.registry.messages :=
        hcomposed.messages
  -- A comment writes documentation, which the erased registry does not have.
  have hcomments : Finishing.comments.erase (p.finished config? ctx).registry
      = Finishing.comments.erase ((p.composition config?).compose (p.included config? ctx)
          (p.listed config? ctx).services).registry := by
    unfold finished
    rw [foldl_attachComments_eq]
    refine List.foldlRecOn (motive := fun s => Finishing.comments.erase s = _) _ _ rfl
      fun s h f _ => ?_
    exact (Finishing.erase_change_self { file := f } s).trans h
  refine (Finishing.fillMarks_congr (by decide) hcomments id).trans ?_
  unfold Registry.message?
  rw [hmessages]

end Preparation

/-! ### The collection and the registry -/

/-- What registration into nothing collects. -/
structure Context.RecordsRandom (ctx : Context) (files : List FileDecl) : Prop where
  /-- The ids of the fields that some declaration marks, whether or not this is a declaration that
      counts. -/
  contains_iff : ∀ id, ctx.uuid4Fields.contains id = true ↔
    ∃ f ∈ files.flatMap FileDecl.declaredFields, f.id = id ∧ f.decl.IsRandom
  contains_of_holds : ∀ id, ctx.HoldsRandom files id → ctx.uuid4Fields.contains id = true
  /-- Where no mark is taken back, those are the fields that the registry holds as random
      identifiers. -/
  contains_iff_holds : KeepsMarks files → ∀ id, ctx.uuid4Fields.contains id = true ↔
      ctx.HoldsRandom files id

/-- Which fields clients fill in where messages are registered from some files. A message has the
    fields of its last declaration, in their order. -/
def Registry.FillsRandom (files : List FileDecl) (r : Registry) : Prop :=
  ∀ id m, r.message? id = some m →
    ∃ d, IsLast DeclaredMessage.id (files.flatMap FileDecl.declaredMessages) d ∧ d.id = id ∧
      List.Forall₂ (fun (g : DeclaredField) (f : Field) => f.id = g.id ∧ (f.autoPopulated = true →
        (∃ marked ∈ files.flatMap FileDecl.declaredFields, marked.id = g.id ∧
          marked.decl.IsRandom) ∧
          (KeepsMarks files → g.decl.IsRandom))) d.declaredFields m.fields

/-- Registration records the random fields of all declarations, which are those of the registry
    where no later declaration changes the mark. -/
theorem recordsRandom_registerTypes {files : List FileDecl} {ctx : Context}
    (h : registerTypes {} files = (ctx, none)) : ctx.RecordsRandom files where
  contains_iff := contains_iff_isRandom h
  contains_of_holds id hid := (contains_iff_isRandom h id).2 hid.exists_isRandom
  contains_iff_holds hkeeps id := by
    rw [contains_iff_isRandom h]
    constructor
    · rintro ⟨f, hf, rfl, hrandom⟩
      exact holdsRandom_of_keepsMarks h hkeeps hf hrandom
    · exact Context.HoldsRandom.exists_isRandom

/-- Clients fill in fields of a model that have been collected. -/
theorem Preparation.fillsRandom_model {p : Preparation} {ctx : Context}
    (h : registerTypes { diagnostics := p.unavailable } p.sources = (ctx, none))
    (config? : Option ServiceConfig) : (p.model config? ctx).registry.FillsRandom p.sources := by
  intro id m hm
  unfold model at hm
  rw [Api.registry_annotate, Registry.message?_markAutoPopulated] at hm
  obtain ⟨before, hbefore, rfl⟩ := Option.map_eq_some_iff.1 hm
  -- Up to here the message has the fields that it is registered with.
  have hpages : Finishing.pages.erase (p.finished config? ctx).registry.markPageable
      = Finishing.pages.erase (p.finished config? ctx).registry :=
    Finishing.erase_change_self {} (p.finished config? ctx).registry
  have hmarks :=
    (Finishing.fillMarks_congr (by decide) hpages id).trans (p.fillMarks_finished config? ctx id)
  rw [hbefore, Option.map_some, eq_comm] at hmarks
  obtain ⟨registered, hregistered, hmarks⟩ := Option.map_eq_some_iff.1 hmarks
  obtain ⟨d, hd, rfl, rfl⟩ := exists_isLast_of_message? h rfl hregistered
  have hfields : List.Forall₂ Eq (d.declaredFields.map fun g => (g.id, false))
      (before.fields.map fun f => (f.id, f.autoPopulated)) := by
    rw [List.forall₂_eq_eq_eq, ← fillMarks_entity, hmarks]
    rfl
  rw [List.forall₂_map_left_iff, List.forall₂_map_right_iff] at hfields
  have hkept : ∀ g ∈ d.declaredFields, g.IsKept p.sources := fun g hg => ⟨d, hd, hg⟩
  refine ⟨d, hd, rfl, ?_⟩
  rw [List.forall₂_map_right_iff]
  refine ((List.forall₂_and_left _ _).2 ⟨hkept, hfields⟩).imp ?_
  rintro g f ⟨hg, hgf⟩
  obtain ⟨hid, hauto⟩ := Prod.mk.inj hgf
  refine ⟨hid.symm, fun hfill => ?_⟩
  -- Only settings have marked the field, and they ask for an id that has been collected.
  simp only [← hauto, Bool.false_or, Registry.any_fills_iff] at hfill
  obtain ⟨-, -, -, -, hcontains, -⟩ := hfill
  rw [p.uuid4Fields_finished, contains_iff_isRandom h, ← hid] at hcontains
  obtain ⟨marked, hmarked, hmid, hrandom⟩ := hcontains
  exact ⟨⟨marked, hmarked, hmid, hrandom⟩, fun hkeeps =>
    (hkeeps marked hmarked hrandom).2 g hg hmid.symm⟩

/-- The collection has the ids of all fields that some declaration marks, and clients fill in no
    other ones. Where no mark is taken back, the declarations that count have all these marks. -/
theorem recordsRandom_and_fillsRandom (files : List FileDecl) (set : DescriptorSet)
    (options : BuildOptions) :
    (∀ ctx, registerTypes {} files = (ctx, none) → ctx.RecordsRandom files) ∧
      ∀ targets b, set.targets options.files = .ok targets → buildApi set options = .ok b →
        b.api.registry.FillsRandom (set.preparation options targets).sources := by
  refine ⟨fun ctx h => recordsRandom_registerTypes h, fun targets b ht hb => ?_⟩
  obtain ⟨ctx, hregister, rfl⟩ := exists_registered_of_buildApi ht hb
  exact Preparation.fillsRandom_model hregister options.config?

/-- A file with a message that has one text. -/
def lendFile (name : String) (options? : Option Options) : FileDecl where
  name? := name
  package? := "lib"
  messages := [
    { name? := "Lend",
      fields := [{ name? := "request", kind? := some (.name "TYPE_STRING"), options? }] }]

/-- A file with a method that has the message for its request. -/
def booksFile : FileDecl where
  name? := "books.proto"
  package? := "lib"
  services := [
    { name? := "Books"
      methods := [
        { name? := "Lend"
          inputType? := ".lib.Lend"
          outputType? := ".lib.Lend"
          options? := Mixin.bound [("post", .string "/v1/lend")] }] }]

/-- The mark of a random identifier. -/
def randomOptions : Options :=
  Table.ofList [("[google.api.field_info]", .object [("format", .string "UUID4")])]

/-- The message is declared twice: with the mark first, and then with other options. -/
def lendSet (options? : Option Options) : DescriptorSet where
  files := [lendFile "draft.proto" (some randomOptions), lendFile "lend.proto" options?, booksFile]

/-- Settings that list the text. -/
def lendRequest : BuildOptions where
  files := ["books.proto"]
  config? :=
      some {
        methodSettings := [{ selector := "lib.Books.Lend", autoPopulatedFields := ["request"] }] }

/-- Both declarations mark the text, and clients fill it in. -/
theorem recordsRandom_lendSet :
    let set := lendSet (some randomOptions)
    registerTypes {} set.files = ((registerTypes {} set.files).1, none) ∧
      set.targets lendRequest.files = .ok [booksFile] ∧
      buildApi set lendRequest = .ok (set.outcome lendRequest [booksFile]) ∧ KeepsMarks set.files ∧
      (∀ id, (registerTypes {} set.files).1.uuid4Fields.contains id = true ↔
        (registerTypes {} set.files).1.HoldsRandom set.files id) ∧
      (set.outcome lendRequest [booksFile]).api.registry.FillsRandom
        (set.preparation lendRequest [booksFile]).sources ∧
      ((set.outcome lendRequest [booksFile]).api.registry.message? ".lib.Lend").map
        (·.fields.map (·.autoPopulated)) = some [true] := by
  intro set
  have hr : (registerTypes {} set.files).2 = none := by
    decide +kernel
  have hregister : registerTypes {} set.files = ((registerTypes {} set.files).1, none) :=
    Prod.ext rfl hr
  have hbuild : buildApi set lendRequest = .ok (set.outcome lendRequest [booksFile]) :=
    buildApi_of_no_messages rfl (by decide +kernel) (by simp [booksFile])
  have hkeeps : KeepsMarks set.files := keepsMarks_of_agree (by decide +kernel) (by decide +kernel)
  obtain ⟨hrecords, hfills⟩ := recordsRandom_and_fillsRandom set.files set lendRequest
  exact ⟨hregister, rfl, hbuild, hkeeps, (hrecords _ hregister).contains_iff_holds hkeeps,
    hfills _ _ rfl hbuild, by decide +kernel⟩

/-- The declaration that counts has no mark if the second one has none. -/
theorem not_isRandom_of_isLast {d : DeclaredMessage}
    (hd : IsLast DeclaredMessage.id ((lendSet none).files.flatMap FileDecl.declaredMessages) d) :
    ∀ f ∈ d.declaredFields, ¬f.decl.IsRandom := by
  have hid : ∀ d ∈ (lendSet none).files.flatMap FileDecl.declaredMessages, d.id = ".lib.Lend" := by
    decide +kernel
  have hlast :
      (((lendSet none).files.flatMap FileDecl.declaredMessages).reverse.find? (·.id
        = ".lib.Lend")).all
      (fun d => d.declaredFields.all fun f => ¬f.decl.IsRandom) = true := by
    decide +kernel
  have hfind := isLast_iff_find?_reverse.1 hd
  rw [hid d hd.mem] at hfind
  rw [hfind] at hlast
  simpa using hlast

/-- An id that has been collected need not be the one of a field that the registry holds as a random
    identifier, and clients may fill in a field whose declaration has no mark. -/
theorem exists_fill_not_random :
    (¬ ∀ (files : List FileDecl) (ctx : Context), registerTypes {} files = (ctx, none) →
      ∀ id, ctx.uuid4Fields.contains id = true ↔ ctx.HoldsRandom files id) ∧
    ¬ ∀ (set : DescriptorSet) (options : BuildOptions) (targets : List FileDecl) (b : ApiBuild),
      set.targets options.files = .ok targets → buildApi set options = .ok b →
      ∀ d, IsLast DeclaredMessage.id
          ((set.preparation options targets).sources.flatMap FileDecl.declaredMessages) d →
        ∀ m, b.api.registry.message? d.id = some m →
          List.Forall₂ (fun (g : DeclaredField) (f : Field) => f.autoPopulated = true →
            g.decl.IsRandom) d.declaredFields m.fields := by
  have hr : (registerTypes {} (lendSet none).files).2 = none := by
    decide +kernel
  constructor
  · intro h
    -- The first declaration has put the id on the list, and the last one has no mark.
    have hcollected : (registerTypes {} (lendSet none).files).1.uuid4Fields.contains
        ".lib.Lend.request" = true := by
      decide +kernel
    obtain ⟨d, -, decl, hd, -, -, hdecl, -, hrandom⟩ := (h _ _ (Prod.ext rfl hr) _).1 hcollected
    exact not_isRandom_of_isLast hd _ (List.mem_map_of_mem hdecl.mem) hrandom
  · intro h
    have hbuild : buildApi (lendSet none) lendRequest
        = .ok ((lendSet none).outcome lendRequest [booksFile]) :=
      buildApi_of_no_messages rfl (by decide +kernel) (by simp [booksFile])
    have hsources : ((lendSet none).preparation lendRequest [booksFile]).sources
        = (lendSet none).files := rfl
    -- In the model the only field of the message is one that clients fill in.
    have hmodel :
        ((((lendSet none).outcome lendRequest [booksFile]).api.registry.message? ".lib.Lend").map
        fun m => m.fields.map (·.autoPopulated)) = some [true] := by
      decide +kernel
    obtain ⟨m, hm, hfields⟩ := Option.map_eq_some_iff.1 hmodel
    obtain ⟨f, hfield, hauto⟩ := List.map_eq_singleton_iff.1 hfields
    obtain ⟨d, hd, hid⟩ : ∃ d ∈ (lendSet none).files.flatMap FileDecl.declaredMessages,
      d.id = ".lib.Lend" :=
      ⟨_, List.mem_cons_self, rfl⟩
    obtain ⟨last, -, hlastId, hlast⟩ := exists_isLast DeclaredMessage.id hd
    have hfilled := h _ _ _ _ rfl hbuild last (hsources ▸ hlast) m (by rw [hlastId, hid]; exact hm)
    rw [hfield] at hfilled
    obtain ⟨g, rest, hrandom, -, hg⟩ := List.forall₂_cons_right_iff.1 hfilled
    exact not_isRandom_of_isLast hlast g (hg ▸ List.mem_cons_self) (hrandom hauto)

end ProtoApi
