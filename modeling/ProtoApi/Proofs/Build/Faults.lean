import ProtoApi.Proofs.Build.LastDeclaration

namespace ProtoApi

/-!
# Where registration stops, and what it has reported by then

Registration goes through the fields of all messages in the order in which they are declared. It
reports those without a known type and stops at the first one that belongs to a oneof its message
does not declare.

* `DeclaredField`, `FileDecl.declaredFields` — the fields of a file, those of a message in front of
  those of the messages inside it; `declaredFields_eq` says that these are the fields of the
  declared messages, one message after the other;
* `DeclaredField.IsStray`, `DeclaredField.IsUntyped` — the two faults of a field;
  `DeclaredField.fault?_eq_some_iff` and `DeclaredField.diagnostic?_built` say what becomes of them;
* `populateAll_error`, `populateAll_diagnostics` — the sweep over several messages as one over their
  fields;
* `bare_populateAll` — a message stays as it is registered but for its fields and oneofs;
* `Context.Registers`, `registers_registerTypes` — how registration ends, for all files.
-/

/-! ### Fields with their messages -/

/-- A field declaration, with the id of its message and the number of oneofs that the message
    declares. -/
structure DeclaredField where
  messageId : String
  oneofs : Nat
  decl : FieldDecl

mutual

/-- The fields of a message, followed by those of the messages inside it. -/
def MessageDecl.declaredFields (id : String) : MessageDecl → List DeclaredField
  | ⟨_, fields, nested, _, oneofs, _⟩ =>
    fields.map (fun decl => ⟨id, oneofs.length, decl⟩) ++ declaredFieldsInside id nested

/-- The fields of the messages inside a message. -/
def declaredFieldsInside (id : String) : List MessageDecl → List DeclaredField
  | [] => []
  | m :: rest => m.declaredFields (childId id m.name) ++ declaredFieldsInside id rest

end

/-- The fields of a file, message by message. -/
def FileDecl.declaredFields (f : FileDecl) : List DeclaredField :=
  f.messages.flatMap fun m => m.declaredFields (topLevelId f.package m.name)

/-- The fields of a message itself. -/
def DeclaredMessage.declaredFields (d : DeclaredMessage) : List DeclaredField :=
  d.decl.fields.map fun decl => ⟨d.id, d.decl.oneofs.length, decl⟩

mutual

/-- Going through the fields of a message and of those inside it is going through these messages. -/
theorem MessageDecl.declaredFields_eq (package : String) (parent? : Option String) :
    (m : MessageDecl) → m.declaredFields (declaredId package parent? m.name)
      = (m.declaredMessages package parent?).flatMap DeclaredMessage.declaredFields
  | ⟨name?, fields, nested, enums, oneofs, options?⟩ => by
    rw [MessageDecl.declaredFields, MessageDecl.declaredMessages, List.flatMap_cons,
      declaredFieldsInside_eq package]
    rfl

/-- The step through the messages inside a message. -/
theorem declaredFieldsInside_eq (package : String) (id : String) :
    (ms : List MessageDecl) → declaredFieldsInside id ms
      = (declaredMessagesOf package (some id) ms).flatMap DeclaredMessage.declaredFields
  | [] => rfl
  | m :: rest => by
    rw [declaredFieldsInside, declaredMessagesOf, List.flatMap_append,
      ← declaredFieldsInside_eq package id rest,
      ← MessageDecl.declaredFields_eq package (some id) m]
    rfl

end

/-- Going through fields is going through messages. -/
theorem FileDecl.declaredFields_eq (f : FileDecl) :
    f.declaredFields = f.declaredMessages.flatMap DeclaredMessage.declaredFields := by
  unfold FileDecl.declaredFields FileDecl.declaredMessages
  induction f.messages with
  | nil => rfl
  | cons m rest ih =>
    rw [List.flatMap_cons, declaredMessagesOf, List.flatMap_append, ← ih,
      ← MessageDecl.declaredFields_eq f.package none m]
    rfl

/-! ### Faults of a field -/

/-- The names of the types that a field may have. -/
def fieldTypeNames : List String :=
  ["TYPE_DOUBLE", "TYPE_FLOAT", "TYPE_INT64", "TYPE_UINT64", "TYPE_INT32", "TYPE_FIXED64",
    "TYPE_FIXED32", "TYPE_BOOL", "TYPE_STRING", "TYPE_GROUP", "TYPE_MESSAGE", "TYPE_BYTES",
    "TYPE_UINT32", "TYPE_ENUM", "TYPE_SFIXED32",
    "TYPE_SFIXED64", "TYPE_SINT32", "TYPE_SINT64"]

/-- A list of entries gives its fallback where it has no entry, if no entry has it. -/
theorem getD_lookup_eq_fallback_iff {α β : Type} [BEq α] [LawfulBEq α] {l : List (α × β)}
    {fallback : β} (hl : fallback ∉ l.map Prod.snd) {a : α} :
    (l.lookup a).getD fallback = fallback ↔ a ∉ l.map Prod.fst := by
  induction l with
  | nil => simp
  | cons e rest ih =>
    rw [List.map_cons, List.mem_cons, not_or] at hl
    rw [List.map_cons, List.mem_cons, not_or, List.lookup_cons]
    by_cases h : a = e.1
    · simp [h, Ne.symm hl.1]
    · rw [beq_false_of_ne h, ih hl.2, and_iff_right h]

namespace DeclaredField

/-- The id of a field. -/
def id (f : DeclaredField) : String := childId f.messageId f.decl.name

/-- That a field names a oneof that its message does not declare. -/
def IsStray (f : DeclaredField) : Prop :=
  ∃ index, f.decl.oneofIndex? = some index ∧ (index.toInt < 0 ∨ f.oneofs ≤ index.toInt)

/-- That a field has no type, or one that there is not. -/
def IsUntyped (f : DeclaredField) : Prop :=
  match f.decl.kind? with
  | none => True
  | some (.name name) => name ∉ fieldTypeNames
  | some (.number n) => n.toInt < 1 ∨ 18 < n.toInt

instance (f : DeclaredField) : Decidable f.IsUntyped := by
  unfold IsUntyped
  split <;> infer_instance

/-- What is reported of a field without a type: the type as it is given, if it is. -/
def untypedReport (f : DeclaredField) : Diagnostic :=
  .undefinedFieldType f.id ((f.decl.kind?.map EnumLiteral.text).getD "")

/-- A field is undefined if it has no type, or one that there is not. -/
theorem ofLiteral_eq_undefined_iff (f : DeclaredField) :
    FieldKind.ofLiteral f.decl.kind? = .undefined ↔ f.IsUntyped := by
  unfold IsUntyped
  cases f.decl.kind? with
  | none => exact iff_of_true rfl trivial
  | some literal =>
    cases literal with
    | name name => exact getD_lookup_eq_fallback_iff (by decide)
    | number n =>
      refine (getD_lookup_eq_fallback_iff (by decide)).trans ?_
      simp only [List.map_cons, List.map_nil, List.mem_cons, List.not_mem_nil, or_false]
      omega

/-- It is reported then. -/
theorem diagnostic?_built (r : Registry) (f : DeclaredField) :
    (f.decl.built r f.messageId f.oneofs).diagnostic? = if f.IsUntyped then some f.untypedReport
      else none := by
  unfold FieldDecl.built Field.withType
  simp only [← ofLiteral_eq_undefined_iff]
  cases FieldKind.ofLiteral f.decl.kind?
  -- A message field may turn out to be a map entry, which is no reason for a report.
  case message =>
    simp only [reduceCtorEq, if_false]
    split_ifs <;> rfl
  all_goals rfl

/-- Why a field cannot be built. -/
def fault? (f : DeclaredField) : Option BuildError := f.decl.fault? f.messageId f.oneofs

/-- A field cannot be built if it is stray. -/
theorem fault?_eq_some_iff {f : DeclaredField} {e : BuildError} :
    f.fault? = some e ↔
      ∃ index, f.decl.oneofIndex? = some index ∧ (index.toInt < 0 ∨ f.oneofs ≤ index.toInt) ∧
        e = .invalidOneofIndex f.id index f.oneofs := by
  unfold fault? FieldDecl.fault? positionBelow?
  cases f.decl.oneofIndex? with
  | none => simp
  | some index =>
    by_cases h : 0 ≤ index.toInt ∧ index.toInt < f.oneofs
    · have hno : ¬(index.toInt < 0 ∨ f.oneofs ≤ index.toInt) := by omega
      simp [h, hno]
    · have hstray : index.toInt < 0 ∨ f.oneofs ≤ index.toInt := by omega
      simp [h, hstray, id, eq_comm]

/-- A field can be built unless it is stray. -/
theorem fault?_eq_none_iff {f : DeclaredField} : f.fault? = none ↔ ¬f.IsStray := by
  rw [Option.eq_none_iff_forall_ne_some]
  simp only [ne_eq, fault?_eq_some_iff, IsStray]
  constructor
  · rintro h ⟨index, hindex, hrange⟩
    exact h _ ⟨index, hindex, hrange, rfl⟩
  · rintro h e ⟨index, hindex, hrange, -⟩
    exact h ⟨index, hindex, hrange⟩

end DeclaredField

/-- The reports about the fields without a type, in the order of the fields. -/
def untypedReports (fields : List DeclaredField) : List Diagnostic :=
  (fields.filter fun f => f.IsUntyped).map DeclaredField.untypedReport

/-- Reports come in the order of the fields, so that those of two lists stand behind each other. -/
theorem untypedReports_append (fields fields' : List DeclaredField) :
    untypedReports (fields ++ fields') = untypedReports fields ++ untypedReports fields' := by
  unfold untypedReports
  rw [List.filter_append, List.map_append]

/-- The fields in front of the first one that cannot be built. -/
def buildable (fields : List DeclaredField) : List DeclaredField :=
  fields.takeWhile fun f => f.fault?.isNone

section Buildable

variable {fields : List DeclaredField}

/-- Fields that can be built are passed, whatever comes behind them. -/
theorem buildable_append_of_none (h : fields.findSome? DeclaredField.fault? = none)
    (rest : List DeclaredField) : buildable (fields ++ rest) = fields ++ buildable rest :=
  List.takeWhile_append_of_pos fun f hf =>
    Option.isNone_iff_eq_none.2 (List.findSome?_eq_none_iff.1 h f hf)

/-- If all of them can be built, none is left out. -/
theorem buildable_eq_self (h : fields.findSome? DeclaredField.fault? = none) :
    buildable fields = fields := by
  simpa [buildable] using buildable_append_of_none h []

/-- What stands behind a field that cannot be built does not matter. -/
theorem exists_split_of_findSome? {e : BuildError}
    (h : fields.findSome? DeclaredField.fault? = some e) :
    ∃ before f after, fields = before ++ f :: after ∧ (∀ g ∈ before, g.fault? = none) ∧
      f.fault? = some e ∧
      ∀ rest, buildable (fields ++ rest) = before := by
  obtain ⟨before, f, after, rfl, hf, hbefore⟩ := List.findSome?_eq_some_iff.1 h
  refine ⟨before, f, after, rfl, hbefore, hf, fun rest => ?_⟩
  rw [List.append_assoc, buildable_append_of_none (List.findSome?_eq_none_iff.2 hbefore),
    List.cons_append]
  simp [buildable, hf]

end Buildable

/-! ### The sweep over fields -/

/-- A message has the faults of its fields. -/
theorem DeclaredMessage.fault?_eq (d : DeclaredMessage) :
    d.fault? = d.declaredFields.findSome? DeclaredField.fault? := by
  unfold DeclaredMessage.fault? DeclaredMessage.declaredFields
  rw [List.findSome?_map]
  rfl

/-- A message reports its fields without a type, up to the first one that cannot be built. -/
theorem DeclaredMessage.diagnostics_eq (r : Registry) (d : DeclaredMessage) :
    d.diagnostics r = untypedReports (buildable d.declaredFields) := by
  unfold DeclaredMessage.diagnostics DeclaredMessage.built DeclaredMessage.declaredFields buildable
  rw [List.takeWhile_map, List.filterMap_map]
  -- The fields up to there are the same, and each of them is reported or not.
  show ((d.decl.fields.takeWhile fun f => (f.fault? d.id d.decl.oneofs.length).isNone).filterMap _)
    = untypedReports
      ((d.decl.fields.takeWhile fun f => (f.fault? d.id d.decl.oneofs.length).isNone).map _)
  induction d.decl.fields.takeWhile fun f => (f.fault? d.id d.decl.oneofs.length).isNone with
  | nil => rfl
  | cons decl rest ih =>
    have hdecl := DeclaredField.diagnostic?_built r ⟨d.id, d.decl.oneofs.length, decl⟩
    rw [List.filterMap_cons, ih, List.map_cons, Function.comp, hdecl]
    unfold untypedReports
    rw [List.filter_cons]
    by_cases h : DeclaredField.IsUntyped ⟨d.id, d.decl.oneofs.length, decl⟩
    · rw [if_pos h, if_pos (decide_eq_true h), List.map_cons]
    · rw [if_neg h, if_neg (by simpa using h)]

/-- The sweep over some messages stops at the first field that cannot be built. -/
theorem populateAll_error (ctx : Context) (ds : List DeclaredMessage) :
    (populateAll ctx ds).2
      = (ds.flatMap DeclaredMessage.declaredFields).findSome? DeclaredField.fault? := by
  rw [populateAll_snd]
  induction ds with
  | nil => rfl
  | cons d rest ih =>
    rw [List.findSome?_cons, List.flatMap_cons, List.findSome?_append, ← ih, d.fault?_eq]
    cases d.declaredFields.findSome? DeclaredField.fault? <;> rfl

/-- By then it has reported the fields without a type that stand in front of it. -/
theorem populateAll_diagnostics (ctx : Context) (ds : List DeclaredMessage) :
    (populateAll ctx ds).1.diagnostics
      = ctx.diagnostics
        ++ untypedReports (buildable (ds.flatMap DeclaredMessage.declaredFields)) := by
  induction ds generalizing ctx with
  | nil => exact (List.append_nil _).symm
  | cons d rest ih =>
    unfold populateAll
    rw [populate_eq, List.flatMap_cons]
    cases hd : d.fault? with
    | some e =>
      rw [d.fault?_eq] at hd
      -- The message stops the sweep, and it has reported what stands in front of its fault.
      obtain ⟨before, -, -, -, -, -, hbefore⟩ := exists_split_of_findSome? hd
      have hself : buildable d.declaredFields = before := by simpa using hbefore []
      simp only [d.diagnostics_eq, hself, hbefore]
    | none =>
      rw [d.fault?_eq] at hd
      -- The message is passed, and the reports of the rest stand behind its own.
      simp only [ih, d.diagnostics_eq, buildable_eq_self hd, buildable_append_of_none hd,
        untypedReports_append, List.append_assoc]

/-! ### What is registered -/

/-- A message without its fields and oneofs. -/
def Message.bare (m : Message) : Message := { m with fields := [], oneOfs := [] }

/-- The sweep gives messages their fields and oneofs, whether it stops or not, and leaves them as
    they are otherwise. -/
theorem bare_populateAll (ctx : Context) (ds : List DeclaredMessage) (id : String) :
    ((populateAll ctx ds).1.registry.message? id).map Message.bare
      = (ctx.registry.message? id).map Message.bare := by
  induction ds generalizing ctx with
  | nil => rfl
  | cons d rest ih =>
    unfold populateAll
    rw [populate_eq]
    cases hd : d.fault? with
    | some e => rfl
    | none =>
      refine (ih _).trans ?_
      show ((ctx.registry.messages.modify d.id (d.complete ctx.registry)).get? id).map Message.bare
        = _
      rw [Table.get?_modify_eq_map, Option.map_map]
      -- What a message is given are fields and oneofs, which it is looked at without.
      refine congrArg (Option.map · _) (funext fun m => ?_)
      rw [Function.comp]
      split <;> rfl

/-- The second sweep leaves enums alone. -/
theorem enums_populateAll (ctx : Context) (ds : List DeclaredMessage) :
    (populateAll ctx ds).1.registry.enums = ctx.registry.enums := by
  induction ds generalizing ctx with
  | nil => rfl
  | cons d rest ih =>
    unfold populateAll
    rw [populate_eq]
    cases hd : d.fault? with
    | some e => rfl
    | none => simp [ih, Registry.modifyMessage]

/-! ### How registration ends -/

section RegisterTypes

variable (ctx : Context) (files : List FileDecl)

/-- The fields of all files, message by message. -/
theorem flatMap_declaredFields :
    (files.flatMap FileDecl.declaredMessages).flatMap DeclaredMessage.declaredFields
      = files.flatMap FileDecl.declaredFields := by
  rw [List.flatMap_assoc]
  simp only [← FileDecl.declaredFields_eq]

/-- Registration stops at the first field of the files that cannot be built. -/
theorem error_registerTypes :
    (registerTypes ctx files).2
      = (files.flatMap FileDecl.declaredFields).findSome? DeclaredField.fault? := by
  rw [← flatMap_declaredFields]
  exact populateAll_error _ _

/-- It reports the fields without a type up to there. -/
theorem diagnostics_registerTypes :
    (registerTypes ctx files).1.diagnostics
      = ctx.diagnostics ++ untypedReports (buildable (files.flatMap FileDecl.declaredFields)) := by
  rw [← flatMap_declaredFields]
  exact populateAll_diagnostics _ _

/-- The last declaration of a message decides what is registered, whether registration stops or
    not. -/
theorem bare_registerTypes {d : DeclaredMessage}
    (hd : IsLast DeclaredMessage.id (files.flatMap FileDecl.declaredMessages) d) :
    ((registerTypes ctx files).1.registry.message? d.id).map Message.bare = some d.shell := by
  have hshell := message?_registerShells ctx.registry (files.flatMap FileDecl.declaredMessages)
    (files.flatMap FileDecl.declaredEnums) d.id
  rw [isLast_iff_find?_reverse.1 hd] at hshell
  refine (bare_populateAll (ctx.withShells files) _ d.id).trans ?_
  show ((registerShells _ _ _).message? d.id).map Message.bare = _
  rw [hshell]
  rfl

/-- The last declaration of an enum is registered, whether registration stops or not. -/
theorem enum?_registerTypes_of_isLast {d : DeclaredEnum}
    (hd : IsLast DeclaredEnum.id (files.flatMap FileDecl.declaredEnums) d) :
    (registerTypes ctx files).1.registry.enum? d.id = some d.entity := by
  have hentity := enum?_registerShells ctx.registry (files.flatMap FileDecl.declaredMessages)
    (files.flatMap FileDecl.declaredEnums) d.id
  rw [isLast_iff_find?_reverse.1 hd] at hentity
  unfold Registry.enum? at hentity ⊢
  rw [registerTypes, enums_populateAll]
  exact hentity

end RegisterTypes

/-- How the registration of some files into a context ends: with another context, and with an error
    if it has stopped. -/
structure Context.Registers (ctx : Context) (files : List FileDecl)
    (outcome : Context × Option BuildError) : Prop where
  /-- It stops if a field is stray. -/
  stops_iff : (∃ e, outcome.2 = some e) ↔ ∃ f ∈ files.flatMap FileDecl.declaredFields, f.IsStray
  /-- The error is about the first field that is stray, and the fields in front of it have been
      reported. -/
  stopped : ∀ e, outcome.2 = some e → ∃ before f after index,
    files.flatMap FileDecl.declaredFields = before ++ f :: after ∧ (∀ g ∈ before, ¬g.IsStray) ∧
      f.IsStray ∧
    f.decl.oneofIndex? = some index ∧ e = .invalidOneofIndex f.id index f.oneofs ∧
    outcome.1.diagnostics = ctx.diagnostics ++ untypedReports before
  finished : outcome.2 = none →
    outcome.1.diagnostics
      = ctx.diagnostics ++ untypedReports (files.flatMap FileDecl.declaredFields)
  /-- Every message is registered, whether registration stops or not, by its last declaration. -/
  messages : ∀ d ∈ files.flatMap FileDecl.declaredMessages,
      outcome.1.registry.messages.contains d.id = true
  message : ∀ d, IsLast DeclaredMessage.id (files.flatMap FileDecl.declaredMessages) d →
    (outcome.1.registry.message? d.id).map Message.bare = some d.shell
  /-- So is every enum, wherever it stands in its file. -/
  enums : ∀ f ∈ files, ∀ path d, f.LocatesEnum path d →
      outcome.1.registry.enums.contains d.id = true
  enum : ∀ d, IsLast DeclaredEnum.id (files.flatMap FileDecl.declaredEnums) d →
    outcome.1.registry.enum? d.id = some d.entity
  latestEnum : ∀ d : DeclaredEnum, d.IsLatest files → outcome.1.registry.enum? d.id = some d.entity

/-- Registration stops at the first field that belongs to a oneof its message does not declare, and
    nowhere else. The fields without a type in front of it are reported, and all messages and enums
    are registered. -/
theorem registers_registerTypes (ctx : Context) (files : List FileDecl) :
    ctx.Registers files (registerTypes ctx files) := by
  constructor
  case stops_iff =>
    rw [error_registerTypes, ← Option.isSome_iff_exists, List.findSome?_isSome_iff]
    refine exists_congr fun f => and_congr_right fun _ => ?_
    rw [Option.isSome_iff_ne_none, ne_eq, DeclaredField.fault?_eq_none_iff, not_not]
  case stopped =>
    intro e he
    rw [error_registerTypes] at he
    obtain ⟨before, f, after, hsplit, hbefore, hf, hbuildable⟩ := exists_split_of_findSome? he
    obtain ⟨index, hindex, hrange, rfl⟩ := DeclaredField.fault?_eq_some_iff.1 hf
    refine ⟨before, f, after, index, hsplit, fun g hg =>
        DeclaredField.fault?_eq_none_iff.1 (hbefore g hg),
      ⟨index, hindex, hrange⟩, hindex, rfl, ?_⟩
    have hself := hbuildable []
    rw [List.append_nil] at hself
    rw [diagnostics_registerTypes, hself]
  case finished =>
    intro hnone
    rw [error_registerTypes] at hnone
    rw [diagnostics_registerTypes, buildable_eq_self hnone]
  case messages =>
    intro d hd
    -- Some declaration of the id is the last one, and that one is registered.
    obtain ⟨last, -, hid, hlast⟩ := exists_isLast DeclaredMessage.id hd
    obtain ⟨m, hm, -⟩ := Option.map_eq_some_iff.1 (bare_registerTypes ctx files hlast)
    exact Table.contains_eq_true_iff.2 ⟨m, hid ▸ hm⟩
  case message => exact fun d hd => bare_registerTypes ctx files hd
  case enums =>
    intro f hf path d hd
    obtain ⟨last, -, hid, hlast⟩ :=
      exists_isLast DeclaredEnum.id (mem_flatMap_declaredEnums_iff.2 ⟨f, hf, path, hd⟩)
    exact Table.contains_eq_true_iff.2 ⟨last.entity,
      hid ▸ enum?_registerTypes_of_isLast ctx files hlast⟩
  case enum => exact fun d hd => enum?_registerTypes_of_isLast ctx files hd
  case latestEnum => exact fun d hd => enum?_registerTypes_of_isLast ctx files hd.isLast

/-- A file with an inner message whose optional field belongs to no oneof, between two fields
    without a type. -/
def parcelsFile : FileDecl where
  package? := some "post"
  messages := [
    { name? := some "Parcel"
      fields := [{ name? := some "weight", kind? := some (.number 19) }]
      nested := [
        { name? := some "Label"
          fields :=
            [{ name? := some "code", oneofIndex? := some (-1), proto3Optional? := some true }] }] },
    { name? := some "Stamp", fields := [{ name? := some "price" }] }]

/-- The field behind the one that registration stops at is not reported, though its message is
    registered. -/
example :
    (registerTypes {} [parcelsFile]).2.map BuildError.message = some
      "field `.post.Parcel.Label.code` references oneof #-1 but its message declares 0" ∧
    (registerTypes {} [parcelsFile]).1.diagnostics
      = [.undefinedFieldType ".post.Parcel.weight" "19"] ∧
    (registerTypes {} [parcelsFile]).1.registry.messages.names
      = [".post.Parcel", ".post.Parcel.Label", ".post.Stamp"]
    := by
  decide +kernel

end ProtoApi
