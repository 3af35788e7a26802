import ProtoApi.Proofs.Build.Locations
import ProtoApi.Proofs.Build.Registered

namespace ProtoApi

/-!
# Of several declarations the last one stays

An id may be declared any number of times, in one file or in several. The first sweep of
registration writes what a message is called and what is inside it, and the second one its fields
and oneofs; both of them overwrite what an earlier declaration has left under the id.

* `IsLast` — an element of a list with no other one of its key behind it;
* `DeclaredMessage.entity` — the message that one declaration makes by itself;
* `FileDecl.innermostFirst` — the messages of a file, each behind those inside it. No message has
  the id of one inside it, so that this order and that of the document have the same last
  declarations (`isLast_innermostFirst_iff`), and shells may be registered in either of them
  (`registerShells_innermostFirst`);
* `DeclaredEnum.IsLatest`, `IsLatest.isLast` — an enum that is alone with its id in its file and the
  files behind it is the last one of the id, in whichever order a sweep goes through the enums of a
  file;
* `Context.LastStays` — what registration makes of a registry: the last declaration of each id, and
  what there was before under all other ids;
* `lastStays_of_registerTypes` — so it is wherever registration succeeds.
-/

/-! ### The last one of a key -/

/-- `a` is the last element of a list with its key. -/
def IsLast {α : Type} (key : α → String) (l : List α) (a : α) : Prop :=
  ∃ before after, l = before ++ a :: after ∧ ∀ b ∈ after, key b ≠ key a

section Last

variable {α : Type} {key : α → String} {l l' : List α} {a : α}

theorem IsLast.mem (h : IsLast key l a) : a ∈ l := by
  obtain ⟨before, after, rfl, -⟩ := h
  simp

/-- The last one of a key is the first one that is met from behind. -/
theorem isLast_iff_find?_reverse :
    IsLast key l a ↔ l.reverse.find? (fun b => key b = key a) = some a := by
  rw [List.find?_eq_some_iff_append]
  constructor
  · rintro ⟨before, after, rfl, hafter⟩
    refine ⟨decide_eq_true rfl, after.reverse, before.reverse, by simp, fun b hb => ?_⟩
    simpa using hafter b (List.mem_reverse.1 hb)
  · rintro ⟨-, behind, before, hl, hbehind⟩
    refine ⟨before.reverse, behind.reverse, ?_, fun b hb => ?_⟩
    · rw [← List.reverse_reverse l, hl]
      simp
    · simpa using hbehind b (List.mem_reverse.1 hb)

variable (key) in
/-- Each key of a list has a last element. -/
theorem exists_isLast (ha : a ∈ l) : ∃ b ∈ l, key b = key a ∧ IsLast key l b := by
  cases hf : l.reverse.find? fun b => key b = key a with
  | none => exact absurd (decide_eq_true rfl) (List.find?_eq_none.1 hf a (List.mem_reverse.2 ha))
  | some b =>
    have hkey : key b = key a :=
      of_decide_eq_true (List.find?_some (p := fun b => decide (key b = key a)) hf)
    refine ⟨b, List.mem_reverse.1 (List.mem_of_find?_eq_some hf), hkey, ?_⟩
    rw [isLast_iff_find?_reverse, hkey]
    exact hf

/-- What is last of its key depends on the elements of that key alone. -/
theorem find?_reverse_congr {p : α → Bool} (h : l.filter p = l'.filter p) :
    l.reverse.find? p = l'.reverse.find? p := by
  rw [← List.head?_filter, ← List.head?_filter, List.filter_reverse, List.filter_reverse, h]

end Last

/-! ### Messages inside each other -/

section Inside

variable (package : String)

mutual

/-- A message inside another one has an id that goes on from that of the other one. -/
theorem MessageDecl.isPrefix_of_mem_declaredMessages (outer : String) : (m : MessageDecl) →
    ∀ d ∈ m.declaredMessages package (some outer), outer.toList ++ ['.'] <+: d.id.toList
  | ⟨name?, fields, nested, enums, oneofs, options?⟩ => by
    intro d hd
    have hown : outer.toList ++ ['.'] <+: (childId outer (name?.getD "")).toList := by
      rw [toList_childId]
      exact ⟨(name?.getD "").toList, by simp⟩
    rw [MessageDecl.declaredMessages] at hd
    rcases List.mem_cons.1 hd with rfl | hd
    · exact hown
    · have hinner := isPrefix_of_mem_declaredMessagesOf (childId outer (name?.getD "")) nested d hd
      exact hown.trans ((List.prefix_append _ _).trans hinner)

/-- The step through a list of messages inside another one. -/
theorem isPrefix_of_mem_declaredMessagesOf (outer : String) : (ms : List MessageDecl) →
    ∀ d ∈ declaredMessagesOf package (some outer) ms, outer.toList ++ ['.'] <+: d.id.toList
  | [] => by simp [declaredMessagesOf]
  | m :: rest => by
    intro d hd
    rw [declaredMessagesOf, List.mem_append] at hd
    rcases hd with hd | hd
    · exact MessageDecl.isPrefix_of_mem_declaredMessages outer m d hd
    · exact isPrefix_of_mem_declaredMessagesOf outer rest d hd

end

/-- No message inside another one has the id of the other one. -/
theorem filter_declaredMessagesOf_eq_nil (outer : String) (ms : List MessageDecl) :
    (declaredMessagesOf package (some outer) ms).filter (·.id = outer) = [] := by
  rw [List.filter_eq_nil_iff]
  intro d hd hid
  have hlength := (isPrefix_of_mem_declaredMessagesOf package outer ms d hd).length_le
  rw [of_decide_eq_true hid, List.length_append, List.length_singleton] at hlength
  omega

mutual

/-- A message, behind the messages inside it. -/
def MessageDecl.innermostFirst (parent? : Option String) : MessageDecl → List DeclaredMessage
  | ⟨name?, fields, nested, enums, oneofs, options?⟩ =>
    let id := declaredId package parent? (name?.getD "")
    innermostFirstOf (some id) nested
      ++ [⟨id, package, parent?, ⟨name?, fields, nested, enums, oneofs, options?⟩⟩]

/-- Messages of one parent, each behind the messages inside it. -/
def innermostFirstOf (parent? : Option String) : List MessageDecl → List DeclaredMessage
  | [] => []
  | m :: rest => m.innermostFirst parent? ++ innermostFirstOf parent? rest

end

mutual

/-- The messages with one id come in the same order whether or not those inside a message come
    first. -/
theorem MessageDecl.filter_innermostFirst (id : String) (parent? : Option String) :
    (m : MessageDecl) →
    (m.innermostFirst package parent?).filter (·.id = id)
      = (m.declaredMessages package parent?).filter (·.id = id)
  | ⟨name?, fields, nested, enums, oneofs, options?⟩ => by
    have ih := filter_innermostFirstOf id (some (declaredId package parent? (name?.getD ""))) nested
    rw [MessageDecl.innermostFirst, MessageDecl.declaredMessages, List.filter_append, ih,
      List.filter_cons]
    by_cases h : declaredId package parent? (name?.getD "") = id
    · -- Of the message and those inside it only the message itself has the id.
      subst h
      simp [filter_declaredMessagesOf_eq_nil]
    · simp [h]

/-- The step through a list of messages. -/
theorem filter_innermostFirstOf (id : String) (parent? : Option String) : (ms : List MessageDecl) →
    (innermostFirstOf package parent? ms).filter (·.id = id)
      = (declaredMessagesOf package parent? ms).filter (·.id = id)
  | [] => rfl
  | m :: rest => by
    rw [innermostFirstOf, declaredMessagesOf, List.filter_append, List.filter_append,
      MessageDecl.filter_innermostFirst id parent? m, filter_innermostFirstOf id parent? rest]

end

end Inside

/-- The messages of a file, at any depth, each behind those inside it. -/
def FileDecl.innermostFirst (f : FileDecl) : List DeclaredMessage :=
  innermostFirstOf f.package none f.messages

section Orders

variable (files : List FileDecl)

/-- So it is for the messages of several files. -/
theorem filter_flatMap_innermostFirst (id : String) :
    (files.flatMap FileDecl.innermostFirst).filter (·.id = id)
      = (files.flatMap FileDecl.declaredMessages).filter (·.id = id) := by
  rw [List.filter_flatMap, List.filter_flatMap]
  exact List.flatMap_congr fun f _ => filter_innermostFirstOf f.package id none f.messages

variable {files}

/-- The last declaration of an id is the same in both orders. -/
theorem isLast_innermostFirst_iff {d : DeclaredMessage} :
    IsLast DeclaredMessage.id (files.flatMap FileDecl.innermostFirst) d ↔
      IsLast DeclaredMessage.id (files.flatMap FileDecl.declaredMessages) d := by
  rw [isLast_iff_find?_reverse, isLast_iff_find?_reverse,
    find?_reverse_congr (filter_flatMap_innermostFirst files d.id)]

/-- Shells may be registered in either order. -/
theorem registerShells_innermostFirst (r : Registry) (files : List FileDecl)
    (enums : List DeclaredEnum) :
    registerShells r (files.flatMap FileDecl.innermostFirst) enums
      = registerShells r (files.flatMap FileDecl.declaredMessages) enums := by
  rw [registerShells_eq, registerShells_eq]
  congr 1
  refine Table.ext_get? fun id => ?_
  rw [Table.get?_foldl_insert, Table.get?_foldl_insert,
    find?_reverse_congr (filter_flatMap_innermostFirst files id)]

end Orders

/-! ### Enums where they stand -/

/-- That an enum is the only one of its id in its file, and that no file behind that has one of the
    id. -/
def DeclaredEnum.IsLatest (files : List FileDecl) (e : DeclaredEnum) : Prop :=
  ∃ before f after path, files = before ++ f :: after ∧ f.LocatesEnum path e ∧
    (∀ path' e', f.LocatesEnum path' e' → e'.id = e.id → e' = e) ∧
    ∀ g ∈ after, ∀ path' e', g.LocatesEnum path' e' → e'.id ≠ e.id

/-- The enums of some files are those that have a path in one of them. -/
theorem mem_flatMap_declaredEnums_iff {files : List FileDecl} {e : DeclaredEnum} :
    e ∈ files.flatMap FileDecl.declaredEnums ↔ ∃ f ∈ files, ∃ path, f.LocatesEnum path e := by
  rw [List.mem_flatMap]
  exact exists_congr fun f => and_congr_right fun _ => f.mem_declaredEnums_iff

/-- Such an enum is the last one of its id. -/
theorem DeclaredEnum.IsLatest.isLast {files : List FileDecl} {e : DeclaredEnum}
    (h : e.IsLatest files) : IsLast DeclaredEnum.id (files.flatMap FileDecl.declaredEnums) e := by
  obtain ⟨before, f, after, path, rfl, he, honly, hafter⟩ := h
  -- Within its file the last enum of the id can only be this one.
  obtain ⟨last, hmem, hid, hlast⟩ := exists_isLast DeclaredEnum.id (mem_declaredEnums_of_locates he)
  obtain ⟨path', hlocated⟩ := f.mem_declaredEnums_iff.1 hmem
  obtain rfl := honly path' last hlocated hid
  obtain ⟨front, behind, hsplit, hbehind⟩ := hlast
  refine ⟨before.flatMap FileDecl.declaredEnums ++ front,
    behind ++ after.flatMap FileDecl.declaredEnums, ?_, ?_⟩
  · rw [List.flatMap_append, List.flatMap_cons, hsplit]
    simp
  · intro b hb
    rcases List.mem_append.1 hb with hb | hb
    · exact hbehind b hb
    · obtain ⟨g, hg, path', hb⟩ := mem_flatMap_declaredEnums_iff.1 hb
      exact hafter g hg path' b hb

/-! ### What one declaration makes -/

namespace DeclaredMessage

/-- The fields of a message. -/
def allBuilt (r : Registry) (d : DeclaredMessage) : List BuiltField :=
  d.decl.fields.map (·.built r d.id d.decl.oneofs.length)

/-- The message that a declaration makes by itself. Of the registry it takes only which messages are
    entries of maps. -/
def entity (r : Registry) (d : DeclaredMessage) : Message where
  id := d.id
  name := d.decl.name
  package := d.package
  parent := d.parent?
  deprecated := isDeprecated d.decl.options?
  isMap := d.decl.isMapEntry
  fields := (d.allBuilt r).map (·.field)
  oneOfs := survivingOneofs d.id d.decl.oneofs (d.allBuilt r)
  messages := d.decl.nested.map fun n => childId d.id n.name
  enums := d.decl.enums.map fun e => childId d.id e.name

/-- A shell and the fields of the same declaration make up the message. -/
theorem complete_shell (r : Registry) {d : DeclaredMessage} (h : d.fault? = none) :
    d.complete r d.shell = d.entity r := by
  have hall : d.built r = d.allBuilt r := d.built_of_faultless r h
  unfold complete entity
  rw [hall]
  rfl

end DeclaredMessage

/-! ### Registration -/

/-- What registration makes of a context: under each id that is declared the last declaration stays,
    as a whole, and everything else stays as it was. -/
structure Context.LastStays (start : Context) (files : List FileDecl) (ctx : Context) : Prop where
  /-- The shell and the fields of a message come from one declaration, in whichever order a sweep
      goes through messages and those inside them. -/
  messages : ∀ d ∈ files.flatMap FileDecl.declaredMessages, ∃ last, last.id = d.id ∧
    IsLast DeclaredMessage.id (files.flatMap FileDecl.declaredMessages) last ∧
    IsLast DeclaredMessage.id (files.flatMap FileDecl.innermostFirst) last ∧
    ctx.registry.message? d.id = some (last.entity (start.withShells files).registry)
  /-- What the fields have seen of the other messages are the shells, in whichever order they have
      been registered. -/
  shells : (start.withShells files).registry
    = registerShells start.registry (files.flatMap FileDecl.innermostFirst)
      (files.flatMap FileDecl.declaredEnums)
  /-- Under the id of an enum that stands anywhere in a file there is the last one of the id. -/
  enums : ∀ f ∈ files, ∀ path e, f.LocatesEnum path e → ∃ last, last.id = e.id ∧
    IsLast DeclaredEnum.id (files.flatMap FileDecl.declaredEnums) last ∧
    ctx.registry.enum? e.id = some last.entity
  latestEnums : ∀ e : DeclaredEnum, e.IsLatest files → ctx.registry.enum? e.id = some e.entity
  otherMessages : ∀ id, (∀ d ∈ files.flatMap FileDecl.declaredMessages, d.id ≠ id) →
    ctx.registry.message? id = start.registry.message? id
  otherEnums : ∀ id, (∀ f ∈ files, ∀ path e, f.LocatesEnum path e → e.id ≠ id) →
    ctx.registry.enum? id = start.registry.enum? id
  services : ctx.registry.services = start.registry.services
  methods : ctx.registry.methods = start.registry.methods

section Register

variable {start ctx : Context} {files : List FileDecl} (h : registerTypes start files = (ctx, none))
include h

/-- A message that is not declared stays as it is. -/
theorem message?_registerTypes_of_ne {id : String}
    (hid : ∀ d ∈ files.flatMap FileDecl.declaredMessages, d.id ≠ id) :
    ctx.registry.message? id = start.registry.message? id := by
  obtain ⟨-, rfl⟩ := registerTypes_of_faultless h
  -- Neither sweep writes under the id.
  refine (Table.get?_foldl_modify_of_ne hid _).trans ?_
  show (registerShells start.registry _ _).messages.get? id = _
  rw [registerShells_eq]
  exact Table.get?_foldl_insert_of_ne hid _

/-- An enum that is not declared stays as it is. -/
theorem enum?_registerTypes_of_ne {id : String}
    (hid : ∀ e ∈ files.flatMap FileDecl.declaredEnums, e.id ≠ id) :
    ctx.registry.enum? id = start.registry.enum? id := by
  obtain ⟨-, rfl⟩ := registerTypes_of_faultless h
  show (registerShells start.registry _ _).enums.get? id = _
  rw [registerShells_eq]
  exact Table.get?_foldl_insert_of_ne hid _

/-- Where registration succeeds, the last declaration of each id stays and nothing else changes. -/
theorem lastStays_of_registerTypes : start.LastStays files ctx where
  messages d hd := by
    obtain ⟨last, hmem, hid, hlast⟩ := exists_isLast DeclaredMessage.id hd
    refine ⟨last, hid, hlast, isLast_innermostFirst_iff.2 hlast, ?_⟩
    -- Registration did not fail, so the shell of the last declaration has got all its fields.
    have hregistered := message?_registerTypes h (isLast_iff_find?_reverse.1 hlast)
    rw [DeclaredMessage.complete_shell _ (fault?_eq_none h hmem), hid] at hregistered
    exact hregistered
  shells := (registerShells_innermostFirst start.registry files _).symm
  enums f hf path e he := by
    obtain ⟨last, -, hid, hlast⟩ :=
      exists_isLast DeclaredEnum.id (mem_flatMap_declaredEnums_iff.2 ⟨f, hf, path, he⟩)
    have hregistered := enum?_registerTypes h (isLast_iff_find?_reverse.1 hlast)
    rw [hid] at hregistered
    exact ⟨last, hid, hlast, hregistered⟩
  latestEnums _ he := enum?_registerTypes h (isLast_iff_find?_reverse.1 he.isLast)
  otherMessages _ hid := message?_registerTypes_of_ne h hid
  otherEnums id hid := by
    refine enum?_registerTypes_of_ne h fun e he => ?_
    obtain ⟨f, hf, path, he⟩ := mem_flatMap_declaredEnums_iff.1 he
    exact hid f hf path e he
  services := services_registerTypes h
  methods := methods_registerTypes h

end Register

/-- A file that declares a message with another one inside it. -/
def crateFile : FileDecl where
  name? := "crate.proto"
  package? := "shop"
  messages := [
    { name? := "Crate"
      fields := [{ name? := "label", kind? := some (.name "TYPE_STRING") }]
      nested := [{ name? := "Lid" }]
      oneofs := [{ name? := "unused" }] }]

/-- A file that declares it again with other contents, and under the id of the inner one a message
    of its own. -/
def parcelFile : FileDecl where
  name? := "parcel.proto"
  package? := "shop"
  messages := [
    { name? := "Crate.Lid", enums := [{ name? := "Colour" }] },
    { name? := "Crate"
      fields := [{ name? := "weight", kind? := some (.name "TYPE_INT32"), oneofIndex? := some 0 }]
      oneofs := [{ name? := "measure" }] }]

/-- The later declarations stay, and so does what was there before. -/
theorem parcelFile_lastStays :
    registerTypes { registry := ({} : Registry).addMessage { id := ".shop.Label" } } [crateFile,
        parcelFile]
        = ((registerTypes { registry := ({} : Registry).addMessage { id := ".shop.Label" } }
            [crateFile, parcelFile]).1, none) ∧
      Context.LastStays { registry := ({} : Registry).addMessage { id := ".shop.Label" } }
        [crateFile, parcelFile]
        (registerTypes { registry := ({} : Registry).addMessage { id := ".shop.Label" } }
          [crateFile, parcelFile]).1 := by
  have hr : (registerTypes { registry := ({} : Registry).addMessage { id := ".shop.Label" } }
      [crateFile, parcelFile]).2 = none := by
    decide +kernel
  exact ⟨Prod.ext rfl hr, lastStays_of_registerTypes (Prod.ext rfl hr)⟩

end ProtoApi
