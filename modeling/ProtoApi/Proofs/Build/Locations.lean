import ProtoApi.Build.Comments
import ProtoApi.Proofs.Build.Declared
import ProtoApi.Proofs.Build.Documentation
import ProtoApi.Proofs.Build.Names
import Mathlib.Data.List.Nodup

namespace ProtoApi

/-!
# Where declarations stand in a file

* `FileDecl.LocatesMessage`, `FileDecl.LocatesEnum`, `FileDecl.Locates` — the paths of the messages,
  of the enums and of all that may have a comment, by the tree of declarations;
* `resolve_eq_target_iff` — following a path leads to what stands there;
* `FileDecl.locatedMessages`, `FileDecl.locatedEnums` — all messages and enums with their paths;
  `mem_declaredMessages_iff`, `mem_declaredEnums_iff` say that these are the declared ones;
* `FileDecl.Declares`, `declares_of_locates` — the entities of a file, which are all that its paths
  lead to;
* `locates_unique` — where ids are told apart, nothing stands at two paths.
-/

/-! ### Paths of declarations -/

namespace FileDecl

variable (f : FileDecl)

/-- The path of a message: one step for each message around it. -/
inductive LocatesMessage : List Int → DeclaredMessage → Prop where
  | top {i : Nat} {m : MessageDecl} (h : f.messages[i]? = some m) :
    LocatesMessage [4, (i : Int)] ⟨topLevelId f.package m.name, f.package, none, m⟩
  | inner {path : List Int} {d : DeclaredMessage} {i : Nat} {n : MessageDecl}
    (h : LocatesMessage path d) (hn : d.decl.nested[i]? = some n) :
    LocatesMessage (path ++ [3, (i : Int)]) (d.inner n)

/-- The path of an enum. -/
inductive LocatesEnum : List Int → DeclaredEnum → Prop where
  | top {i : Nat} {e : EnumDecl} (h : f.enums[i]? = some e) :
    LocatesEnum [5, (i : Int)] ⟨topLevelId f.package e.name, f.package, none, e⟩
  | inner {path : List Int} {d : DeclaredMessage} {i : Nat} {e : EnumDecl}
    (h : f.LocatesMessage path d) (he : d.decl.enums[i]? = some e) :
    LocatesEnum (path ++ [4, (i : Int)]) (d.innerEnum e)

/-- The path of anything that may have a comment. -/
inductive Locates : List Int → DocTarget → Prop where
  | message {path : List Int} {d : DeclaredMessage} (h : f.LocatesMessage path d) :
    Locates path (.message d.id)
  | field {path : List Int} {d : DeclaredMessage} {i : Nat} {x : FieldDecl}
    (h : f.LocatesMessage path d) (hx : d.decl.fields[i]? = some x) :
    Locates (path ++ [2, (i : Int)]) (.field d.id x.name)
  | oneOf {path : List Int} {d : DeclaredMessage} {i : Nat} {o : OneofDecl}
    (h : f.LocatesMessage path d) (ho : d.decl.oneofs[i]? = some o) :
    Locates (path ++ [8, (i : Int)]) (.oneOf d.id o.name)
  | enum {path : List Int} {e : DeclaredEnum} (h : f.LocatesEnum path e) : Locates path (.enum e.id)
  | enumValue {path : List Int} {e : DeclaredEnum} {i : Nat} (h : f.LocatesEnum path e)
    (hi : i < e.decl.values.length) : Locates (path ++ [2, (i : Int)]) (.enumValue e.id i)
  | service {i : Nat} {s : ServiceDecl} (h : f.services[i]? = some s) :
    Locates [6, (i : Int)] (.service (f.serviceId s))
  | method {i j : Nat} {s : ServiceDecl} {m : MethodDecl} (h : f.services[i]? = some s)
    (hm : s.methods[j]? = some m) :
    Locates [6, (i : Int), 2, (j : Int)] (.method (childId (f.serviceId s) m.name))

end FileDecl

/-! ### Following paths -/

section Resolve

variable {f : FileDecl}

/-- A step of a path is a number that may be negative, in which case there is nothing. -/
theorem elementAt?_eq_some_iff {α : Type} {xs : List α} {position : Int} {a : α} :
    elementAt? xs position = some a ↔ ∃ i : Nat, position = i ∧ xs[i]? = some a := by
  unfold elementAt?
  split
  · next h =>
    constructor
    · intro ha
      nomatch ha
    · rintro ⟨i, rfl, -⟩
      omega
  · next h =>
    constructor
    · exact fun ha => ⟨position.toNat, (Int.toNat_of_nonneg (Int.not_lt.1 h)).symm, ha⟩
    · rintro ⟨i, rfl, ha⟩
      exact ha

/-- A step to a position leads somewhere if there is an element from which the rest of the path
    does. -/
theorem at_eq_target_iff {α : Type} {xs : List α} {position : Int} {next : α → Resolved}
    {t : DocTarget} :
    Resolved.at xs position next = .target t ↔
      ∃ (i : Nat) (a : α), position = i ∧ xs[i]? = some a ∧ next a = .target t := by
  unfold Resolved.at
  constructor
  · intro h
    split at h
    · next a ha =>
      obtain ⟨i, hi, ha⟩ := elementAt?_eq_some_iff.1 ha
      exact ⟨i, a, hi, ha, h⟩
    · nomatch h
  · rintro ⟨i, a, hi, ha, h⟩
    rw [elementAt?_eq_some_iff.2 ⟨i, hi, ha⟩]
    exact h

/-- From an enum a path ends at once or leads to one of the values, by its position. -/
theorem EnumDecl.resolve_eq_target_iff {e : EnumDecl} {id : String} {path : List Int}
    {t : DocTarget} :
    e.resolve id path = .target t ↔
      path = [] ∧ t = .enum id ∨
        ∃ i : Nat, path = [2, (i : Int)] ∧ i < e.values.length ∧ t = .enumValue id i := by
  unfold EnumDecl.resolve
  split
  · constructor
    · intro h
      cases h
      exact Or.inl ⟨rfl, rfl⟩
    · rintro (⟨-, rfl⟩ | ⟨i, h, -⟩)
      · rfl
      · nomatch h
  · next i =>
    rw [at_eq_target_iff]
    constructor
    · rintro ⟨i, a, rfl, ha, h⟩
      cases h
      exact Or.inr ⟨i, rfl, (List.getElem?_eq_some_iff.1 ha).1, rfl⟩
    · rintro (⟨h, -⟩ | ⟨j, h, hj, rfl⟩)
      · nomatch h
      · cases h
        exact ⟨j, e.values[j], rfl, List.getElem?_eq_getElem hj, rfl⟩
  · -- All other paths lead nowhere.
    next hnil hvalue =>
    constructor
    · intro h
      nomatch h
    · rintro (⟨h, -⟩ | ⟨i, h, -⟩)
      · exact absurd h hnil
      · exact absurd h (hvalue i)

/-- What a path leads to from a located enum stands at the whole path. -/
theorem locates_of_resolve_enum {path rest : List Int} {e : DeclaredEnum} {t : DocTarget}
    (he : f.LocatesEnum path e) (h : e.decl.resolve e.id rest = .target t) :
    f.Locates (path ++ rest) t := by
  rcases EnumDecl.resolve_eq_target_iff.1 h with ⟨rfl, rfl⟩ | ⟨i, rfl, hi, rfl⟩
  · rw [List.append_nil]
    exact .enum he
  · exact .enumValue he hi

/-- What a path leads to from a located message stands at the whole path. -/
theorem locates_of_resolve_message {path rest : List Int} {d : DeclaredMessage} {t : DocTarget}
    (hd : f.LocatesMessage path d) (h : d.decl.resolve d.id rest = .target t) :
    f.Locates (path ++ rest) t := by
  -- Every two steps into a message inside it lengthen the path of what is located by the same two
  -- steps.
  generalize hm : d.decl = m at h
  generalize hid : d.id = id at h
  fun_induction MessageDecl.resolve m id rest generalizing path d
  case case1 m id =>
    cases h
    rw [List.append_nil, ← hid]
    exact .message hd
  case case2 m id i =>
    obtain ⟨i, x, rfl, hx, h⟩ := at_eq_target_iff.1 h
    cases h
    rw [← hid]
    exact .field hd (hm ▸ hx)
  case case4 m id i rest n hn ih =>
    obtain ⟨i, rfl, hn⟩ := elementAt?_eq_some_iff.1 hn
    subst hm hid
    have hinner := ih (.inner hd hn) rfl rfl h
    rw [List.append_assoc] at hinner
    exact hinner
  case case6 m id i rest =>
    subst hm hid
    obtain ⟨i, e, rfl, he, h⟩ := at_eq_target_iff.1 h
    have hinner := locates_of_resolve_enum (.inner hd he) h
    rw [List.append_assoc] at hinner
    exact hinner
  case case7 m id i =>
    obtain ⟨i, o, rfl, ho, h⟩ := at_eq_target_iff.1 h
    cases h
    rw [← hid]
    exact .oneOf hd (hm ▸ ho)
  all_goals nomatch h

/-- From the whole path of a message, following goes on with the message. -/
theorem resolve_of_locatesMessage {path rest : List Int} {d : DeclaredMessage}
    (hd : f.LocatesMessage path d) {whole : List Int32}
    (hw : whole.map Int32.toInt = path ++ rest) : f.resolve whole = d.decl.resolve d.id rest := by
  induction hd generalizing rest with
  | @top i m h =>
    unfold FileDecl.resolve
    rw [hw]
    -- The first step of a path chooses among the lists of the file by its number, here that of
    -- messages.
    show Resolved.at f.messages (i : Int) _ = _
    unfold Resolved.at
    rw [elementAt?_eq_some_iff.2 ⟨i, rfl, h⟩]
    rfl
  | @inner path d i n _ hn ih =>
    rw [List.append_assoc] at hw
    rw [ih hw]
    show d.decl.resolve d.id (3 :: (i : Int) :: rest) = _
    rw [MessageDecl.resolve, elementAt?_eq_some_iff.2 ⟨i, rfl, hn⟩]
    rfl

/-- From the whole path of an enum, following goes on with the enum. -/
theorem resolve_of_locatesEnum {path rest : List Int} {e : DeclaredEnum} (he : f.LocatesEnum path e)
    {whole : List Int32} (hw : whole.map Int32.toInt = path ++ rest) :
    f.resolve whole = e.decl.resolve e.id rest := by
  cases he with
  | @top i e h =>
    unfold FileDecl.resolve
    rw [hw]
    show Resolved.at f.enums (i : Int) _ = _
    unfold Resolved.at
    rw [elementAt?_eq_some_iff.2 ⟨i, rfl, h⟩]
    rfl
  | @inner path d i e hd h =>
    -- The way to an inner enum begins with the way to its message.
    rw [List.append_assoc] at hw
    rw [resolve_of_locatesMessage hd hw]
    show Resolved.at d.decl.enums (i : Int) _ = _
    unfold Resolved.at
    rw [elementAt?_eq_some_iff.2 ⟨i, rfl, h⟩]
    rfl

/-- Following a path leads to something that stands there. -/
theorem locates_of_resolve {path : List Int32} {t : DocTarget} (h : f.resolve path = .target t) :
    f.Locates (path.map Int32.toInt) t := by
  unfold FileDecl.resolve at h
  -- The first step of the path says which list of the file to look in.
  split at h
  · next i rest hpath =>
    obtain ⟨i, m, rfl, hm, h⟩ := at_eq_target_iff.1 h
    have hloc : f.Locates ([4, (i : Int)] ++ rest) t := locates_of_resolve_message (.top hm) h
    rw [hpath]
    exact hloc
  · next i rest hpath =>
    obtain ⟨i, e, rfl, he, h⟩ := at_eq_target_iff.1 h
    have hloc : f.Locates ([5, (i : Int)] ++ rest) t := locates_of_resolve_enum (.top he) h
    rw [hpath]
    exact hloc
  · next i rest hpath =>
    obtain ⟨i, s, rfl, hs, h⟩ := at_eq_target_iff.1 h
    rw [hpath]
    -- A service has a comment of its own, or one of its methods has it.
    unfold ServiceDecl.resolve at h
    split at h
    · cases h
      exact .service hs
    · obtain ⟨j, m, rfl, hm, h⟩ := at_eq_target_iff.1 h
      cases h
      exact .method hs hm
    all_goals nomatch h
  · split at h <;> nomatch h
  · nomatch h

/-- Following the path of something leads there. -/
theorem resolve_of_locates {path : List Int32} {t : DocTarget}
    (h : f.Locates (path.map Int32.toInt) t) : f.resolve path = .target t := by
  generalize hw : path.map Int32.toInt = whole at h
  cases h with
  -- The path of a message is followed to the end, that of a field one more step.
  | message hd =>
    rw [← List.append_nil whole] at hw
    rw [resolve_of_locatesMessage hd hw]
    rfl
  | @field lead d i x hd hx =>
    rw [resolve_of_locatesMessage hd hw]
    exact at_eq_target_iff.2 ⟨i, x, rfl, hx, rfl⟩
  | @oneOf lead d i o hd ho =>
    rw [resolve_of_locatesMessage hd hw]
    exact at_eq_target_iff.2 ⟨i, o, rfl, ho, rfl⟩
  | enum he =>
    rw [← List.append_nil whole] at hw
    rw [resolve_of_locatesEnum he hw]
    rfl
  | @enumValue lead e i he hi =>
    rw [resolve_of_locatesEnum he hw]
    exact EnumDecl.resolve_eq_target_iff.2 (Or.inr ⟨i, rfl, hi, rfl⟩)
  | @service i s hs =>
    unfold FileDecl.resolve
    rw [hw]
    exact at_eq_target_iff.2 ⟨i, s, rfl, hs, rfl⟩
  | @method i j s m hs hm =>
    unfold FileDecl.resolve
    rw [hw]
    exact at_eq_target_iff.2 ⟨i, s, rfl, hs, at_eq_target_iff.2 ⟨j, m, rfl, hm, rfl⟩⟩

/-- A path leads to what stands there. -/
theorem resolve_eq_target_iff {path : List Int32} {t : DocTarget} :
    f.resolve path = .target t ↔ f.Locates (path.map Int32.toInt) t :=
  ⟨locates_of_resolve, resolve_of_locates⟩

/-- What stands somewhere in a file is declared by it. -/
theorem mem_declaredMessages_of_locates {path : List Int} {d : DeclaredMessage}
    (hd : f.LocatesMessage path d) : d ∈ f.declaredMessages := by
  induction hd with
  | top h => exact declared_mem_declaredMessagesOf f.package none (List.mem_of_getElem? h)
  | inner _ hn ih =>
    exact inner_mem_declaredMessagesOf f.package none f.messages _ ih _ (List.mem_of_getElem? hn)

/-- Nor is an enum with a path missing among the declared ones. -/
theorem mem_declaredEnums_of_locates {path : List Int} {e : DeclaredEnum}
    (he : f.LocatesEnum path e) : e ∈ f.declaredEnums := by
  unfold FileDecl.declaredEnums
  rw [List.mem_append]
  cases he with
  | top h => exact Or.inr (List.mem_map.2 ⟨_, List.mem_of_getElem? h, rfl⟩)
  | inner hd h =>
    have hmem := mem_declaredMessages_of_locates hd
    exact Or.inl
      (innerEnum_mem_declaredEnumsOf f.package none f.messages _ hmem _ (List.mem_of_getElem? h))

/-- The entities that a file declares. -/
def FileDecl.Declares (f : FileDecl) : Owner → Prop
  | .message id => id ∈ f.declaredMessages.map (·.id)
  | .enum id => id ∈ f.declaredEnums.map (·.id)
  | .service id => id ∈ f.services.map f.serviceId
  | .method id => ∃ s ∈ f.services, ∃ m ∈ s.methods, id = childId (f.serviceId s) m.name

/-- Only what a file declares has comments in it. -/
theorem declares_of_locates {path : List Int} {t : DocTarget} (h : f.Locates path t) :
    f.Declares t.owner := by
  cases h with
  | message hd => exact List.mem_map_of_mem (mem_declaredMessages_of_locates hd)
  | field hd _ => exact List.mem_map_of_mem (mem_declaredMessages_of_locates hd)
  | oneOf hd _ => exact List.mem_map_of_mem (mem_declaredMessages_of_locates hd)
  | enum he => exact List.mem_map_of_mem (mem_declaredEnums_of_locates he)
  | enumValue he _ => exact List.mem_map_of_mem (mem_declaredEnums_of_locates he)
  | service hs => exact List.mem_map.2 ⟨_, List.mem_of_getElem? hs, rfl⟩
  | method hs hm => exact ⟨_, List.mem_of_getElem? hs, _, List.mem_of_getElem? hm, rfl⟩

/-- What the comments of a file document stands somewhere in it. -/
theorem exists_locates_of_mem_documented {d : DocTarget × String} (hd : d ∈ f.documented) :
    ∃ path, f.Locates path d.1 := by
  obtain ⟨c, -, hc⟩ := List.mem_filterMap.1 hd
  cases hr : f.resolve c.1 with
  | target t =>
    rw [hr] at hc
    cases hc
    exact ⟨_, resolve_eq_target_iff.1 hr⟩
  | ignored =>
    rw [hr] at hc
    nomatch hc
  | unknown =>
    rw [hr] at hc
    nomatch hc

end Resolve

/-! ### All paths -/

mutual

/-- A message with its path, followed by the messages inside it. -/
def MessageDecl.locatedMessages (package : String) (parent? : Option String) (path : List Int) :
    MessageDecl → List (List Int × DeclaredMessage)
  | ⟨name?, fields, nested, enums, oneofs, options?⟩ =>
    let id := declaredId package parent? (name?.getD "")
    (path, ⟨id, package, parent?, ⟨name?, fields, nested, enums, oneofs, options?⟩⟩)
      :: locatedMessagesOf package (some id) (path ++ [3]) 0 nested

/-- Messages of one parent from some position on, each followed by the messages inside it. -/
def locatedMessagesOf (package : String) (parent? : Option String) (lead : List Int)
    (position : Nat) :
    List MessageDecl → List (List Int × DeclaredMessage)
  | [] => []
  | m :: rest =>
    m.locatedMessages package parent? (lead ++ [(position : Int)])
      ++ locatedMessagesOf package parent? lead (position + 1) rest

end

mutual

/-- Without their paths, the messages inside a message are listed in the same order. -/
theorem MessageDecl.map_snd_locatedMessages (package : String) (parent? : Option String)
    (path : List Int) :
    (m : MessageDecl) → (m.locatedMessages package parent? path).map (·.2)
      = m.declaredMessages package parent?
  | ⟨name?, fields, nested, enums, oneofs, options?⟩ => by
    rw [MessageDecl.locatedMessages, MessageDecl.declaredMessages, List.map_cons,
      map_snd_locatedMessagesOf package _ _ _ nested]

/-- The step through a list of messages, where each position is one further than the last. -/
theorem map_snd_locatedMessagesOf (package : String) (parent? : Option String) (lead : List Int)
    (position : Nat) :
    (ms : List MessageDecl) →
      (locatedMessagesOf package parent? lead position ms).map (·.2)
        = declaredMessagesOf package parent? ms
  | [] => by rw [locatedMessagesOf, declaredMessagesOf, List.map_nil]
  | m :: rest => by
    rw [locatedMessagesOf, declaredMessagesOf, List.map_append,
      MessageDecl.map_snd_locatedMessages package parent? _ m,
      map_snd_locatedMessagesOf package parent? lead (position + 1) rest]

end

/-- The messages of a list stand at the head of what has a path. -/
theorem head_mem_locatedMessagesOf (package : String) (parent? : Option String) (lead : List Int)
    (position : Nat) {ms : List MessageDecl} {i : Nat} {m : MessageDecl} (h : ms[i]? = some m) :
    (lead ++ [((position + i : Nat) : Int)],
      ⟨declaredId package parent? m.name, package, parent?, m⟩)
      ∈ locatedMessagesOf package parent? lead position ms := by
  induction ms generalizing i position with
  | nil => nomatch h
  | cons n rest ih =>
    rw [locatedMessagesOf, List.mem_append]
    cases i with
    | zero =>
      cases h
      obtain ⟨name?, fields, nested, enums, oneofs, options?⟩ := m
      exact Or.inl List.mem_cons_self
    | succ i =>
      right
      have hrest := ih (position + 1) h
      rw [Nat.add_assoc, Nat.add_comm 1] at hrest
      exact hrest

/-! ### Which messages and enums have which paths -/

section Located

variable {f : FileDecl}

mutual

/-- The messages inside a located message are located. -/
theorem MessageDecl.locates_of_mem_locatedMessages (parent? : Option String) (path : List Int) :
    (m : MessageDecl) →
      f.LocatesMessage path ⟨declaredId f.package parent? m.name, f.package, parent?, m⟩ →
      ∀ l ∈ m.locatedMessages f.package parent? path, f.LocatesMessage l.1 l.2
  | ⟨name?, fields, nested, enums, oneofs, options?⟩ => by
    intro hm l hl
    rw [MessageDecl.locatedMessages] at hl
    rcases List.mem_cons.1 hl with rfl | hl
    · exact hm
    · refine locates_of_mem_locatedMessagesOf _ _ 0 nested (fun i n hn => ?_) l hl
      rw [List.append_assoc, Nat.zero_add]
      exact .inner hm hn

/-- The step through a list of messages, all of which have their paths behind the same lead. -/
theorem locates_of_mem_locatedMessagesOf (parent? : Option String) (lead : List Int)
    (position : Nat) :
    (ms : List MessageDecl) →
      (∀ (i : Nat) (m : MessageDecl), ms[i]? = some m →
        f.LocatesMessage (lead ++ [((position + i : Nat) : Int)])
        ⟨declaredId f.package parent? m.name, f.package, parent?, m⟩) →
      ∀ l ∈ locatedMessagesOf f.package parent? lead position ms, f.LocatesMessage l.1 l.2
  | [] => by
    intro _ l hl
    rw [locatedMessagesOf] at hl
    exact absurd hl List.not_mem_nil
  | m :: rest => by
    intro hms l hl
    rw [locatedMessagesOf, List.mem_append] at hl
    rcases hl with hl | hl
    · -- The first message stands at this position, and the others behind it.
      exact MessageDecl.locates_of_mem_locatedMessages parent? _ m (hms 0 m rfl) l hl
    · refine locates_of_mem_locatedMessagesOf parent? lead (position + 1) rest
        (fun i n hn => ?_) l hl
      rw [Nat.add_assoc, Nat.add_comm 1]
      exact hms (i + 1) n hn

end

mutual

/-- With a message, the paths of the messages inside it are known. -/
theorem MessageDecl.inner_mem_locatedMessages (package : String) (parent? : Option String)
    (path : List Int) :
    (m : MessageDecl) → ∀ l ∈ m.locatedMessages package parent? path, ∀ (i : Nat) (n : MessageDecl),
      l.2.decl.nested[i]? = some n →
        (l.1 ++ [3, (i : Int)], l.2.inner n) ∈ m.locatedMessages package parent? path
  | ⟨name?, fields, nested, enums, oneofs, options?⟩ => by
    intro l hl i n hn
    rw [MessageDecl.locatedMessages] at hl ⊢
    refine List.mem_cons_of_mem _ ?_
    rcases List.mem_cons.1 hl with rfl | hl
    · have hmem := head_mem_locatedMessagesOf package
        (some (declaredId package parent? (name?.getD ""))) (path ++ [3]) 0 hn
      rw [List.append_assoc, Nat.zero_add] at hmem
      exact hmem
    · exact inner_mem_locatedMessagesOf package _ _ 0 nested l hl i n hn

/-- The step through a list of messages. -/
theorem inner_mem_locatedMessagesOf (package : String) (parent? : Option String) (lead : List Int)
    (position : Nat) :
    (ms : List MessageDecl) → ∀ l ∈ locatedMessagesOf package parent? lead position ms,
      ∀ (i : Nat) (n : MessageDecl), l.2.decl.nested[i]? = some n →
        (l.1 ++ [3, (i : Int)], l.2.inner n) ∈ locatedMessagesOf package parent? lead position ms
  | [] => by simp [locatedMessagesOf]
  | m :: rest => by
    intro l hl i n hn
    rw [locatedMessagesOf, List.mem_append] at hl ⊢
    rcases hl with hl | hl
    · exact Or.inl (MessageDecl.inner_mem_locatedMessages package parent? _ m l hl i n hn)
    · exact Or.inr
        (inner_mem_locatedMessagesOf package parent? lead (position + 1) rest l hl i n hn)

end

/-- The messages of a file with their paths. -/
def FileDecl.locatedMessages (f : FileDecl) : List (List Int × DeclaredMessage) :=
  locatedMessagesOf f.package none [4] 0 f.messages

/-- The enums of a file with their paths. -/
def FileDecl.locatedEnums (f : FileDecl) : List (List Int × DeclaredEnum) :=
  (f.enums.zipIdx.map fun e =>
    ([5, (e.2 : Int)], ⟨topLevelId f.package e.1.name, f.package, none, e.1⟩))
    ++ f.locatedMessages.flatMap fun l =>
      l.2.decl.enums.zipIdx.map fun e => (l.1 ++ [4, (e.2 : Int)], l.2.innerEnum e.1)

/-- All messages that are listed with a path have it. -/
theorem locates_of_mem_locatedMessages {l : List Int × DeclaredMessage}
    (hl : l ∈ f.locatedMessages) : f.LocatesMessage l.1 l.2 := by
  refine locates_of_mem_locatedMessagesOf none [4] 0 f.messages (fun i m hm => ?_) l hl
  rw [Nat.zero_add]
  exact .top hm

/-- All messages that have a path are listed with it. -/
theorem mem_locatedMessages_of_locates {path : List Int} {d : DeclaredMessage}
    (hd : f.LocatesMessage path d) : (path, d) ∈ f.locatedMessages := by
  induction hd with
  | @top i m hm =>
    have hmem := head_mem_locatedMessagesOf f.package none [4] 0 hm
    rw [Nat.zero_add] at hmem
    exact hmem
  | @inner path d i n _ hn ih =>
    exact inner_mem_locatedMessagesOf f.package none [4] 0 f.messages (path, d) ih i n hn

/-- All enums that have a path are listed with it. -/
theorem mem_locatedEnums_of_locates {path : List Int} {e : DeclaredEnum}
    (he : f.LocatesEnum path e) : (path, e) ∈ f.locatedEnums := by
  unfold FileDecl.locatedEnums
  rw [List.mem_append]
  cases he with
  | @top i e h =>
    exact Or.inl (List.mem_map.2 ⟨(e, i), List.mem_zipIdx_iff_getElem?.2 h, rfl⟩)
  | @inner path d i e hd h =>
    refine Or.inr (List.mem_flatMap.2 ⟨(path, d), mem_locatedMessages_of_locates hd, ?_⟩)
    exact List.mem_map.2 ⟨(e, i), List.mem_zipIdx_iff_getElem?.2 h, rfl⟩

/-- All enums that are listed with a path have it. -/
theorem locates_of_mem_locatedEnums {l : List Int × DeclaredEnum} (hl : l ∈ f.locatedEnums) :
    f.LocatesEnum l.1 l.2 := by
  unfold FileDecl.locatedEnums at hl
  rcases List.mem_append.1 hl with hl | hl
  · obtain ⟨e, he, rfl⟩ := List.mem_map.1 hl
    exact .top (List.mem_zipIdx_iff_getElem?.1 he)
  · obtain ⟨d, hd, hl⟩ := List.mem_flatMap.1 hl
    obtain ⟨e, he, rfl⟩ := List.mem_map.1 hl
    exact .inner (locates_of_mem_locatedMessages hd) (List.mem_zipIdx_iff_getElem?.1 he)

end Located

mutual

/-- The enums inside a message are those of all messages inside it, in some order. -/
theorem MessageDecl.declaredEnums_perm (package : String) (parent? : Option String) :
    (m : MessageDecl) → (m.declaredEnums package parent?).Perm
      ((m.declaredMessages package parent?).flatMap fun d => d.decl.enums.map d.innerEnum)
  | ⟨name?, fields, nested, enums, oneofs, options?⟩ => by
    rw [MessageDecl.declaredEnums, MessageDecl.declaredMessages, List.flatMap_cons]
    exact ((declaredEnumsOf_perm package _ nested).append_right _).trans List.perm_append_comm

theorem declaredEnumsOf_perm (package : String) (parent? : Option String) :
    (ms : List MessageDecl) → (declaredEnumsOf package parent? ms).Perm
      ((declaredMessagesOf package parent? ms).flatMap fun d => d.decl.enums.map d.innerEnum)
  | [] => by
    rw [declaredEnumsOf, declaredMessagesOf]
    exact .nil
  | m :: rest => by
    rw [declaredEnumsOf, declaredMessagesOf, List.flatMap_append]
    exact (MessageDecl.declaredEnums_perm package parent? m).append
      (declaredEnumsOf_perm package parent? rest)

end

namespace FileDecl

variable (f : FileDecl)

/-- The listed messages are the declared ones, in their order. -/
theorem map_snd_locatedMessages : f.locatedMessages.map (·.2) = f.declaredMessages :=
  map_snd_locatedMessagesOf f.package none [4] 0 f.messages

/-- The listed enums are the declared ones. Their order differs, since those of a message are listed
    before those inside it and declared after them. -/
theorem map_snd_locatedEnums : (f.locatedEnums.map (·.2)).Perm f.declaredEnums := by
  have hzip : ∀ (enums : List EnumDecl) (g : EnumDecl → DeclaredEnum),
      enums.zipIdx.map (g ∘ Prod.fst) = enums.map g := fun enums g => by
    rw [← List.map_map, List.zipIdx_map_fst]
  have hinner : (f.locatedMessages.flatMap fun l => l.2.decl.enums.map l.2.innerEnum)
      = f.declaredMessages.flatMap fun d => d.decl.enums.map d.innerEnum := by
    rw [← map_snd_locatedMessages, List.flatMap_map]
  unfold locatedEnums
  rw [List.map_append, List.map_map, List.map_flatMap]
  -- Positions come with the enums of each list, and leave it as it is without them.
  have htop : f.enums.zipIdx.map ((·.2) ∘ fun e : EnumDecl × Nat =>
        (([5, (e.2 : Int)], ⟨topLevelId f.package e.1.name, f.package, none, e.1⟩)
          : List Int × DeclaredEnum))
      = declareEnums f.package none f.enums :=
    hzip f.enums fun e => ⟨topLevelId f.package e.name, f.package, none, e⟩
  have hl : ∀ l : List Int × DeclaredMessage,
      (l.2.decl.enums.zipIdx.map fun e => (l.1 ++ [4, (e.2 : Int)], l.2.innerEnum e.1)).map (·.2)
        = l.2.decl.enums.map l.2.innerEnum := fun l => by
    rw [List.map_map]
    exact hzip l.2.decl.enums l.2.innerEnum
  rw [htop]
  simp only [hl, hinner]
  exact ((declaredEnumsOf_perm f.package none f.messages).symm.append_left _).trans
    List.perm_append_comm

/-- The messages of a file are those that have a path. -/
theorem mem_declaredMessages_iff {d : DeclaredMessage} :
    d ∈ f.declaredMessages ↔ ∃ path, f.LocatesMessage path d := by
  constructor
  · intro hd
    rw [← map_snd_locatedMessages] at hd
    obtain ⟨l, hl, rfl⟩ := List.mem_map.1 hd
    exact ⟨l.1, locates_of_mem_locatedMessages hl⟩
  · rintro ⟨path, hd⟩
    exact mem_declaredMessages_of_locates hd

/-- The enums of a file are those that have a path. -/
theorem mem_declaredEnums_iff {e : DeclaredEnum} :
    e ∈ f.declaredEnums ↔ ∃ path, f.LocatesEnum path e := by
  constructor
  · intro he
    rw [← f.map_snd_locatedEnums.mem_iff] at he
    obtain ⟨l, hl, rfl⟩ := List.mem_map.1 he
    exact ⟨l.1, locates_of_mem_locatedEnums hl⟩
  · rintro ⟨path, he⟩
    exact mem_declaredEnums_of_locates he

/-- Everything in a file can be told from the rest, by its id or by its name within its parent. -/
structure Distinct : Prop where
  messages : (f.declaredMessages.map (·.id)).Nodup
  enums : (f.declaredEnums.map (·.id)).Nodup
  services : (f.services.map f.serviceId).Nodup
  fields : ∀ d ∈ f.declaredMessages, (d.decl.fields.map (·.name)).Nodup
  oneofs : ∀ d ∈ f.declaredMessages, (d.decl.oneofs.map (·.name)).Nodup
  methods : ∀ s ∈ f.services, s.Plain

end FileDecl

/-- Elements that can be told apart have one position each. -/
theorem position_unique {α : Type} {key : α → String} {xs : List α} (hn : (xs.map key).Nodup)
    {i j : Nat} {a b : α} (hi : xs[i]? = some a) (hj : xs[j]? = some b) (h : key a = key b) :
    i = j := by
  have hlt : i < (xs.map key).length := by
    rw [List.length_map]
    exact (List.getElem?_eq_some_iff.1 hi).1
  refine (List.getElem?_inj hlt hn).1 ?_
  rw [List.getElem?_map, List.getElem?_map, hi, hj, Option.map_some, Option.map_some, h]

section Unique

variable {f : FileDecl} {path path' : List Int}

/-- A message has one path, and one id belongs to it. -/
theorem locatesMessage_unique (hn : (f.declaredMessages.map (·.id)).Nodup) {d d' : DeclaredMessage}
    (h : f.LocatesMessage path d) (h' : f.LocatesMessage path' d') (hid : d.id = d'.id) :
    path = path' ∧ d = d' := by
  -- The ids are those of the pairs of a path and a message, so that an id determines the pair.
  rw [← f.map_snd_locatedMessages, List.map_map] at hn
  have heq := List.inj_on_of_nodup_map hn (mem_locatedMessages_of_locates h)
    (mem_locatedMessages_of_locates h') hid
  exact Prod.mk.inj heq

/-- So has an enum. -/
theorem locatesEnum_unique (hn : (f.declaredEnums.map (·.id)).Nodup) {e e' : DeclaredEnum}
    (h : f.LocatesEnum path e) (h' : f.LocatesEnum path' e') (hid : e.id = e'.id) :
    path = path' ∧ e = e' := by
  rw [← (f.map_snd_locatedEnums.map _).nodup_iff, List.map_map] at hn
  have heq := List.inj_on_of_nodup_map hn (mem_locatedEnums_of_locates h)
    (mem_locatedEnums_of_locates h') hid
  exact Prod.mk.inj heq

/-- Nothing stands at two paths. -/
theorem locates_unique (hf : f.Distinct) {t t' : DocTarget} (h : f.Locates path t)
    (h' : f.Locates path' t') (ht : t = t') : path = path' := by
  cases h <;> cases h'
  case message.message d hd d' hd' =>
    exact (locatesMessage_unique hf.messages hd hd' (DocTarget.message.inj ht)).1
  -- What is inside a message has a position there, which its name determines.
  case field.field path d i x hd hx path' d' i' x' hd' hx' =>
    obtain ⟨hid, hname⟩ := DocTarget.field.inj ht
    obtain ⟨rfl, rfl⟩ := locatesMessage_unique hf.messages hd hd' hid
    rw [position_unique (hf.fields _ (mem_declaredMessages_of_locates hd)) hx hx' hname]
  case oneOf.oneOf path d i o hd ho path' d' i' o' hd' ho' =>
    obtain ⟨hid, hname⟩ := DocTarget.oneOf.inj ht
    obtain ⟨rfl, rfl⟩ := locatesMessage_unique hf.messages hd hd' hid
    rw [position_unique (hf.oneofs _ (mem_declaredMessages_of_locates hd)) ho ho' hname]
  case enum.enum e he e' he' =>
    exact (locatesEnum_unique hf.enums he he' (DocTarget.enum.inj ht)).1
  case enumValue.enumValue path e i he hi path' e' i' he' hi' =>
    obtain ⟨hid, rfl⟩ := DocTarget.enumValue.inj ht
    rw [(locatesEnum_unique hf.enums he he' hid).1]
  case service.service i s hs i' s' hs' =>
    rw [position_unique hf.services hs hs' (DocTarget.service.inj ht)]
  case method.method i j s m hs hm i' j' s' m' hs' hm' =>
    -- The id of a method is read back into that of its service and its name.
    obtain ⟨hid, hname⟩ := childId_inj
      ((hf.methods s (List.mem_of_getElem? hs)).noDot m (List.mem_of_getElem? hm))
      ((hf.methods s' (List.mem_of_getElem? hs')).noDot m' (List.mem_of_getElem? hm'))
      (DocTarget.method.inj ht)
    obtain rfl := position_unique hf.services hs hs' hid
    rw [hs, Option.some.injEq] at hs'
    subst hs'
    rw [position_unique (hf.methods s (List.mem_of_getElem? hs)).nodup hm hm' hname]
  all_goals nomatch ht

end Unique

end ProtoApi
