import ProtoApi.Proofs.Build.References

namespace ProtoApi

/-!
# The walk of the check of references

The check keeps a list of messages that it has still to visit. What is inside a message is put on
the list when the message is visited for the first time, so that the list may grow, also where
messages are inside each other in circles.

* `Registry.Walks` — the turns of a walk, one constructor for each way a turn can go;
* `Registry.effort`, `walks_checkFrom` — each turn takes one off the effort that is left, so that
  the walk ends;
* `unresolvedField?_eq_none_iff`, `exists_of_checkFrom_eq_error` — what the walk finds;
* `walks_checkReferences` — how long the check takes, when it succeeds and what it reports
  otherwise.
-/

namespace Registry

variable {r : Registry}

/-! ### Turns -/

/-- A walk that visits what is pending, the next one first: the number of its turns and what it ends
    with. -/
inductive Walks (r : Registry) : Nat → NameSet → List String → Except BuildError Unit → Prop where
  /-- Nothing is left to visit. -/
  | done {seen : NameSet} : Walks r 0 seen [] (.ok ())
  | again {n : Nat} {seen : NameSet} {id : String} {pending : List String}
    {result : Except BuildError Unit}
    (hseen : seen.contains id = true) (h : Walks r n seen pending result) : Walks r (n + 1) seen
      (id :: pending) result
  | unknown {n : Nat} {seen : NameSet} {id : String} {pending : List String}
    {result : Except BuildError Unit}
    (hseen : seen.contains id = false) (hm : r.message? id = none)
      (h : Walks r n (seen.add id) pending result) :
    Walks r (n + 1) seen (id :: pending) result
  /-- What is inside a message without complaints is visited next, the last one first. -/
  | visit {n : Nat} {seen : NameSet} {id : String} {pending : List String} {m : Message}
    {result : Except BuildError Unit} (hseen : seen.contains id = false)
      (hm : r.message? id = some m)
    (hfields : r.unresolvedField? m = none)
      (h : Walks r n (seen.add id) (m.messages.reverse ++ pending) result) :
    Walks r (n + 1) seen (id :: pending) result
  /-- The first complaint ends the walk. -/
  | stop {seen : NameSet} {id : String} {pending : List String} {m : Message}
    {field typeId : String} (hseen : seen.contains id = false) (hm : r.message? id = some m)
    (hfields : r.unresolvedField? m = some (field, typeId)) :
    Walks r 1 seen (id :: pending) (.error (.unresolvedType field typeId))

/-! ### Effort -/

/-- The ids that visits can still put on the list: those inside registered messages that have not
    been seen. -/
def unlisted (r : Registry) (seen : NameSet) : List String :=
  r.messages.entries.flatMap fun e => if seen.contains e.1 then [] else e.2.messages

/-- The number of ids that are on the list or can still come on it. -/
def effort (r : Registry) (seen : NameSet) (pending : List String) : Nat :=
  pending.length + (r.unlisted seen).length

/-- A visit to what is not registered puts nothing on the list. -/
theorem unlisted_add_of_none {seen : NameSet} {id : String} (h : r.message? id = none) :
    r.unlisted (seen.add id) = r.unlisted seen := by
  unfold unlisted
  refine List.flatMap_congr fun e he => ?_
  have hne : e.1 ≠ id := by
    rintro rfl
    rw [message?, Table.mem_entries_iff.1 he] at h
    exact Option.some_ne_none _ h
  rw [NameSet.contains_add, decide_eq_false hne, Bool.false_or]

/-- The first visit to a message puts on the list what is inside of it. -/
theorem length_unlisted {seen : NameSet} {id : String} {m : Message}
    (hseen : seen.contains id = false) (hm : r.message? id = some m) :
    (r.unlisted seen).length = m.messages.length + (r.unlisted (seen.add id)).length := by
  obtain ⟨before, after, hentries⟩ := List.append_of_mem (Table.mem_entries_iff.2 hm)
  -- The message stands under no other name, so that nothing else is seen by this visit.
  have hother : ∀ e ∈ before ++ after, (if (seen.add id).contains e.1 then [] else e.2.messages)
      = if seen.contains e.1 then [] else e.2.messages := by
    intro e he
    have hne : e.1 ≠ id := by
      have hascending := r.messages.ascending
      rw [hentries, List.pairwise_append, List.pairwise_cons] at hascending
      rcases List.mem_append.1 he with he | he
      · exact fun heq => String.lt_irrefl id (heq ▸ hascending.2.2 e he (id, m) List.mem_cons_self)
      · exact fun heq => String.lt_irrefl id (heq ▸ hascending.2.1.1 e he)
    rw [NameSet.contains_add, decide_eq_false hne, Bool.false_or]
  have hbefore := List.flatMap_congr fun e he => hother e (List.mem_append_left after he)
  have hafter := List.flatMap_congr fun e he => hother e (List.mem_append_right before he)
  unfold unlisted
  rw [hentries]
  simp only [List.flatMap_append, List.flatMap_cons, hbefore, hafter]
  simp only [hseen, NameSet.contains_add, decide_true, Bool.true_or, Bool.false_eq_true,
    if_false, if_true, List.length_append, List.length_nil]
  omega

/-- A walk ends, after no more turns than there are ids that can come on its list. -/
theorem walks_checkFrom (r : Registry) (seen : NameSet) (pending : List String) :
    ∃ n ≤ r.effort seen pending, r.Walks n seen pending (r.checkFrom seen pending) := by
  fun_induction checkFrom r seen pending
  case case1 seen => exact ⟨0, Nat.zero_le _, .done⟩
  case case2 seen id pending hseen ih =>
    obtain ⟨n, hn, h⟩ := ih
    refine ⟨n + 1, ?_, .again hseen h⟩
    simp only [effort, List.length_cons] at hn ⊢
    omega
  case case3 seen id pending hseen hnone ih =>
    obtain ⟨n, hn, h⟩ := ih
    refine ⟨n + 1, ?_, .unknown (by simpa using hseen) hnone h⟩
    simp only [effort, List.length_cons, unlisted_add_of_none hnone] at hn ⊢
    omega
  case case4 seen id pending hseen m hm field typeId hfields =>
    refine ⟨1, ?_, .stop (by simpa using hseen) hm hfields⟩
    simp only [effort, List.length_cons]
    omega
  -- The messages inside come on the list, and the effort has counted them while their message was
  -- not yet seen.
  case case5 seen id pending hseen m hm hfields ih =>
    obtain ⟨n, hn, h⟩ := ih
    have hseen : seen.contains id = false := by simpa using hseen
    refine ⟨n + 1, ?_, .visit hseen hm hfields h⟩
    simp only [effort, List.length_cons, List.length_append, List.length_reverse,
      length_unlisted hseen hm] at hn ⊢
    omega

/-! ### Complaints -/

/-- A message has nothing to complain about if all its fields have their types, where the empty id
    is not registered. -/
theorem unresolvedField?_eq_none_iff (hempty : r.resolvesType "" = false) {m : Message} :
    r.unresolvedField? m = none ↔ m.Resolved r := by
  refine ⟨resolved_of_unresolvedField? hempty, fun h => ?_⟩
  unfold unresolvedField?
  refine Option.map_eq_none_iff.2 (List.find?_eq_none.2 fun f hf hbad => ?_)
  rw [Bool.and_eq_true] at hbad
  obtain ⟨id, hid, hresolves⟩ := h f hf hbad.1
  rw [hid, Option.getD_some, hresolves] at hbad
  nomatch hbad.2

/-- A complaint is about a field of the message whose type is not registered. -/
theorem exists_field_of_unresolvedField? {m : Message} {field typeId : String}
    (h : r.unresolvedField? m = some (field, typeId)) :
    ∃ f ∈ m.fields, f.kind.referencesType = true ∧ r.resolvesType (f.typeId.getD "") = false ∧
      field = f.id ∧ typeId = f.typeId.getD "" := by
  obtain ⟨f, hf, heq⟩ := Option.map_eq_some_iff.1 h
  obtain ⟨rfl, rfl⟩ := Prod.mk.inj heq
  have hbad := List.find?_some hf
  rw [Bool.and_eq_true, Bool.not_eq_true'] at hbad
  exact ⟨f, List.mem_of_find?_eq_some hf, hbad.1, hbad.2, rfl, rfl⟩

/-- A walk that fails reports a complaint about a message within what it was to visit. -/
theorem exists_of_checkFrom_eq_error {seen : NameSet} {pending : List String} {e : BuildError}
    (h : r.checkFrom seen pending = .error e) :
    ∃ id m field typeId, r.Within pending id ∧ r.message? id = some m ∧
      r.unresolvedField? m = some (field, typeId) ∧ e = .unresolvedType field typeId := by
  fun_induction checkFrom r seen pending
  case case1 => cases h
  case case2 seen id pending _ ih =>
    obtain ⟨x, m, field, typeId, hx, hm⟩ := ih h
    exact ⟨x, m, field, typeId, hx.mono fun i hi => .root (List.mem_cons_of_mem _ hi), hm⟩
  case case3 seen id pending _ _ ih =>
    obtain ⟨x, m, field, typeId, hx, hm⟩ := ih h
    exact ⟨x, m, field, typeId, hx.mono fun i hi => .root (List.mem_cons_of_mem _ hi), hm⟩
  case case4 seen id pending _ m hm field typeId hfields =>
    exact ⟨id, m, field, typeId, .root List.mem_cons_self, hm, hfields, (Except.error.inj h).symm⟩
  case case5 seen id pending _ m hm _ ih =>
    obtain ⟨x, n, field, typeId, hx, hn⟩ := ih h
    refine ⟨x, n, field, typeId, hx.mono fun i hi => ?_, hn⟩
    -- What the visit has put on the list is inside the message that was visited.
    rcases List.mem_append.1 hi with hi | hi
    · exact .inside (.root List.mem_cons_self) hm (List.mem_reverse.1 hi)
    · exact .root (List.mem_cons_of_mem _ hi)

end Registry

/-! ### The check -/

theorem Api.effort_messages (a : Api) :
    a.registry.effort Table.empty a.messages.reverse
      = a.messages.length + (a.registry.messages.values.flatMap (·.messages)).length := by
  unfold Registry.effort Registry.unlisted Table.values
  rw [List.length_reverse, List.flatMap_map]
  rfl

/-- Where all types are registered under ids with a dot in front, the check ends after a number of
    turns that the lists bound; it succeeds exactly if all messages within those to generate have
    the types that their fields name, and otherwise it reports a field of such a message with the
    type that is not registered. -/
theorem walks_checkReferences (a : Api)
    (hdot : ∀ id, a.registry.resolvesType id = true → ∃ name, id = "." ++ name) :
    (∃ n ≤ a.messages.length + (a.registry.messages.values.flatMap (·.messages)).length,
      a.registry.Walks n Table.empty a.messages.reverse a.checkReferences) ∧
    (a.checkReferences = .ok () ↔
      ∀ id, a.registry.Within a.messages id → ∀ m, a.registry.message? id = some m →
        m.Resolved a.registry) ∧
    ∀ e, a.checkReferences = .error e →
      ∃ id m f, a.registry.Within a.messages id ∧ a.registry.message? id = some m ∧ f ∈ m.fields ∧
        f.kind.referencesType = true ∧ a.registry.resolvesType (f.typeId.getD "") = false ∧
        e = .unresolvedType f.id (f.typeId.getD "") := by
  have hempty : a.registry.resolvesType "" = false := by
    rw [Bool.eq_false_iff]
    intro h
    obtain ⟨name, hname⟩ := hdot "" h
    have hlist := congrArg String.toList hname
    simp at hlist
  -- The order in which messages are visited makes no difference to what is within them.
  have hroots : ∀ {id}, a.registry.Within a.messages.reverse id ↔
      a.registry.Within a.messages id := by
    intro id
    exact ⟨fun h => h.mono fun i hi => .root (List.mem_reverse.1 hi),
      fun h => h.mono fun i hi => .root (List.mem_reverse.2 hi)⟩
  refine ⟨?_, ?_, fun e he => ?_⟩
  · rw [← a.effort_messages]
    exact a.registry.walks_checkFrom _ _
  · refine Registry.checkFrom_eq_ok_iff.trans ?_
    simp only [hroots, Registry.unresolvedField?_eq_none_iff hempty]
  · obtain ⟨id, m, field, typeId, hid, hm, hfields, rfl⟩ := Registry.exists_of_checkFrom_eq_error he
    obtain ⟨f, hf, hkind, hresolves, rfl, rfl⟩ := Registry.exists_field_of_unresolvedField? hfields
    exact ⟨id, m, f, hroots.1 hid, hm, hf, hkind, hresolves, rfl⟩

/-- Two messages that are inside each other, one of which is to be generated twice. Other names lead
    nowhere, and a field names no type. -/
def shelfApi : Api where
  messages := [".lib.Shelf", ".lib.Gone", ".lib.Shelf"]
  registry :=
      (({} : Registry).addMessage { id := ".lib.Shelf",
                                    messages := [".lib.Book", ".lib.Lost"] }).addMessage {
    id := ".lib.Book"
    fields := [{ id := ".lib.Book.owner", kind := .message }]
    messages := [".lib.Shelf", ".lib.Shelf"] }

/-- The walk visits both of them and ends with a complaint about a field. -/
theorem walks_shelfApi :
    (∀ id, shelfApi.registry.resolvesType id = true → ∃ name, id = "." ++ name) ∧
      (∃ n ≤ 7, shelfApi.registry.Walks n Table.empty shelfApi.messages.reverse
        shelfApi.checkReferences) ∧
      ∃ e id m f, shelfApi.checkReferences = .error e ∧
        shelfApi.registry.Within shelfApi.messages id ∧
        shelfApi.registry.message? id = some m ∧ f ∈ m.fields ∧
          e = .unresolvedType f.id (f.typeId.getD "") := by
  have hdot : ∀ id, shelfApi.registry.resolvesType id = true → ∃ name, id = "." ++ name := by
    intro id hid
    simp only [shelfApi, Registry.resolvesType, Registry.addMessage, Table.contains_insert,
      Bool.or_eq_true, decide_eq_true_eq] at hid
    rcases hid with (rfl | rfl | hid) | hid
    · exact ⟨"lib.Book", rfl⟩
    · exact ⟨"lib.Shelf", rfl⟩
    · exact absurd hid Bool.false_ne_true
    · exact absurd hid Bool.false_ne_true
  obtain ⟨hwalks, hok, herror⟩ := walks_checkReferences shelfApi hdot
  refine ⟨hdot, hwalks, ?_⟩
  cases hresult : shelfApi.checkReferences with
  | error e =>
    obtain ⟨id, m, f, hid, hm, hf, -, -, he⟩ := herror e hresult
    exact ⟨e, id, m, f, rfl, hid, hm, hf, he⟩
  | ok =>
    -- The field without a type is one of a message inside another one.
    have hshelf : shelfApi.registry.Within shelfApi.messages ".lib.Shelf" := .root (by decide)
    have hbook : shelfApi.registry.Within shelfApi.messages ".lib.Book" :=
      .inside hshelf rfl (by decide)
    obtain ⟨id, hid, -⟩ := hok.1 hresult ".lib.Book" hbook _ rfl _ List.mem_cons_self rfl
    exact absurd hid (Option.some_ne_none id).symm

end ProtoApi
