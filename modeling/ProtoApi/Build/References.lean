import ProtoApi.Diagnostic

namespace ProtoApi

/-!
# Checking references

Every field of a message that is generated, or that stands inside one, has to name a registered type
if its kind asks for one.

* `Registry.unresolvedField?` — the first field of a message that does not;
* `Registry.Within` — the messages in question, as a relation;
* `Registry.checkFrom` — walks from some messages to those inside them, each once. It ends because
  every step either takes a message off the list that is still to be visited or visits a registered
  message for the first time;
* `Api.checkReferences` — walks from all messages that are generated.
-/

namespace Registry

/-- The first field of a message that names no registered type although it should, and the name that
    it gives. -/
def unresolvedField? (r : Registry) (m : Message) : Option (String × String) :=
  (m.fields.find? fun f => f.kind.referencesType && !r.resolvesType (f.typeId.getD "")).map
    fun f => (f.id, f.typeId.getD "")

/-- The ids of some messages and of those inside them, at any depth. -/
inductive Within (r : Registry) (roots : List String) : String → Prop where
  | root {id : String} (h : id ∈ roots) : Within r roots id
  | inside {outer id : String} {m : Message} (h : Within r roots outer)
      (hm : r.message? outer = some m) (hi : id ∈ m.messages) : Within r roots id

/-- The registered messages that have not been visited. -/
def unvisited (r : Registry) (seen : NameSet) : List String :=
  r.messages.names.filter fun id => !seen.contains id

private theorem mem_names_of_message? {r : Registry} {id : String} {m : Message}
    (h : r.message? id = some m) : id ∈ r.messages.names :=
  List.mem_map_of_mem (f := fun e : String × Message => e.1) (Table.mem_entries_iff.2 h)

/-- A stronger condition leaves no more. -/
private theorem length_filter_le {p q : String → Bool} (h : ∀ x, p x = true → q x = true)
    (l : List String) : (l.filter p).length ≤ (l.filter q).length := by
  rw [← List.countP_eq_length_filter, ← List.countP_eq_length_filter]
  exact List.countP_mono_left fun x _ => h x

/-- It leaves less if some element fails it. Here it is the message that is seen for the first
    time. -/
private theorem length_filter_lt {l : List String} {p q : String → Bool}
    (h : ∀ x, p x = true → q x = true) {a : String} (ha : a ∈ l) (hq : q a = true)
    (hp : p a = false) : (l.filter p).length < (l.filter q).length := by
  induction l with
  | nil => simp at ha
  | cons b l ih =>
    have le : (l.filter p).length ≤ (l.filter q).length := length_filter_le h l
    rcases List.mem_cons.1 ha with rfl | ha
    · simp only [List.filter_cons, hq, hp, if_true, Bool.false_eq_true, if_false, List.length_cons]
      omega
    · have lt := ih ha
      simp only [List.filter_cons]
      have := h b
      cases hpb : p b <;> cases hqb : q b <;> grind

/-- Visiting a registered message for the first time leaves fewer of them. -/
theorem unvisited_add_lt {r : Registry} {seen : NameSet} {id : String} {m : Message}
    (hs : seen.contains id = false) (hm : r.message? id = some m) :
    (r.unvisited (seen.add id)).length < (r.unvisited seen).length := by
  refine length_filter_lt (fun x hx => ?_) (mem_names_of_message? hm) (by simp [hs]) ?_
  · simp only [Bool.not_eq_true', NameSet.add, Table.contains, Table.get?_insert] at hx ⊢
    split at hx <;> simp_all
  · simp [NameSet.add, Table.contains]

/-- Visiting anything never leaves more. -/
theorem unvisited_add_le (r : Registry) (seen : NameSet) (id : String) :
    (r.unvisited (seen.add id)).length ≤ (r.unvisited seen).length := by
  refine length_filter_le (fun x hx => ?_) _
  simp only [Bool.not_eq_true', NameSet.add, Table.contains, Table.get?_insert] at hx ⊢
  split at hx <;> simp_all

/-- Checks the messages still to be visited, the next one first, and those inside them, the last one
    first. -/
def checkFrom (r : Registry) (seen : NameSet) : List String → Except BuildError Unit
  | [] => .ok ()
  | id :: pending =>
    if _hs : seen.contains id then checkFrom r seen pending
    else
      match _hm : r.message? id with
      | none => checkFrom r (seen.add id) pending
      | some m =>
        match r.unresolvedField? m with
        | some (field, typeId) => .error (.unresolvedType field typeId)
        | none => checkFrom r (seen.add id) (m.messages.reverse ++ pending)
termination_by pending => ((r.unvisited seen).length, pending.length)
decreasing_by
  -- The message has been seen: the list grows shorter.
  · exact Prod.Lex.right _ (by simp)
  -- Nothing is registered there: the list grows shorter, and no fewer messages have been seen.
  · rcases Nat.lt_or_ge (r.unvisited (seen.add id)).length (r.unvisited seen).length with lt | ge
    · exact Prod.Lex.left _ _ lt
    · have eq := Nat.le_antisymm (unvisited_add_le r seen id) ge
      rw [eq]
      exact Prod.Lex.right _ (by simp)
  -- A registered message is seen for the first time.
  · exact Prod.Lex.left _ _ (unvisited_add_lt (by simpa using _hs) _hm)

end Registry

/-- Checks all messages that are generated and those inside them. -/
def Api.checkReferences (a : Api) : Except BuildError Unit :=
  a.registry.checkFrom Table.empty a.messages.reverse

end ProtoApi
