import ProtoApi.Build.Types

namespace ProtoApi

/-!
# The declarations of a file as a tree

Registration works on the flat lists `FileDecl.declaredMessages` and `FileDecl.declaredEnums`. They
are closed under the tree that they come from:

* `DeclaredMessage.inner`, `DeclaredMessage.innerEnum` — a type declared inside a message, with its
  id;
* `inner_mem_declaredMessages`, `innerEnum_mem_declaredEnums` — with a message, the lists hold the
  types inside it;
* `exists_parent_of_mem_declaredMessages`, `exists_parent_of_mem_declaredEnums` — with a type that
  has a parent, the lists hold the parent.

Each is an induction over messages and lists of messages at once, with the parent of the list as a
parameter.
-/

namespace DeclaredMessage

/-- A message declared inside another one. -/
def inner (d : DeclaredMessage) (n : MessageDecl) : DeclaredMessage :=
  ⟨childId d.id n.name, d.package, some d.id, n⟩

/-- An enum declared inside a message. -/
def innerEnum (d : DeclaredMessage) (e : EnumDecl) : DeclaredEnum :=
  ⟨childId d.id e.name, d.package, some d.id, e⟩

end DeclaredMessage

/-! ### Down the tree -/

/-- The messages of a list stand at the head of what they declare. -/
theorem declared_mem_declaredMessagesOf (package : String) (parent? : Option String)
    {ms : List MessageDecl} {m : MessageDecl} (h : m ∈ ms) :
    ⟨declaredId package parent? m.name, package, parent?, m⟩
      ∈ declaredMessagesOf package parent? ms := by
  induction ms with
  | nil => simp at h
  | cons n rest ih =>
    rw [declaredMessagesOf, List.mem_append]
    rcases List.mem_cons.1 h with rfl | h
    · left
      obtain ⟨name?, fields, nested, enums, oneofs, options?⟩ := m
      exact List.mem_cons_self
    · exact Or.inr (ih h)

mutual

/-- A message declares what is nested in it and in the messages it declares. -/
theorem MessageDecl.inner_mem (package : String) (parent? : Option String) :
    (m : MessageDecl) → ∀ d ∈ m.declaredMessages package parent?, ∀ n ∈ d.decl.nested,
      d.inner n ∈ m.declaredMessages package parent?
  | ⟨name?, fields, nested, enums, oneofs, options?⟩ => by
    intro d hd n hn
    rw [MessageDecl.declaredMessages] at hd ⊢
    -- The message itself stands first, and what is inside it comes behind.
    refine List.mem_cons_of_mem _ ?_
    rcases List.mem_cons.1 hd with rfl | hd
    · exact declared_mem_declaredMessagesOf package _ hn
    · exact inner_mem_declaredMessagesOf package _ nested d hd n hn

/-- The step through a list of messages. -/
theorem inner_mem_declaredMessagesOf (package : String) (parent? : Option String) :
    (ms : List MessageDecl) → ∀ d ∈ declaredMessagesOf package parent? ms, ∀ n ∈ d.decl.nested,
      d.inner n ∈ declaredMessagesOf package parent? ms
  | [] => by simp [declaredMessagesOf]
  | m :: rest => by
    intro d hd n hn
    rw [declaredMessagesOf, List.mem_append] at hd ⊢
    rcases hd with hd | hd
    · exact Or.inl (MessageDecl.inner_mem package parent? m d hd n hn)
    · exact Or.inr (inner_mem_declaredMessagesOf package parent? rest d hd n hn)

end

mutual

/-- A message declares the enums in it and in the messages it declares. -/
theorem MessageDecl.innerEnum_mem (package : String) (parent? : Option String) :
    (m : MessageDecl) → ∀ d ∈ m.declaredMessages package parent?, ∀ e ∈ d.decl.enums,
      d.innerEnum e ∈ m.declaredEnums package parent?
  | ⟨name?, fields, nested, enums, oneofs, options?⟩ => by
    intro d hd e he
    rw [MessageDecl.declaredMessages] at hd
    rw [MessageDecl.declaredEnums, List.mem_append]
    rcases List.mem_cons.1 hd with rfl | hd
    · exact Or.inr (List.mem_map.2 ⟨e, he, rfl⟩)
    · exact Or.inl (innerEnum_mem_declaredEnumsOf package _ nested d hd e he)

/-- The step through a list of messages, whose enums come message by message. -/
theorem innerEnum_mem_declaredEnumsOf (package : String) (parent? : Option String) :
    (ms : List MessageDecl) → ∀ d ∈ declaredMessagesOf package parent? ms, ∀ e ∈ d.decl.enums,
      d.innerEnum e ∈ declaredEnumsOf package parent? ms
  | [] => by simp [declaredMessagesOf]
  | m :: rest => by
    intro d hd e he
    rw [declaredMessagesOf, List.mem_append] at hd
    rw [declaredEnumsOf, List.mem_append]
    rcases hd with hd | hd
    · exact Or.inl (MessageDecl.innerEnum_mem package parent? m d hd e he)
    · exact Or.inr (innerEnum_mem_declaredEnumsOf package parent? rest d hd e he)

end

/-! ### Up the tree -/

mutual

/-- The parent of a declared message is the one given, or a message that is declared as well. -/
theorem MessageDecl.parent_of_mem (package : String) (parent? : Option String) :
    (m : MessageDecl) → ∀ d ∈ m.declaredMessages package parent?,
      d.parent? = parent? ∨ ∃ c ∈ m.declaredMessages package parent?, d.parent? = some c.id
  | ⟨name?, fields, nested, enums, oneofs, options?⟩ => by
    intro d hd
    rw [MessageDecl.declaredMessages] at hd ⊢
    rcases List.mem_cons.1 hd with rfl | hd
    · exact Or.inl rfl
    · rcases parent_of_mem_declaredMessagesOf package _ nested d hd with h | ⟨c, hc, h⟩
      -- The parent that the list of nested messages was given is this message.
      · exact Or.inr ⟨_, List.mem_cons_self, h⟩
      · exact Or.inr ⟨c, List.mem_cons_of_mem _ hc, h⟩

/-- The step through a list of messages, all of which have the same parent. -/
theorem parent_of_mem_declaredMessagesOf (package : String) (parent? : Option String) :
    (ms : List MessageDecl) → ∀ d ∈ declaredMessagesOf package parent? ms,
      d.parent? = parent? ∨ ∃ c ∈ declaredMessagesOf package parent? ms, d.parent? = some c.id
  | [] => by simp [declaredMessagesOf]
  | m :: rest => by
    intro d hd
    rw [declaredMessagesOf, List.mem_append] at hd
    simp only [declaredMessagesOf, List.mem_append]
    rcases hd with hd | hd
    · rcases MessageDecl.parent_of_mem package parent? m d hd with h | ⟨c, hc, h⟩
      · exact Or.inl h
      · exact Or.inr ⟨c, Or.inl hc, h⟩
    · rcases parent_of_mem_declaredMessagesOf package parent? rest d hd with h | ⟨c, hc, h⟩
      · exact Or.inl h
      · exact Or.inr ⟨c, Or.inr hc, h⟩

end

mutual

/-- The parent of an enum inside a message is this message or one inside it. -/
theorem MessageDecl.enumParent_of_mem (package : String) (parent? : Option String) :
    (m : MessageDecl) → ∀ e ∈ m.declaredEnums package parent?,
      ∃ c ∈ m.declaredMessages package parent?, e.parent? = some c.id
  | ⟨name?, fields, nested, enums, oneofs, options?⟩ => by
    intro e he
    rw [MessageDecl.declaredEnums, List.mem_append] at he
    rw [MessageDecl.declaredMessages]
    rcases he with he | he
    · obtain ⟨c, hc, h⟩ := enumParent_of_mem_declaredEnumsOf package _ nested e he
      exact ⟨c, List.mem_cons_of_mem _ hc, h⟩
    · obtain ⟨decl, -, rfl⟩ := List.mem_map.1 he
      exact ⟨_, List.mem_cons_self, rfl⟩

/-- The step through a list of messages. -/
theorem enumParent_of_mem_declaredEnumsOf (package : String) (parent? : Option String) :
    (ms : List MessageDecl) → ∀ e ∈ declaredEnumsOf package parent? ms,
      ∃ c ∈ declaredMessagesOf package parent? ms, e.parent? = some c.id
  | [] => by simp [declaredEnumsOf]
  | m :: rest => by
    intro e he
    rw [declaredEnumsOf, List.mem_append] at he
    simp only [declaredMessagesOf, List.mem_append]
    rcases he with he | he
    · obtain ⟨c, hc, h⟩ := MessageDecl.enumParent_of_mem package parent? m e he
      exact ⟨c, Or.inl hc, h⟩
    · obtain ⟨c, hc, h⟩ := enumParent_of_mem_declaredEnumsOf package parent? rest e he
      exact ⟨c, Or.inr hc, h⟩

end

/-! ### Files -/

variable {files : List FileDecl} {d : DeclaredMessage}

/-- With a message, some files declare the messages inside it. -/
theorem inner_mem_declaredMessages (hd : d ∈ files.flatMap FileDecl.declaredMessages)
    {n : MessageDecl} (hn : n ∈ d.decl.nested) :
    d.inner n ∈ files.flatMap FileDecl.declaredMessages := by
  obtain ⟨f, hf, hd⟩ := List.mem_flatMap.1 hd
  exact List.mem_flatMap.2 ⟨f, hf, inner_mem_declaredMessagesOf f.package none f.messages d hd n hn⟩

/-- With a message, some files declare the enums inside it. -/
theorem innerEnum_mem_declaredEnums (hd : d ∈ files.flatMap FileDecl.declaredMessages)
    {e : EnumDecl} (he : e ∈ d.decl.enums) :
    d.innerEnum e ∈ files.flatMap FileDecl.declaredEnums := by
  obtain ⟨f, hf, hd⟩ := List.mem_flatMap.1 hd
  have h := innerEnum_mem_declaredEnumsOf f.package none f.messages d hd e he
  exact List.mem_flatMap.2 ⟨f, hf, List.mem_append.2 (Or.inl h)⟩

/-- With a message, some files declare the one around it. -/
theorem exists_parent_of_mem_declaredMessages (hd : d ∈ files.flatMap FileDecl.declaredMessages)
    {p : String} (hp : d.parent? = some p) :
    ∃ c ∈ files.flatMap FileDecl.declaredMessages, c.id = p := by
  obtain ⟨f, hf, hd⟩ := List.mem_flatMap.1 hd
  rcases parent_of_mem_declaredMessagesOf f.package none f.messages d hd with h | ⟨c, hc, h⟩
  · rw [hp] at h
    exact absurd h (by simp)
  · rw [hp, Option.some.injEq] at h
    exact ⟨c, List.mem_flatMap.2 ⟨f, hf, hc⟩, h.symm⟩

/-- With an enum, some files declare the message around it. -/
theorem exists_parent_of_mem_declaredEnums {e : DeclaredEnum}
    (he : e ∈ files.flatMap FileDecl.declaredEnums) {p : String} (hp : e.parent? = some p) :
    ∃ c ∈ files.flatMap FileDecl.declaredMessages, c.id = p := by
  obtain ⟨f, hf, he⟩ := List.mem_flatMap.1 he
  rcases List.mem_append.1 he with he | he
  · obtain ⟨c, hc, h⟩ := enumParent_of_mem_declaredEnumsOf f.package none f.messages e he
    rw [hp, Option.some.injEq] at h
    exact ⟨c, List.mem_flatMap.2 ⟨f, hf, hc⟩, h.symm⟩
  · obtain ⟨decl, -, rfl⟩ := List.mem_map.1 he
    exact absurd hp (by simp)

end ProtoApi
