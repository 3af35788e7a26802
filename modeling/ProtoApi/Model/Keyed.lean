import ProtoApi.Model.Registry

namespace ProtoApi

/-!
# Registries whose entries stand under their own ids

* `Table.Keyed` — every entry of a table has its name as its id;
* `Registry.Keyed` — so it is in the four tables of a registry;
* `keyed_insert`, `keyed_modify` and their likes for registries — registering an entity keeps this,
  and so does changing one without changing its id.
-/

namespace Table

variable {α : Type} {id : α → String}

/-- Every entry has its name as its id. -/
def Keyed (id : α → String) (t : Table α) : Prop := ∀ name a, t.get? name = some a → id a = name

/-- A table without entries has none under a wrong name. -/
theorem keyed_empty : (empty : Table α).Keyed id := by
  intro name a h
  rw [get?_empty] at h
  exact absurd h (by simp)

/-- An entry that is put under its own id. -/
theorem keyed_insert {t : Table α} (h : t.Keyed id) (a : α) : (t.insert (id a) a).Keyed id := by
  intro name b hb
  by_cases hn : name = id a
  · subst hn
    rw [get?_insert_self, Option.some.injEq] at hb
    rw [hb]
  · rw [get?_insert_of_ne t a hn] at hb
    exact h name b hb

/-- An entry that is changed without changing its id. -/
theorem keyed_modify {t : Table α} (h : t.Keyed id) (name : String) {f : α → α}
    (hf : ∀ a, id (f a) = id a) : (t.modify name f).Keyed id := by
  intro other b hb
  rw [get?_modify] at hb
  split at hb
  · rw [Option.map_eq_some_iff] at hb
    obtain ⟨a, ha, rfl⟩ := hb
    rw [hf]
    exact h other a ha
  · exact h other b hb

end Table

namespace Registry

/-- Every entity is registered under its own id. -/
structure Keyed (r : Registry) : Prop where
  services : r.services.Keyed Service.id
  methods : r.methods.Keyed Method.id
  messages : r.messages.Keyed Message.id
  enums : r.enums.Keyed EnumType.id

/-- So it is for a registry without entities. -/
theorem keyed_empty : ({} : Registry).Keyed :=
  ⟨Table.keyed_empty, Table.keyed_empty, Table.keyed_empty, Table.keyed_empty⟩

/-- Registering a service puts it under its own id. -/
theorem keyed_addService {r : Registry} (h : r.Keyed) (s : Service) : (r.addService s).Keyed :=
  { h with services := Table.keyed_insert h.services s }

/-- So it is for a method. -/
theorem keyed_addMethod {r : Registry} (h : r.Keyed) (m : Method) : (r.addMethod m).Keyed :=
  { h with methods := Table.keyed_insert h.methods m }

/-- So it is for a message. -/
theorem keyed_addMessage {r : Registry} (h : r.Keyed) (m : Message) : (r.addMessage m).Keyed :=
  { h with messages := Table.keyed_insert h.messages m }

/-- So it is for an enum. -/
theorem keyed_addEnum {r : Registry} (h : r.Keyed) (e : EnumType) : (r.addEnum e).Keyed :=
  { h with enums := Table.keyed_insert h.enums e }

/-- A service that keeps its id still stands under it. -/
theorem keyed_modifyService {r : Registry} (h : r.Keyed) (id : String) {f : Service → Service}
    (hf : ∀ s, (f s).id = s.id) : (r.modifyService id f).Keyed :=
  { h with services := Table.keyed_modify h.services id hf }

/-- So does a method. -/
theorem keyed_modifyMethod {r : Registry} (h : r.Keyed) (id : String) {f : Method → Method}
    (hf : ∀ m, (f m).id = m.id) : (r.modifyMethod id f).Keyed :=
  { h with methods := Table.keyed_modify h.methods id hf }

/-- So does a message. -/
theorem keyed_modifyMessage {r : Registry} (h : r.Keyed) (id : String) {f : Message → Message}
    (hf : ∀ m, (f m).id = m.id) : (r.modifyMessage id f).Keyed :=
  { h with messages := Table.keyed_modify h.messages id hf }

/-- So does an enum. -/
theorem keyed_modifyEnum {r : Registry} (h : r.Keyed) (id : String) {f : EnumType → EnumType}
    (hf : ∀ e, (f e).id = e.id) : (r.modifyEnum id f).Keyed :=
  { h with enums := Table.keyed_modify h.enums id hf }

/-- What is looked up in such a registry has the id it is looked up by. -/
theorem id_of_lookup? {r : Registry} (h : r.Keyed) {id : String} {s : Symbol}
    (hs : r.lookup? id = some s) : s.id = id := by
  unfold lookup? at hs
  simp only [Option.or_eq_some_iff, Option.map_eq_some_iff] at hs
  rcases hs with ⟨m, hm, rfl⟩ | ⟨-, ⟨e, he, rfl⟩ | ⟨-, ⟨s, hs, rfl⟩ | ⟨-, m, hm, rfl⟩⟩⟩
  · exact h.messages id m hm
  · exact h.enums id e he
  · exact h.services id s hs
  · exact h.methods id m hm

end Registry

end ProtoApi
