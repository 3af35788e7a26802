import ProtoApi.Model.Keyed
import ProtoApi.Proofs.Table

namespace ProtoApi

/-!
# Registries without loose ends

What a registry has to be for whoever follows the ids in it.

* `Message.Groups` — a oneof of a message has members, all of them oneof fields of the message;
* `Message.WellFormed`, `EnumType.WellFormed`, `Method.WellFormed`, `Service.WellFormed` — all that
  an entity refers to is there. Of the registry they ask only which ids it has, so that they survive
  whenever it grows (`Registry.Extends`);
* `Registry.WellFormed` — so it is for every entity, and every entity stands under its own id;
* `wellFormed_addMethod`, `wellFormed_modifyMessage` and their likes — what one change of the
  registry has to bring along to keep this.
-/

namespace Registry

/-! ### Growing -/

/-- Every type and method of `r` is still registered in `s`. -/
structure Extends (r s : Registry) : Prop where
  messages : ∀ id, r.messages.contains id → s.messages.contains id
  enums : ∀ id, r.enums.contains id → s.enums.contains id
  methods : ∀ id, r.methods.contains id → s.methods.contains id

theorem Extends.refl (r : Registry) : r.Extends r := ⟨fun _ h => h, fun _ h => h, fun _ h => h⟩

/-- What is registered stays so through several steps. -/
theorem Extends.trans {r s t : Registry} (h : r.Extends s) (h' : s.Extends t) : r.Extends t :=
  ⟨fun id hid => h'.messages id (h.messages id hid), fun id hid => h'.enums id (h.enums id hid),
    fun id hid => h'.methods id (h.methods id hid)⟩

/-- A type that is a message or an enum stays one. -/
theorem Extends.resolvesType {r s : Registry} (h : r.Extends s) {id : String}
    (ht : r.resolvesType id) : s.resolvesType id := by
  rw [Registry.resolvesType, Bool.or_eq_true] at ht ⊢
  exact ht.imp (h.messages id) (h.enums id)

theorem extends_addService (r : Registry) (s : Service) : r.Extends (r.addService s) :=
  ⟨fun _ h => h, fun _ h => h, fun _ h => h⟩

/-- A method that is added, or replaced under its id, takes no id away. -/
theorem extends_addMethod (r : Registry) (m : Method) : r.Extends (r.addMethod m) :=
  ⟨fun _ h => h, fun _ h => h, fun id h => by simp [addMethod, h]⟩

theorem extends_modifyService (r : Registry) (id : String) (f : Service → Service) :
    r.Extends (r.modifyService id f) :=
  ⟨fun _ h => h, fun _ h => h, fun _ h => h⟩

/-- An entity that is changed still stands under its id. -/
theorem extends_modifyMessage (r : Registry) (id : String) (f : Message → Message) :
    r.Extends (r.modifyMessage id f) :=
  ⟨fun other h => by simp [modifyMessage, h], fun _ h => h, fun _ h => h⟩

theorem extends_modifyEnum (r : Registry) (id : String) (f : EnumType → EnumType) :
    r.Extends (r.modifyEnum id f) :=
  ⟨fun _ h => h, fun other h => by simp [modifyEnum, h], fun _ h => h⟩

theorem extends_modifyMethod (r : Registry) (id : String) (f : Method → Method) :
    r.Extends (r.modifyMethod id f) :=
  ⟨fun _ h => h, fun _ h => h, fun other h => by simp [modifyMethod, h]⟩

end Registry

/-! ### Entities -/

/-- A oneof has members, and they are fields of the message that belong to a oneof. -/
def Message.Groups (m : Message) (o : OneOf) : Prop :=
  o.fields ≠ [] ∧ ∀ id ∈ o.fields, ∃ f ∈ m.fields, f.id = id ∧ f.isOneOf = true

/-- The types inside a message and the message around it are registered, and its oneofs are made of
    its fields. -/
structure Message.WellFormed (r : Registry) (m : Message) : Prop where
  messages : ∀ id ∈ m.messages, r.messages.contains id
  enums : ∀ id ∈ m.enums, r.enums.contains id
  parent : ∀ id, m.parent = some id → r.messages.contains id
  oneOfs : ∀ o ∈ m.oneOfs, m.Groups o

/-- The message around an enum is registered, and its canonical values are among its values. -/
structure EnumType.WellFormed (r : Registry) (e : EnumType) : Prop where
  parent : ∀ id, e.parent = some id → r.messages.contains id
  uniqueNumberValues : ∀ i ∈ e.uniqueNumberValues, i < e.values.length

/-- The types of a method are registered; its request is a message. -/
structure Method.WellFormed (r : Registry) (m : Method) : Prop where
  inputType : r.messages.contains m.inputType
  outputType : r.resolvesType m.outputType

/-- The methods of a service are registered. -/
def Service.WellFormed (r : Registry) (s : Service) : Prop :=
  ∀ id ∈ s.methods, r.methods.contains id

section Growing

variable {r s : Registry} (h : r.Extends s)
include h

/-- Nothing becomes loose when the registry grows. -/
theorem Message.WellFormed.mono {m : Message} (hm : m.WellFormed r) : m.WellFormed s where
  messages id hid := h.messages id (hm.messages id hid)
  enums id hid := h.enums id (hm.enums id hid)
  parent id hid := h.messages id (hm.parent id hid)
  oneOfs := hm.oneOfs

theorem EnumType.WellFormed.mono {e : EnumType} (he : e.WellFormed r) : e.WellFormed s where
  parent id hid := h.messages id (he.parent id hid)
  uniqueNumberValues := he.uniqueNumberValues

/-- So it is for the types of a method. -/
theorem Method.WellFormed.mono {m : Method} (hm : m.WellFormed r) : m.WellFormed s where
  inputType := h.messages _ hm.inputType
  outputType := h.resolvesType hm.outputType

/-- So it is for the methods of a service. -/
theorem Service.WellFormed.mono {x : Service} (hx : x.WellFormed r) : x.WellFormed s :=
  fun id hid => h.methods id (hx id hid)

end Growing

/-! ### Registries -/

namespace Registry

/-- Every entity stands under its own id, and all that it refers to is there. -/
structure WellFormed (r : Registry) : Prop where
  keyed : r.Keyed
  services : ∀ id s, r.service? id = some s → s.WellFormed r
  methods : ∀ id m, r.method? id = some m → m.WellFormed r
  messages : ∀ id m, r.message? id = some m → m.WellFormed r
  enums : ∀ id e, r.enum? id = some e → e.WellFormed r

/-- In an empty registry nothing refers to anything. -/
theorem wellFormed_empty : ({} : Registry).WellFormed where
  keyed := keyed_empty
  services id s h := by simp [service?] at h
  methods id m h := by simp [method?] at h
  messages id m h := by simp [message?] at h
  enums id e h := by simp [enum?] at h

variable {r : Registry}

/-- A service may be registered once its methods are. -/
theorem wellFormed_addService (h : r.WellFormed) {s : Service} (hs : s.WellFormed r) :
    (r.addService s).WellFormed where
  keyed := keyed_addService h.keyed s
  services id t ht := by
    rw [service?, addService, Table.get?_insert] at ht
    -- It is the new service, or one that was there before.
    split at ht
    · rw [Option.some.injEq] at ht
      subst ht
      exact hs.mono (extends_addService r s)
    · exact (h.services id t ht).mono (extends_addService r s)
  methods id m hm := (h.methods id m hm).mono (extends_addService r s)
  messages id m hm := (h.messages id m hm).mono (extends_addService r s)
  enums id e he := (h.enums id e he).mono (extends_addService r s)

/-- A method may be registered once its types are. -/
theorem wellFormed_addMethod (h : r.WellFormed) {m : Method} (hm : m.WellFormed r) :
    (r.addMethod m).WellFormed where
  keyed := keyed_addMethod h.keyed m
  services id s hs := (h.services id s hs).mono (extends_addMethod r m)
  methods id n hn := by
    rw [method?, addMethod, Table.get?_insert] at hn
    -- It is the new method, which may refer to what was there before, or an old one.
    split at hn
    · rw [Option.some.injEq] at hn
      subst hn
      exact hm.mono (extends_addMethod r m)
    · exact (h.methods id n hn).mono (extends_addMethod r m)
  messages id n hn := (h.messages id n hn).mono (extends_addMethod r m)
  enums id e he := (h.enums id e he).mono (extends_addMethod r m)

/-- A change of a message has to keep its id and may not break its links. -/
theorem wellFormed_modifyMessage (h : r.WellFormed) (id : String) {f : Message → Message}
    (hid : ∀ m, (f m).id = m.id) (hf : ∀ m, m.WellFormed r → (f m).WellFormed r) :
    (r.modifyMessage id f).WellFormed where
  keyed := keyed_modifyMessage h.keyed id hid
  services other s hs := (h.services other s hs).mono (extends_modifyMessage r id f)
  methods other m hm := (h.methods other m hm).mono (extends_modifyMessage r id f)
  messages other m hm := by
    -- The links are looked at in the old registry, which the change only extends.
    refine Message.WellFormed.mono (extends_modifyMessage r id f) ?_
    rcases Table.get?_modify_eq_some hm with ⟨n, hn, -, rfl⟩ | hm
    · exact hf n (h.messages other n hn)
    · exact h.messages other m hm
  enums other e he := (h.enums other e he).mono (extends_modifyMessage r id f)

/-- A change of an enum has to keep its id and may not break its links. -/
theorem wellFormed_modifyEnum (h : r.WellFormed) (id : String) {f : EnumType → EnumType}
    (hid : ∀ e, (f e).id = e.id) (hf : ∀ e, e.WellFormed r → (f e).WellFormed r) :
    (r.modifyEnum id f).WellFormed where
  keyed := keyed_modifyEnum h.keyed id hid
  services other s hs := (h.services other s hs).mono (extends_modifyEnum r id f)
  methods other m hm := (h.methods other m hm).mono (extends_modifyEnum r id f)
  messages other m hm := (h.messages other m hm).mono (extends_modifyEnum r id f)
  enums other e he := by
    refine EnumType.WellFormed.mono (extends_modifyEnum r id f) ?_
    rcases Table.get?_modify_eq_some he with ⟨d, hd, -, rfl⟩ | he
    · exact hf d (h.enums other d hd)
    · exact h.enums other e he

/-- A change of a method has to keep its id and may not break its links. -/
theorem wellFormed_modifyMethod (h : r.WellFormed) (id : String) {f : Method → Method}
    (hid : ∀ m, (f m).id = m.id) (hf : ∀ m, m.WellFormed r → (f m).WellFormed r) :
    (r.modifyMethod id f).WellFormed where
  keyed := keyed_modifyMethod h.keyed id hid
  services other s hs := (h.services other s hs).mono (extends_modifyMethod r id f)
  methods other m hm := by
    refine Method.WellFormed.mono (extends_modifyMethod r id f) ?_
    rcases Table.get?_modify_eq_some hm with ⟨n, hn, -, rfl⟩ | hm
    · exact hf n (h.methods other n hn)
    · exact h.methods other m hm
  messages other m hm := (h.messages other m hm).mono (extends_modifyMethod r id f)
  enums other e he := (h.enums other e he).mono (extends_modifyMethod r id f)

/-- A change of a service has to keep its id and may not break its links. -/
theorem wellFormed_modifyService (h : r.WellFormed) (id : String) {f : Service → Service}
    (hid : ∀ s, (f s).id = s.id) (hf : ∀ s, s.WellFormed r → (f s).WellFormed r) :
    (r.modifyService id f).WellFormed where
  keyed := keyed_modifyService h.keyed id hid
  services other s hs := by
    refine Service.WellFormed.mono (extends_modifyService r id f) ?_
    rcases Table.get?_modify_eq_some hs with ⟨t, ht, -, rfl⟩ | hs
    · exact hf t (h.services other t ht)
    · exact h.services other s hs
  methods other m hm := (h.methods other m hm).mono (extends_modifyService r id f)
  messages other m hm := (h.messages other m hm).mono (extends_modifyService r id f)
  enums other e he := (h.enums other e he).mono (extends_modifyService r id f)

end Registry

end ProtoApi
