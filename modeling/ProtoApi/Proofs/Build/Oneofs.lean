import ProtoApi.Proofs.Build.FieldTypes

namespace ProtoApi

/-!
# Which fields a oneof has

A field names its oneof by a position among the declared ones, of which those without members are
left out in the end. The positions of the others are kept here beside them, so that a field can be
followed to the oneof that it is found in.

* `FieldDecl.selects` — the position that a field names. A field that is merely optional names none,
  whatever its index;
* `MessageDecl.members`, `MessageDecl.inhabited` — the fields of a position, and the oneofs that
  have any;
* `survivingOneofs_eq` — these are the oneofs that stay, each with its members in the order of the
  fields;
* `mem_fields_oneOf_iff` — where fields have different names, a field is found in the oneof that it
  selects only;
* `Message.PartitionedBy`, `partitionedBy_entity` — what a declaration with such fields makes of a
  message;
* `partitioned_of_registerTypes` — so all messages are wherever registration succeeds.
-/

/-! ### Declarations -/

/-- Whether a field belongs to the oneof at a position. -/
def FieldDecl.selects (position : Nat) (decl : FieldDecl) : Bool :=
  !decl.isProto3Optional && decl.oneofIndex?.any (·.toInt = (position : Int))

/-- A field selects the position of its index unless it is merely optional. -/
theorem FieldDecl.selects_eq_true_iff {position : Nat} {decl : FieldDecl} :
    decl.selects position = true ↔
      decl.isProto3Optional = false ∧ ∃ index, decl.oneofIndex? = some index ∧
      index.toInt = position := by
  simp [selects, Option.any_eq_true]

/-- A field belongs to one oneof at most. -/
theorem FieldDecl.selects_inj {p q : Nat} {decl : FieldDecl} (hp : decl.selects p = true)
    (hq : decl.selects q = true) : p = q := by
  obtain ⟨-, index, hindex, hip⟩ := FieldDecl.selects_eq_true_iff.1 hp
  obtain ⟨-, index', hindex', hiq⟩ := FieldDecl.selects_eq_true_iff.1 hq
  rw [hindex, Option.some.injEq] at hindex'
  subst hindex'
  omega

/-- A field that is not marked as one of a oneof belongs to none. -/
theorem FieldDecl.selects_eq_false {decl : FieldDecl}
    (h : (decl.oneofIndex?.isSome && !decl.isProto3Optional) = false) (position : Nat) :
    decl.selects position = false := by
  rw [Bool.eq_false_iff]
  intro hselects
  obtain ⟨hoptional, index, hindex, -⟩ := FieldDecl.selects_eq_true_iff.1 hselects
  rw [hoptional, hindex] at h
  nomatch h

namespace MessageDecl

/-- The fields of the oneof at a position. -/
def members (m : MessageDecl) (position : Nat) : List FieldDecl :=
  m.fields.filter (·.selects position)

/-- The oneofs that have a field, with their positions. -/
def inhabited (m : MessageDecl) : List (OneofDecl × Nat) :=
  m.oneofs.zipIdx.filter fun o => !(m.members o.2).isEmpty

/-- A oneof of a message, with the ids of its members. -/
def oneOf (id : String) (m : MessageDecl) (o : OneofDecl × Nat) : OneOf where
  id := childId id o.1.name
  name := o.1.name
  fields := (m.members o.2).map fun f => childId id f.name

section Inhabited

variable {m : MessageDecl} {oneof : OneofDecl} {position : Nat}

/-- A declared oneof stays if its position has a member. -/
theorem mem_inhabited_iff :
    (oneof, position) ∈ m.inhabited ↔ m.oneofs[position]? = some oneof ∧
      m.members position ≠ [] := by
  unfold inhabited
  rw [List.mem_filter, List.mk_mem_zipIdx_iff_getElem?]
  simp

/-- No two oneofs stand at one position. -/
theorem eq_of_getElem?_inhabited {j k : Nat} {o o' : OneofDecl × Nat}
    (ho : m.inhabited[j]? = some o) (ho' : m.inhabited[k]? = some o') (h : o.2 = o'.2) : j = k := by
  have hnodup : (m.inhabited.map Prod.snd).Nodup := by
    refine List.Nodup.sublist (List.filter_sublist.map Prod.snd) ?_
    rw [List.zipIdx_map_snd]
    exact List.nodup_range'
  have hj : (m.inhabited.map Prod.snd)[j]? = some o.2 := by
    rw [List.getElem?_map, ho, Option.map_some]
  have hk : (m.inhabited.map Prod.snd)[k]? = some o.2 := by
    rw [List.getElem?_map, ho', Option.map_some, h]
  exact (List.getElem?_inj (List.getElem?_eq_some_iff.1 hj).1 hnodup).1 (hj.trans hk.symm)

end Inhabited

/-- Where fields have different names, a field is a member of the oneof that it selects only. -/
theorem mem_fields_oneOf_iff {m : MessageDecl} (hn : (m.fields.map (·.name)).Nodup)
    {decl : FieldDecl} (hd : decl ∈ m.fields) (id : String) (o : OneofDecl × Nat) :
    childId id decl.name ∈ (m.oneOf id o).fields ↔ decl.selects o.2 = true := by
  unfold oneOf members
  constructor
  · intro h
    obtain ⟨other, hother, hid⟩ := List.mem_map.1 h
    obtain ⟨hmem, hselects⟩ := List.mem_filter.1 hother
    have hsame : other = decl := List.inj_on_of_nodup_map hn hmem hd (childId_right_inj hid)
    exact hsame ▸ hselects
  · intro h
    exact List.mem_map.2 ⟨decl, List.mem_filter.2 ⟨hd, h⟩, rfl⟩

end MessageDecl

/-! ### What is built -/

/-- An index is a position if it is in range. -/
theorem positionBelow?_eq_some_iff {length position : Nat} {n : Int32} :
    positionBelow? length n = some position ↔ position < length ∧ n.toInt = position := by
  unfold positionBelow?
  split
  · rw [Option.some.injEq]
    omega
  · simp only [reduceCtorEq, false_iff]
    omega

/-- A field is built for the position that it selects. -/
theorem oneof?_built_iff (r : Registry) (messageId : String) {declared position : Nat}
    (h : position < declared) (decl : FieldDecl) :
    (decl.built r messageId declared).oneof? = some position ↔ decl.selects position = true := by
  rw [FieldDecl.selects_eq_true_iff]
  unfold FieldDecl.built FieldDecl.untyped
  cases decl.oneofIndex? with
  | none => simp
  | some index => cases decl.isProto3Optional <;> simp [positionBelow?_eq_some_iff, h]

/-- The mark of a field says that it has an index and is not merely optional. -/
theorem isOneOf_built (r : Registry) (messageId : String) (declared : Nat) (decl : FieldDecl) :
    (decl.built r messageId declared).field.isOneOf
      = (decl.oneofIndex?.isSome && !decl.isProto3Optional) :=
  Field.isOneOf_withType r (decl.untyped messageId) decl

/-- The id of a field is made of that of its message and its name. -/
theorem id_built (r : Registry) (messageId : String) (declared : Nat) (decl : FieldDecl) :
    (decl.built r messageId declared).field.id = childId messageId decl.name := by
  obtain ⟨kind, typeId, repeated, optional, map, h⟩ :=
    (decl.untyped messageId).exists_withType r decl
  show ((decl.untyped messageId).withType r decl).1.id = _
  rw [h]
  rfl

/-- The fields of a position are built to its members. -/
theorem members_allBuilt (r : Registry) (d : DeclaredMessage) {position : Nat}
    (h : position < d.decl.oneofs.length) :
    ((d.allBuilt r).filter (·.oneof? = some position)).map (·.field.id)
      = (d.decl.members position).map fun f => childId d.id f.name := by
  unfold DeclaredMessage.allBuilt MessageDecl.members
  rw [List.filter_map, List.map_map]
  have hfilter : d.decl.fields.filter
        ((fun b => decide (b.oneof? = some position)) ∘ (·.built r d.id d.decl.oneofs.length))
      = d.decl.fields.filter (·.selects position) := by
    refine List.filter_congr fun f _ => ?_
    rw [Function.comp_apply, Bool.eq_iff_iff, decide_eq_true_iff, oneof?_built_iff r d.id h]
  rw [hfilter]
  exact List.map_congr_left fun f _ => id_built r d.id d.decl.oneofs.length f

/-- The oneofs that stay are those that have a field. -/
theorem survivingOneofs_eq (r : Registry) (d : DeclaredMessage) :
    survivingOneofs d.id d.decl.oneofs (d.allBuilt r)
      = d.decl.inhabited.map (d.decl.oneOf d.id) := by
  have hmap : d.decl.inhabited.map (d.decl.oneOf d.id) = d.decl.oneofs.zipIdx.filterMap fun o =>
      if !(d.decl.members o.2).isEmpty then some (d.decl.oneOf d.id o) else none := by
    rw [← List.filterMap_eq_map, MessageDecl.inhabited, List.filterMap_filter]
    rfl
  unfold survivingOneofs
  rw [hmap]
  refine List.filterMap_congr fun ⟨oneof, position⟩ ho => ?_
  simp only
  -- Whether a oneof has members is the same before and after they are built.
  rw [members_allBuilt r d (List.mem_zipIdx' ho).1, List.isEmpty_map]
  cases h : (d.decl.members position).isEmpty <;> simp [MessageDecl.oneOf]

/-- A field without a fault names one of the declared oneofs, or none. -/
theorem exists_position_of_fault?_eq_none {d : DeclaredMessage} (h : d.fault? = none)
    {decl : FieldDecl} (hd : decl ∈ d.decl.fields) {index : Int32}
    (hindex : decl.oneofIndex? = some index) :
    ∃ (position : Nat) (oneof : OneofDecl), d.decl.oneofs[position]? = some oneof ∧
      index.toInt = position := by
  -- A message without a fault has no field with one.
  have hfault : decl.fault? d.id d.decl.oneofs.length = none :=
    List.findSome?_eq_none_iff.1 h decl hd
  unfold FieldDecl.fault? at hfault
  rw [hindex] at hfault
  simp only [ite_eq_left_iff, reduceCtorEq, imp_false, not_not] at hfault
  obtain ⟨position, hposition⟩ := Option.isSome_iff_exists.1 hfault
  obtain ⟨hlt, hint⟩ := positionBelow?_eq_some_iff.1 hposition
  exact ⟨position, d.decl.oneofs[position], List.getElem?_eq_getElem hlt, hint⟩

/-! ### Messages -/

/-- Fields with different ids are found by their ids. -/
theorem Message.fieldById?_of_mem {m : Message} (hn : (m.fields.map (·.id)).Nodup) {f : Field}
    (hf : f ∈ m.fields) : m.fieldById? f.id = some f := by
  have hreverse : (m.fields.reverse.map (·.id)).Nodup := by
    rwa [List.map_reverse, List.nodup_reverse]
  have hfind := find?_reverse_of_nodup hreverse (List.mem_reverse.2 hf)
  rwa [List.reverse_reverse] at hfind

/-- A oneof that lists the ids of some fields leads back to them. -/
theorem Message.oneOfFields_of_filter {m : Message} (hn : (m.fields.map (·.id)).Nodup) {o : OneOf}
    {p : Field → Bool} (ho : o.fields = (m.fields.filter p).map (·.id)) :
    m.oneOfFields o = m.fields.filter p := by
  unfold oneOfFields
  have hback : (m.fields.filter p).filterMap (m.fieldById? ∘ (·.id)) = (m.fields.filter p).map
      fun f => f :=
    List.filterMap_eq_map_iff_forall_eq_some.2 fun f hf =>
      fieldById?_of_mem hn (List.mem_filter.1 hf).1
  rw [ho, List.filterMap_map, hback, List.map_id']

/-- What a declaration makes of the oneofs and the fields of a message. -/
structure Message.PartitionedBy (m : Message) (decl : MessageDecl) : Prop where
  /-- Of the declared oneofs those with a member stay, in their order, and each lists its members in
      that of the fields. -/
  oneOfs : m.oneOfs = decl.inhabited.map (decl.oneOf m.id)
  fields : List.Forall₂ (fun f d => f.id = childId m.id d.name ∧
    f.isOneOf = (d.oneofIndex?.isSome && !d.isProto3Optional)) m.fields decl.fields
  /-- A field with the mark is found in one oneof, which stands for the declared one that the index
      of the field selects, and in no other one. -/
  exactlyOne : ∀ (i : Nat) f d, m.fields[i]? = some f → decl.fields[i]? = some d →
    f.isOneOf = true →
    ∃ (k position : Nat) (o : OneOf) (oneof : OneofDecl) (index : Int32),
      m.oneOfs[k]? = some o ∧ decl.inhabited[k]? = some (oneof, position) ∧
        decl.oneofs[position]? = some oneof ∧
      d.oneofIndex? = some index ∧ index.toInt = position ∧
      ∀ (j : Nat) o', m.oneOfs[j]? = some o' → (f.id ∈ o'.fields ↔ j = k)
  /-- A field without the mark is found in none. -/
  apart : ∀ f ∈ m.fields, f.isOneOf = false → ∀ o ∈ m.oneOfs, f.id ∉ o.fields
  /-- So it is for a field that is merely optional, whatever its index. -/
  optional : ∀ (i : Nat) f d, m.fields[i]? = some f → decl.fields[i]? = some d →
    d.isProto3Optional = true →
    f.isOneOf = false
  /-- The ids of a oneof lead back to its fields. -/
  oneOfFields : ∀ o ∈ m.oneOfs, m.oneOfFields o = m.fields.filter (·.id ∈ o.fields)

section Entity

variable {r : Registry} {d : DeclaredMessage}

/-- The fields of a message are built one by one. -/
theorem fields_entity (r : Registry) (d : DeclaredMessage) :
    (d.entity r).fields = d.decl.fields.map fun decl =>
      (decl.built r d.id d.decl.oneofs.length).field := by
  show (d.decl.fields.map _).map _ = _
  rw [List.map_map]
  rfl

/-- The fields of a message stand where their declarations do. -/
theorem getElem?_fields_entity (r : Registry) (d : DeclaredMessage) (i : Nat) :
    (d.entity r).fields[i]? = d.decl.fields[i]?.map fun decl =>
      (decl.built r d.id d.decl.oneofs.length).field := by
  rw [fields_entity, List.getElem?_map]

/-- Each of them comes from a declaration. -/
theorem exists_decl_of_mem_fields {f : Field} (h : f ∈ (d.entity r).fields) :
    ∃ decl ∈ d.decl.fields, f = (decl.built r d.id d.decl.oneofs.length).field := by
  rw [fields_entity] at h
  obtain ⟨decl, hdecl, rfl⟩ := List.mem_map.1 h
  exact ⟨decl, hdecl, rfl⟩

/-- Fields with different names have different ids. -/
theorem nodup_ids_entity (r : Registry) (hn : (d.decl.fields.map (·.name)).Nodup) :
    ((d.entity r).fields.map (·.id)).Nodup := by
  have hids : (d.entity r).fields.map (·.id) = (d.decl.fields.map (·.name)).map (childId d.id) := by
    rw [fields_entity, List.map_map, List.map_map]
    exact List.map_congr_left fun decl _ => id_built ..
  rw [hids]
  exact hn.map fun _ _ => childId_right_inj

/-- The oneofs of a message are those that have a field, at the same places. -/
theorem getElem?_oneOfs_entity (r : Registry) (d : DeclaredMessage) (j : Nat) :
    (d.entity r).oneOfs[j]? = d.decl.inhabited[j]?.map (d.decl.oneOf d.id) := by
  show (survivingOneofs d.id d.decl.oneofs (d.allBuilt r))[j]? = _
  rw [survivingOneofs_eq, List.getElem?_map]

/-- The oneof at a place among those that stay has the fields that select its position. -/
theorem mem_fields_getElem?_iff (hn : (d.decl.fields.map (·.name)).Nodup) {decl : FieldDecl}
    (hd : decl ∈ d.decl.fields) {j : Nat} {o : OneOf} (ho : (d.entity r).oneOfs[j]? = some o) :
    ∃ oneof, d.decl.inhabited[j]? = some oneof ∧
      ((decl.built r d.id d.decl.oneofs.length).field.id ∈ o.fields ↔
        decl.selects oneof.2 = true) := by
  rw [getElem?_oneOfs_entity] at ho
  obtain ⟨oneof, honeof, rfl⟩ := Option.map_eq_some_iff.1 ho
  refine ⟨oneof, honeof, ?_⟩
  rw [id_built]
  exact MessageDecl.mem_fields_oneOf_iff hn hd d.id oneof

/-- Where the fields have different names, a message without a fault is partitioned by its
    oneofs. -/
theorem partitionedBy_entity (r : Registry) (hfault : d.fault? = none)
    (hn : (d.decl.fields.map (·.name)).Nodup) : (d.entity r).PartitionedBy d.decl where
  oneOfs := survivingOneofs_eq r d
  fields := by
    rw [fields_entity, List.forall₂_map_left_iff, List.forall₂_same]
    exact fun decl _ => ⟨id_built .., isOneOf_built ..⟩
  exactlyOne i f decl hf hdecl hone := by
    have hmem : decl ∈ d.decl.fields := List.mem_of_getElem? hdecl
    rw [getElem?_fields_entity, hdecl, Option.map_some, Option.some.injEq] at hf
    rw [← hf, isOneOf_built, Bool.and_eq_true, Bool.not_eq_true'] at hone
    obtain ⟨index, hindex⟩ := Option.isSome_iff_exists.1 hone.1
    obtain ⟨position, oneof, honeof, hint⟩ := exists_position_of_fault?_eq_none hfault hmem hindex
    have hselects : decl.selects position = true :=
      FieldDecl.selects_eq_true_iff.2 ⟨hone.2, index, hindex, hint⟩
    -- The field itself keeps its oneof from being left out.
    have hmember : decl ∈ d.decl.members position := List.mem_filter.2 ⟨hmem, hselects⟩
    obtain ⟨k, hk⟩ :=
      List.mem_iff_getElem?.1 (MessageDecl.mem_inhabited_iff.2 ⟨honeof, List.ne_nil_of_mem hmember⟩)
    refine ⟨k, position, d.decl.oneOf d.id (oneof, position), oneof, index, ?_, hk, honeof,
      hindex, hint, ?_⟩
    · rw [getElem?_oneOfs_entity, hk, Option.map_some]
    · intro j o' ho'
      obtain ⟨oneof', hj, hiff⟩ := mem_fields_getElem?_iff hn hmem ho'
      -- No other oneof that stays has this position, so that membership decides the place.
      rw [← hf, hiff]
      constructor
      · intro hselects'
        exact MessageDecl.eq_of_getElem?_inhabited hj hk (FieldDecl.selects_inj hselects' hselects)
      · rintro rfl
        obtain rfl : oneof' = (oneof, position) := Option.some.inj (hj.symm.trans hk)
        exact hselects
  apart f hf hone o ho := by
    obtain ⟨decl, hmem, rfl⟩ := exists_decl_of_mem_fields hf
    obtain ⟨j, hj⟩ := List.mem_iff_getElem?.1 ho
    obtain ⟨oneof, -, hiff⟩ := mem_fields_getElem?_iff hn hmem hj
    rw [hiff, Bool.not_eq_true]
    rw [isOneOf_built] at hone
    exact FieldDecl.selects_eq_false hone oneof.2
  optional i f decl hf hdecl hoptional := by
    rw [getElem?_fields_entity, hdecl, Option.map_some, Option.some.injEq] at hf
    rw [← hf, isOneOf_built, hoptional, Bool.not_true, Bool.and_false]
  oneOfFields o ho := by
    refine Message.oneOfFields_of_filter (nodup_ids_entity r hn) ?_
    obtain ⟨j, hj⟩ := List.mem_iff_getElem?.1 ho
    rw [getElem?_oneOfs_entity] at hj
    obtain ⟨oneof, -, rfl⟩ := Option.map_eq_some_iff.1 hj
    have hfilter : d.decl.fields.filter
          ((fun f => decide (f.id ∈ (d.decl.oneOf d.id oneof).fields)) ∘
            fun decl => (decl.built r d.id d.decl.oneofs.length).field)
              = d.decl.members oneof.2 := by
      refine List.filter_congr fun decl hmem => ?_
      rw [Function.comp_apply, Bool.eq_iff_iff, decide_eq_true_iff, id_built,
        MessageDecl.mem_fields_oneOf_iff hn hmem]
    rw [fields_entity, List.filter_map, List.map_map, hfilter]
    exact List.map_congr_left fun decl _ => (id_built ..).symm

end Entity

/-! ### Registration -/

/-- All messages of a registry are partitioned by the oneofs of their last declarations. -/
def Registry.Partitioned (files : List FileDecl) (r : Registry) : Prop :=
  ∀ id m, r.message? id = some m →
    ∃ d, IsLast DeclaredMessage.id (files.flatMap FileDecl.declaredMessages) d ∧ d.id = id ∧
      m.id = id ∧
      m.PartitionedBy d.decl

/-- Where registration into nothing succeeds, the fields of all messages are partitioned by their
    oneofs. -/
theorem partitioned_of_registerTypes {files : List FileDecl} {ctx : Context}
    (h : registerTypes {} files = (ctx, none))
    (hn : ∀ d ∈ files.flatMap FileDecl.declaredMessages, (d.decl.fields.map (·.name)).Nodup) :
    ctx.registry.Partitioned files := by
  intro id m hm
  obtain ⟨d, hd, rfl, rfl⟩ := exists_isLast_of_message? h rfl hm
  have hmem : d ∈ files.flatMap FileDecl.declaredMessages := by
    obtain ⟨before, after, hsplit, -⟩ := hd
    simp [hsplit]
  exact ⟨d, hd, rfl, rfl, partitionedBy_entity _ (fault?_eq_none h hmem) (hn d hmem)⟩

/-- A file with a message whose second and fourth oneof have no members of their own, inside another
    message. -/
def routeFile : FileDecl where
  name? := "route.proto"
  package? := "shop"
  messages := [
    { name? := "Route"
      nested := [
        { name? := "Stop"
          fields := [
            { name? := "depot", kind? := some (.name "TYPE_STRING"), oneofIndex? := some 2 },
            { name? := "note", kind? := some (.name "TYPE_STRING"), oneofIndex? := some 1,
              proto3Optional? := true },
            { name? := "hour", kind? := some (.name "TYPE_INT32"), oneofIndex? := some 0 },
            { name? := "shop", kind? := some (.name "TYPE_STRING"), oneofIndex? := some 2 },
            { name? := "day", kind? := some (.name "TYPE_INT32"), oneofIndex? := some 0 },
            { name? := "number", kind? := some (.name "TYPE_INT32") }]
          oneofs := [{ name? := "time" }, { name? := "_note" }, { name? := "place" },
            { name? := "unused" }] }] }]

/-- The first and the third oneof stay, the latter with the first and the fourth field. -/
theorem routeFile_partitioned :
    registerTypes {} [routeFile] = ((registerTypes {} [routeFile]).1, none) ∧
      (∀ d ∈ [routeFile].flatMap FileDecl.declaredMessages, (d.decl.fields.map (·.name)).Nodup) ∧
      (registerTypes {} [routeFile]).1.registry.Partitioned [routeFile] ∧
      ((registerTypes {} [routeFile]).1.registry.message? ".shop.Route.Stop").map
          (·.oneOfs.map fun o => (o.name, o.fields))
        = some [("time", [".shop.Route.Stop.hour", ".shop.Route.Stop.day"]),
            ("place", [".shop.Route.Stop.depot", ".shop.Route.Stop.shop"])] := by
  have hr : (registerTypes {} [routeFile]).2 = none := by decide +kernel
  have hn : ∀ d ∈ [routeFile].flatMap FileDecl.declaredMessages,
      (d.decl.fields.map (·.name)).Nodup := by
    decide +kernel
  exact ⟨Prod.ext rfl hr, hn, partitioned_of_registerTypes (Prod.ext rfl hr) hn, by decide +kernel⟩

end ProtoApi
