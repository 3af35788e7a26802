import ProtoApi.Proofs.Build.Locations
import ProtoApi.Proofs.Build.Outcome
import ProtoApi.Proofs.Build.Registered

namespace ProtoApi

/-!
# What the check of references finds

The check goes from the messages to generate to those inside them. It does not follow the types of
fields, so that messages of other files are not looked at.

* `Registry.Walked`, `exists_closed_of_checkFrom` — how far the walk has come, and where it ends;
* `checkFrom_eq_ok_iff` — the check succeeds if no message within the given ones has a field without
  a type;
* `Message.Resolved` — all fields of a message have the types that they name;
* `message_resolved_of_buildApi` — so it is for what is generated and for all messages inside it;
* `Registry.Reaches`, `exists_unresolved_reaches` — but not for all messages that follow from those
  by their fields.
-/

/-! ### The walk -/

namespace Registry

variable {r : Registry}

/-- Names that hold some messages and, with each message, those inside it hold all messages
    within. -/
theorem Within.of_closed {roots : List String} {names : String → Prop}
    (hroots : ∀ id ∈ roots, names id)
    (hclosed : ∀ id m, names id → r.message? id = some m → ∀ i ∈ m.messages, names i) {id : String}
    (h : r.Within roots id) : names id := by
  induction h with
  | root h => exact hroots _ h
  | inside _ hm hi ih => exact hclosed _ _ ih hm _ hi

/-- More roots reach no less. -/
theorem Within.mono {roots roots' : List String} (h : ∀ id ∈ roots, r.Within roots' id)
    {id : String} (hid : r.Within roots id) : r.Within roots' id :=
  hid.of_closed h fun _ _ hout hm _ hi => .inside hout hm hi

/-- How far a walk has come: there is nothing to complain about in what has been seen, and what is
    inside of that has been seen or is still to be seen. -/
def Walked (r : Registry) (seen : NameSet) (pending : List String) : Prop :=
  ∀ id m, seen.contains id = true → r.message? id = some m →
    r.unresolvedField? m = none ∧ ∀ i ∈ m.messages, seen.contains i = true ∨ i ∈ pending

/-- What has been seen need not be seen again. -/
theorem Walked.skip {seen : NameSet} {id : String} {pending : List String}
    (h : r.Walked seen (id :: pending)) (hid : seen.contains id = true) :
    r.Walked seen pending := by
  intro x m hx hm
  refine ⟨(h x m hx hm).1, fun i hi => ?_⟩
  rcases (h x m hx hm).2 i hi with hi | hi
  · exact Or.inl hi
  · rcases List.mem_cons.1 hi with rfl | hi
    · exact Or.inl hid
    · exact Or.inr hi

/-- The next one is seen, if there is nothing to complain about and what is inside of it comes
    next. -/
theorem Walked.add {seen : NameSet} {id : String} {pending next : List String}
    (h : r.Walked seen (id :: pending))
    (hid : ∀ m, r.message? id = some m → r.unresolvedField? m = none ∧ ∀ i ∈ m.messages, i ∈ next) :
    r.Walked (seen.add id) (next ++ pending) := by
  intro x m hx hm
  rw [NameSet.contains_add, Bool.or_eq_true, decide_eq_true_eq] at hx
  simp only [NameSet.contains_add, Bool.or_eq_true, decide_eq_true_eq, List.mem_append]
  rcases hx with rfl | hx
  · obtain ⟨hnone, hall⟩ := hid m hm
    exact ⟨hnone, fun i hi => Or.inr (Or.inl (hall i hi))⟩
  · refine ⟨(h x m hx hm).1, fun i hi => ?_⟩
    rcases (h x m hx hm).2 i hi with hi | hi
    · exact Or.inl (Or.inr hi)
    · rcases List.mem_cons.1 hi with rfl | hi
      · exact Or.inl (Or.inl rfl)
      · exact Or.inr (Or.inr hi)

/-- A walk that succeeds ends in a closed set of names without complaints, which holds all it has
    seen and all it was to see. -/
theorem exists_closed_of_checkFrom {seen : NameSet} {pending : List String}
    (h : r.checkFrom seen pending = .ok ()) (hseen : r.Walked seen pending) :
    ∃ names : String → Prop, (∀ id, seen.contains id = true → names id) ∧
      (∀ id ∈ pending, names id) ∧
      ∀ id m, names id → r.message? id = some m → r.unresolvedField? m = none ∧ ∀ i ∈ m.messages,
        names i := by
  -- What holds all that has been seen after a step holds all from before, and what the step has
  -- been about.
  have hadd : ∀ {seen : NameSet} {id : String} {names : String → Prop},
      (∀ x, (seen.add id).contains x = true → names x) → (∀ x, seen.contains x = true → names x) ∧
        names id := by
    intro seen id names hs
    simp only [NameSet.contains_add, Bool.or_eq_true, decide_eq_true_eq] at hs
    exact ⟨fun x hx => hs x (Or.inr hx), hs id (Or.inl rfl)⟩
  fun_induction checkFrom r seen pending
  case case1 seen =>
    refine ⟨fun id => seen.contains id = true, fun _ hid => hid, by simp, fun id m hid hm => ?_⟩
    obtain ⟨hnone, hall⟩ := hseen id m hid hm
    exact ⟨hnone, fun i hi => (hall i hi).resolve_right List.not_mem_nil⟩
  case case2 seen id pending hid ih =>
    obtain ⟨names, hs, hp, hc⟩ := ih h (hseen.skip hid)
    exact ⟨names, hs, List.forall_mem_cons.2 ⟨hs id hid, hp⟩, hc⟩
  case case3 seen id pending _ hnone ih =>
    have hwalked : r.Walked (seen.add id) ([] ++ pending) := hseen.add fun m hm => by
      rw [hnone] at hm
      nomatch hm
    obtain ⟨names, hs, hp, hc⟩ := ih h hwalked
    exact ⟨names, (hadd hs).1, List.forall_mem_cons.2 ⟨(hadd hs).2, hp⟩, hc⟩
  case case4 => nomatch h
  case case5 seen id pending _ m hm hnone ih =>
    -- The message that is seen now leaves those inside it to be seen.
    have hwalked : r.Walked (seen.add id) (m.messages.reverse ++ pending) :=
      hseen.add fun n hn => by
      obtain rfl := Option.some.inj (hm.symm.trans hn)
      exact ⟨hnone, fun i hi => List.mem_reverse.2 hi⟩
    obtain ⟨names, hs, hp, hc⟩ := ih h hwalked
    exact ⟨names, (hadd hs).1,
      List.forall_mem_cons.2 ⟨(hadd hs).2, fun i hi => hp i (List.mem_append_right _ hi)⟩, hc⟩

/-- The walk succeeds if no message within those it is to see has a field without a type. -/
theorem checkFrom_of_within {seen : NameSet} {pending : List String}
    (h : ∀ id, r.Within pending id → ∀ m, r.message? id = some m → r.unresolvedField? m = none) :
    r.checkFrom seen pending = .ok () := by
  fun_induction checkFrom r seen pending
  case case1 => rfl
  case case2 seen id pending _ ih =>
    exact ih fun x hx => h x (hx.mono fun i hi => .root (List.mem_cons_of_mem _ hi))
  case case3 seen id pending _ _ ih =>
    exact ih fun x hx => h x (hx.mono fun i hi => .root (List.mem_cons_of_mem _ hi))
  case case4 seen id pending _ m hm field typeId hsome =>
    have hnone := h id (.root List.mem_cons_self) m hm
    rw [hsome] at hnone
    nomatch hnone
  case case5 seen id pending _ m hm _ ih =>
    refine ih fun x hx => h x (hx.mono fun i hi => ?_)
    rcases List.mem_append.1 hi with hi | hi
    · exact .inside (.root List.mem_cons_self) hm (List.mem_reverse.1 hi)
    · exact .root (List.mem_cons_of_mem _ hi)

/-- The check succeeds if no message within the given ones has a field without a type. -/
theorem checkFrom_eq_ok_iff {roots : List String} : r.checkFrom Table.empty roots = .ok () ↔
    ∀ id, r.Within roots id → ∀ m, r.message? id = some m → r.unresolvedField? m = none := by
  refine ⟨fun h id hid m hm => ?_, checkFrom_of_within⟩
  have hseen : r.Walked Table.empty roots := by
    intro id m hid
    nomatch hid
  obtain ⟨names, -, hroots, hclosed⟩ := exists_closed_of_checkFrom h hseen
  exact (hclosed id m (hid.of_closed hroots fun i n hi hn => (hclosed i n hi hn).2) hm).1

end Registry

/-! ### Fields and their types -/

/-- The fields of a message name registered types, if their kinds ask for a type. -/
def Message.Resolved (r : Registry) (m : Message) : Prop :=
  ∀ f ∈ m.fields, f.kind.referencesType = true → ∃ id, f.typeId = some id ∧ r.resolvesType id = true

/-- Where the empty id is not registered, a message without an unresolved field has all its
    types. -/
theorem resolved_of_unresolvedField? {r : Registry} (hempty : r.resolvesType "" = false)
    {m : Message} (h : r.unresolvedField? m = none) : m.Resolved r := by
  intro f hf hkind
  unfold Registry.unresolvedField? at h
  have hnot := List.find?_eq_none.1 (Option.map_eq_none_iff.1 h) f hf
  rw [hkind, Bool.true_and, Bool.not_eq_true', Bool.not_eq_false] at hnot
  cases ht : f.typeId with
  | none =>
    rw [ht, Option.getD_none, hempty] at hnot
    nomatch hnot
  | some id =>
    rw [ht, Option.getD_some] at hnot
    exact ⟨id, rfl, hnot⟩

/-! ### Ids of registered types -/

/-- An id is never empty, since it begins with a dot. -/
theorem topLevelId_ne_empty (package name : String) : topLevelId package name ≠ "" := by
  unfold topLevelId
  intro h
  have hlist := congrArg String.toList h
  split at hlist <;> simp at hlist

theorem childId_ne_empty (parent name : String) : childId parent name ≠ "" := by
  intro h
  have hlist := congrArg String.toList h
  rw [toList_childId] at hlist
  simp at hlist

/-- No message and no enum is declared under the empty id. -/
theorem id_ne_empty_of_mem (files : List FileDecl) :
    (∀ d ∈ files.flatMap FileDecl.declaredMessages, d.id ≠ "") ∧
      ∀ e ∈ files.flatMap FileDecl.declaredEnums, e.id ≠ "" := by
  constructor
  · intro d hd
    obtain ⟨f, -, hd⟩ := List.mem_flatMap.1 hd
    obtain ⟨path, hlocated⟩ := f.mem_declaredMessages_iff.1 hd
    cases hlocated with
    | top => exact topLevelId_ne_empty _ _
    | inner => exact childId_ne_empty _ _
  · intro e he
    obtain ⟨f, -, he⟩ := List.mem_flatMap.1 he
    obtain ⟨path, hlocated⟩ := f.mem_declaredEnums_iff.1 he
    cases hlocated with
    | top => exact topLevelId_ne_empty _ _
    | inner => exact childId_ne_empty _ _

/-- Nothing is registered under the empty id. -/
theorem resolvesType_empty {start ctx : Context} {files : List FileDecl}
    (hstart : start.registry = {}) (hr : registerTypes start files = (ctx, none)) :
    ctx.registry.resolvesType "" = false := by
  obtain ⟨hmessages, henums⟩ := id_ne_empty_of_mem files
  unfold Registry.resolvesType
  rw [contains_messages_registerTypes hr, contains_enums_registerTypes hr, hstart]
  simp only [Bool.or_eq_false_iff, List.any_eq_false, decide_eq_true_eq]
  exact ⟨⟨hmessages, rfl⟩, henums, rfl⟩

/-! ### Builds -/

/-- Where a build succeeds, the messages to generate and all messages inside them have the types
    that their fields name. -/
theorem message_resolved_of_buildApi (set : DescriptorSet) (options : BuildOptions) (b : ApiBuild)
    (h : buildApi set options = .ok b) (id : String) (hid : b.api.registry.Within b.api.messages id)
    (m : Message) (hm : b.api.registry.message? id = some m) : m.Resolved b.api.registry := by
  obtain ⟨targets, ctx, -, hr, hcheck, rfl⟩ := buildApi_eq_ok_iff.1 h
  have hempty : ((set.preparation options targets).model options.config? ctx).registry.resolvesType
      "" = false := by
    rw [(Preparation.sameNames_model _ _ _).resolvesType]
    exact resolvesType_empty rfl hr
  refine resolved_of_unresolvedField? hempty (Registry.checkFrom_eq_ok_iff.1 hcheck id ?_ m hm)
  exact hid.mono fun i hi => .root (List.mem_reverse.2 hi)

/-- A set with a message that names one of another file, whose own field names a message that is
    nowhere to be found. -/
def shopSet : DescriptorSet where
  files := [
    { name? := "order.proto"
      package? := "shop"
      messages := [
        { name? := "Order"
          fields := [
            { name? := "customer", kind? := some (.name "TYPE_MESSAGE"),
              typeName? := some ".people.Customer" }] }] },
    { name? := "customer.proto"
      package? := "people"
      messages := [
        { name? := "Customer"
          fields := [
            { name? := "address", kind? := some (.name "TYPE_MESSAGE"),
              typeName? := some ".people.Address" }] }] }]

/-- A request for the first file. -/
def shopRequest : BuildOptions where
  files := ["order.proto"]

/-- What the build of the first file ends with. -/
def shopModel : ApiBuild := shopSet.outcome shopRequest (shopSet.files.take 1)

/-- The message to generate names the message of the other file, which is registered. -/
theorem exists_order :
    ∃ m, shopModel.api.registry.message? ".shop.Order" = some m ∧ m.messages = [] ∧
    shopModel.api.registry.unresolvedField? m = none ∧ ∃ f ∈ m.fields,
      f.typeId = some ".people.Customer" := by
  have h : (shopModel.api.registry.message? ".shop.Order").any (fun m => m.messages.isEmpty &&
      (shopModel.api.registry.unresolvedField? m).isNone
        && m.fields.any (·.typeId = some ".people.Customer"))
        = true := by
    decide +kernel
  obtain ⟨m, hm, h⟩ := (Option.any_eq_true ..).1 h
  simp only [Bool.and_eq_true, List.isEmpty_iff, Option.isNone_iff_eq_none, List.any_eq_true,
    decide_eq_true_eq] at h
  exact ⟨m, hm, h.1.1, h.1.2, h.2⟩

/-- The message of the other file names one that is not registered. -/
theorem exists_customer : ∃ m, shopModel.api.registry.message? ".people.Customer" = some m ∧
    ∃ f ∈ m.fields, f.kind.referencesType = true ∧ f.typeId = some ".people.Address" := by
  have h : (shopModel.api.registry.message? ".people.Customer").any (fun m => m.fields.any fun f =>
      f.kind.referencesType && f.typeId = some ".people.Address") = true := by
    decide +kernel
  obtain ⟨m, hm, h⟩ := (Option.any_eq_true ..).1 h
  simp only [Bool.and_eq_true, List.any_eq_true, decide_eq_true_eq] at h
  exact ⟨m, hm, h⟩

/-- The build succeeds, since the message of the other file is not checked. -/
theorem buildApi_shopSet : buildApi shopSet shopRequest = .ok shopModel := by
  have hmessages : shopModel.api.messages = [".shop.Order"] := by decide +kernel
  obtain ⟨order, horder, hnested, hnone, -⟩ := exists_order
  refine buildApi_eq_ok_iff.2 ⟨shopSet.files.take 1, _, rfl, Prod.ext rfl rfl, ?_, rfl⟩
  refine Registry.checkFrom_eq_ok_iff.2 fun id hid m hm => ?_
  -- The order is the only message that is listed, and it has none inside it.
  have hid' : id = ".shop.Order" := by
    refine @Registry.Within.of_closed _ _ (· = ".shop.Order") (fun i hi =>
      ?_) (fun i n hi hin j hj => ?_) id hid
    · rw [List.mem_reverse] at hi
      exact List.mem_singleton.1 (hmessages ▸ hi)
    · subst hi
      obtain rfl := Option.some.inj (horder.symm.trans hin)
      rw [hnested] at hj
      nomatch hj
  subst hid'
  obtain rfl := Option.some.inj (horder.symm.trans hm)
  exact hnone

/-- The message to generate has the type that its field names. -/
theorem shopModel_resolved : buildApi shopSet shopRequest = .ok shopModel ∧
    shopModel.api.registry.Within shopModel.api.messages ".shop.Order" ∧
    ∃ m, shopModel.api.registry.message? ".shop.Order" = some m ∧
      m.Resolved shopModel.api.registry := by
  obtain ⟨m, hm, -⟩ := exists_order
  have hwithin : shopModel.api.registry.Within shopModel.api.messages ".shop.Order" :=
    .root (by decide +kernel)
  exact ⟨buildApi_shopSet, hwithin, m, hm,
    message_resolved_of_buildApi shopSet shopRequest shopModel buildApi_shopSet _ hwithin m hm⟩

/-! ### Beyond what is generated -/

/-- The messages that follow from some messages: those inside them and those that their fields
    name. -/
inductive Registry.Reaches (r : Registry) (roots : List String) : String → Prop where
  | root {id : String} (h : id ∈ roots) : Reaches r roots id
  | inside {outer id : String} {m : Message} (h : Reaches r roots outer)
      (hm : r.message? outer = some m) (hi : id ∈ m.messages) : Reaches r roots id
  | field {outer id : String} {m : Message} {f : Field} (h : Reaches r roots outer)
      (hm : r.message? outer = some m)
      (hf : f ∈ m.fields) (ht : f.typeId = some id) : Reaches r roots id

/-- A build may succeed although fields lead to a message whose own fields lead nowhere. -/
theorem exists_unresolved_reaches :
    ¬ ∀ (set : DescriptorSet) (options : BuildOptions) (b : ApiBuild),
      buildApi set options = .ok b →
      ∀ id, b.api.registry.Reaches b.api.messages id → ∀ m, b.api.registry.message? id = some m →
        m.Resolved b.api.registry := by
  intro h
  obtain ⟨order, horder, -, -, f, hf, hft⟩ := exists_order
  obtain ⟨customer, hcustomer, g, hg, hkind, hgt⟩ := exists_customer
  have hreach : shopModel.api.registry.Reaches shopModel.api.messages ".people.Customer" :=
    .field (.root (by decide +kernel)) horder hf hft
  obtain ⟨id, hid, hresolved⟩ := h _ _ _ buildApi_shopSet _ hreach customer hcustomer g hg hkind
  rw [hgt, Option.some.injEq] at hid
  have haddress : shopModel.api.registry.resolvesType ".people.Address" = false := by decide +kernel
  rw [← hid, haddress] at hresolved
  nomatch hresolved

end ProtoApi
