import ProtoApi.Proofs.Build.AutoPopulation
import ProtoApi.Proofs.Build.Documentation
import ProtoApi.Proofs.Build.Pagination

namespace ProtoApi

/-!
# The finishing steps of a build

When all entities are registered, three steps write into them: comments, the marks of list methods,
and the marks of fields that clients fill in. Each of them writes parts that no other one reads or
writes. So they may be taken in any order, and taking one of them again changes nothing.

* `Absorbing` — steps of which a later one undoes an earlier one of the same key, while steps of
  different keys may be taken in either order; a list of them that is followed again changes
  nothing, `Absorbing.foldl_foldl`;
* `Finishing`, `Finishing.run` — the finishing steps; `Finishing.change` is what they do to a
  registry;
* `Finishing.erase` — a registry without what a step writes. `erase_change_self` says that the step
  writes nothing else, `erase_change` that no other step reads or writes it, and `eq_of_erase` that
  no two steps write the same;
* `Finishing.change_comm`, `Finishing.change_change` — the steps may be taken in either order, and
  again;
* `finishing_any_order` — so they may be taken in any order and any number of times.
-/

/-! ### Steps that undo one another -/

/-- Of two steps of one key the later one stays, and steps of different keys may be taken in either
    order. -/
structure Absorbing {α ι κ : Type} (step : α → ι → α) (key : ι → κ) : Prop where
  absorbs : ∀ a i j, key i = key j → step (step a i) j = step a j
  comm : ∀ a i j, key i ≠ key j → step (step a i) j = step (step a j) i

namespace Absorbing

variable {α ι κ : Type} {step : α → ι → α} {key : ι → κ} (h : Absorbing step key)
include h

/-- A step makes no difference if one of its key follows. -/
theorem foldl_step {i : ι} {l : List ι} (hi : ∃ j ∈ l, key j = key i) (a : α) :
    l.foldl step (step a i) = l.foldl step a := by
  induction l generalizing a with
  | nil =>
    obtain ⟨j, hj, -⟩ := hi
    exact absurd hj List.not_mem_nil
  | cons j rest ih =>
    rw [List.foldl_cons, List.foldl_cons]
    by_cases hj : key i = key j
    · rw [h.absorbs a i j hj]
    · -- It is taken behind the first one, and the one of its key comes later.
      obtain ⟨k, hk, hkey⟩ := hi
      rcases List.mem_cons.1 hk with rfl | hk
      · exact absurd hkey.symm hj
      · rw [h.comm a i j hj, ih ⟨k, hk, hkey⟩]

/-- Steps make no difference if one of each key follows. -/
theorem foldl_foldl {l l' : List ι} (hl : ∀ i ∈ l, ∃ j ∈ l', key j = key i) (a : α) :
    l'.foldl step (l.foldl step a) = l'.foldl step a := by
  induction l generalizing a with
  | nil => rfl
  | cons i rest ih =>
    rw [List.foldl_cons, ih fun k hk => hl k (List.mem_cons_of_mem i hk),
      h.foldl_step (hl i List.mem_cons_self)]

end Absorbing

/-- Steps that may be taken in either order, and again, depend on nothing but which of them are
    taken. -/
theorem foldl_eq_of_mem_iff {α ι : Type} {step : α → ι → α}
    (comm : ∀ a i j, step (step a i) j = step (step a j) i)
    (again : ∀ a i, step (step a i) i = step a i) {l l' : List ι} (h : ∀ i, i ∈ l ↔ i ∈ l')
    (a : α) : l.foldl step a = l'.foldl step a := by
  have habs : Absorbing step id := {
    absorbs := fun a i j hij => by rw [show i = j from hij, again]
    comm := fun a i j _ => comm a i j }
  have hl : l'.foldl step (l.foldl step a) = l'.foldl step a :=
    habs.foldl_foldl (fun i hi => ⟨i, (h i).1 hi, rfl⟩) a
  have hl' : l.foldl step (l'.foldl step a) = l.foldl step a :=
    habs.foldl_foldl (fun i hi => ⟨i, (h i).2 hi, rfl⟩) a
  -- Both lists one after the other may be followed the other way round.
  have hboth : (l ++ l').foldl step a = (l' ++ l).foldl step a :=
    List.perm_append_comm.foldl_eq' (fun i _ j _ a => comm a i j) a
  rw [List.foldl_append, List.foldl_append, hl, hl'] at hboth
  exact hboth.symm

/-- Changes of the entries of a table, of which a later one undoes an earlier one of the same
    entry. -/
theorem Table.absorbing_modify {α ι : Type} {key : ι → String} {f : ι → α → α}
    (h : ∀ i j a, f j (f i a) = f j a) :
    Absorbing (fun (t : Table α) i => t.modify (key i) (f i)) key where
  absorbs t i j hij := by
    rw [hij, modify_modify, show f j ∘ f i = f j from funext (h i j)]
  comm t _ _ hij := modify_comm t _ _ hij

/-! ### The steps -/

/-- A step that writes into the entities of a registry when all of them are there. -/
inductive Finishing where
  /-- Comments become documentation. -/
  | comments
  /-- List methods and their responses are marked. -/
  | pages
  /-- Fields that clients fill in are marked. -/
  | fields
deriving DecidableEq

/-- What the steps are given besides the registry. -/
structure FinishingInput where
  file : FileDecl := {}
  config? : Option ServiceConfig := none
  uuid4Fields : NameSet := Table.empty

namespace Finishing

/-- Takes a step. -/
def run (input : FinishingInput) (ctx : Context) : Finishing → Context
  | comments => attachComments ctx input.file
  | pages => ctx.mapRegistry Registry.markPageable
  | fields => ctx.mapRegistry fun r => r.markAutoPopulated input.config? input.uuid4Fields

/-- What a step does to a registry. -/
def change (input : FinishingInput) (r : Registry) : Finishing → Registry
  | comments => r.withDocumentation input.file.documented
  | pages => r.markPageable
  | fields => r.markAutoPopulated input.config? input.uuid4Fields

/-- Nothing but the registry matters to a step. -/
theorem registry_run (input : FinishingInput) (ctx : Context) (p : Finishing) :
    (p.run input ctx).registry = p.change input ctx.registry := by
  cases p with
  | comments => rw [run, attachComments_eq, change]
  | pages => rfl
  | fields => rfl

/-- Steps one after the other do to the registry what their changes do to it. -/
theorem registry_foldl_run (input : FinishingInput) (ctx : Context) (steps : List Finishing) :
    (steps.foldl (run input) ctx).registry = steps.foldl (change input) ctx.registry :=
  (List.foldl_hom Context.registry fun ctx p => (registry_run input ctx p).symm).symm

/-! ### What a step writes -/

/-- A field without what a step writes. -/
def eraseField : Finishing → Field → Field
  | comments, f => { f with documentation := "" }
  | pages, f => f
  | fields, f => { f with autoPopulated := false }

/-- A message without what a step writes. -/
def eraseMessage : Finishing → Message → Message
  | comments, m => {
      m with
      documentation := ""
      fields := m.fields.map comments.eraseField
      oneOfs := m.oneOfs.map fun o => { o with documentation := "" } }
  | pages, m => { m with isPageableResponse := false, pageableItem := none }
  | fields, m => { m with fields := m.fields.map fields.eraseField }

/-- An enum without what a step writes. -/
def eraseEnum : Finishing → EnumType → EnumType
  | comments, e =>
    { e with documentation := "", values := e.values.map fun v => { v with documentation := "" } }
  | pages, e => e
  | fields, e => e

/-- A service without what a step writes. -/
def eraseService : Finishing → Service → Service
  | comments, s => { s with documentation := "" }
  | pages, s => s
  | fields, s => s

/-- A method without what a step writes. -/
def eraseMethod : Finishing → Method → Method
  | comments, m => { m with documentation := "" }
  | pages, m => { m with pageable := false }
  | fields, m => m

/-- A registry without what a step writes. -/
def erase (p : Finishing) (r : Registry) : Registry where
  services := r.services.map p.eraseService
  methods := r.methods.map p.eraseMethod
  messages := r.messages.map p.eraseMessage
  enums := r.enums.map p.eraseEnum

/-! ### What is left of a registry -/

section Reads

variable (p : Finishing) (r : Registry)

@[simp] theorem id_eraseMethod (m : Method) : (p.eraseMethod m).id = m.id := by cases p <;> rfl

@[simp] theorem inputType_eraseMethod (m : Method) : (p.eraseMethod m).inputType = m.inputType := by
  cases p <;> rfl

@[simp] theorem outputType_eraseMethod (m : Method) :
    (p.eraseMethod m).outputType = m.outputType := by cases p <;> rfl

@[simp] theorem id_eraseMessage (m : Message) : (p.eraseMessage m).id = m.id := by cases p <;> rfl

/-- The fields of a message lose what a step writes one by one. -/
theorem fields_eraseMessage (m : Message) :
    (p.eraseMessage m).fields = m.fields.map p.eraseField := by
  cases p with
  | comments => rfl
  | pages => exact (List.map_id' m.fields).symm
  | fields => rfl

/-- What is under an id loses what the step writes, and nothing else. -/
theorem message?_erase (id : String) :
    (p.erase r).message? id = (r.message? id).map p.eraseMessage :=
  Table.get?_map p.eraseMessage r.messages id

/-- An enum is looked up as it is, with the texts of the pass erased. -/
theorem enum?_erase (id : String) : (p.erase r).enum? id = (r.enum? id).map p.eraseEnum :=
  Table.get?_map p.eraseEnum r.enums id

theorem service?_erase (id : String) :
    (p.erase r).service? id = (r.service? id).map p.eraseService :=
  Table.get?_map p.eraseService r.services id

theorem method?_erase (id : String) : (p.erase r).method? id = (r.method? id).map p.eraseMethod :=
  Table.get?_map p.eraseMethod r.methods id

/-- Whether a message has a text under a name has nothing to do with what the steps write. -/
theorem hasText_eraseMessage (m : Message) (jsonName : String) :
    (p.eraseMessage m).hasText jsonName = m.hasText jsonName := by
  unfold Message.hasText
  rw [fields_eraseMessage, List.any_map]
  cases p <;> rfl

/-- Whether two messages are those of a list call has nothing to do with what the steps write. -/
theorem pageableItem?_eraseMessage (input output : Message) :
    pageableItem? (p.eraseMessage input) (p.eraseMessage output) = pageableItem? input output := by
  unfold pageableItem?
  rw [hasText_eraseMessage, hasText_eraseMessage, fields_eraseMessage, fields_eraseMessage,
    List.any_map, List.find?_map, Option.map_map]
  cases p <;> rfl

/-- Whether a method is a list method does not depend on it either. -/
theorem pageable?_erase (m : Method) : (p.erase r).pageable? (p.eraseMethod m) = r.pageable? m := by
  unfold Registry.pageable?
  rw [message?_erase, message?_erase, inputType_eraseMethod, outputType_eraseMethod, id_eraseMethod]
  -- Only where both messages are registered there is anything to compare.
  cases r.message? m.inputType <;> cases r.message? m.outputType <;>
    simp [pageableItem?_eraseMessage]

/-- Which methods are list methods has nothing to do with what the steps write. -/
theorem pageableMethods_erase : (p.erase r).pageableMethods = r.pageableMethods := by
  unfold Registry.pageableMethods
  rw [show (p.erase r).methods.values = r.methods.values.map p.eraseMethod
      from Table.values_map _ _,
    List.filterMap_map, show (p.erase r).pageable? ∘ p.eraseMethod = r.pageable?
      from funext (pageable?_erase p r)]

end Reads

/-! ### Documentation -/

section Documentation

variable (t : DocTarget) (doc id : String)

/-- Documentation is all that a comment writes. -/
theorem eraseMessage_onMessage_self (m : Message) :
    comments.eraseMessage (t.onMessage doc id m) = comments.eraseMessage m := by
  cases t <;> simp only [DocTarget.onMessage] <;> split_ifs <;> try rfl
  all_goals
    simp only [eraseMessage]
    rw [map_modifyFirst]
    exact fun _ => rfl

/-- So it is for an enum and its values, -/
theorem eraseEnum_onEnum_self (e : EnumType) :
    comments.eraseEnum (t.onEnum doc id e) = comments.eraseEnum e := by
  cases t <;> simp only [DocTarget.onEnum] <;> split_ifs <;> try rfl
  next position _ =>
    simp only [eraseEnum]
    congr 1
    -- Only the value at the position of the comment may differ, and only in its documentation.
    refine List.ext_getElem? fun i => ?_
    rw [List.getElem?_map, List.getElem?_map, List.getElem?_modify]
    cases e.values[i]? with
    | none => rfl
    | some v => by_cases hi : position = i <;> simp [hi]

/-- for a service, -/
theorem eraseService_onService_self (s : Service) :
    comments.eraseService (t.onService doc id s) = comments.eraseService s := by
  cases t <;> simp only [DocTarget.onService]
  split_ifs <;> rfl

/-- and for a method. -/
theorem eraseMethod_onMethod_self (m : Method) :
    comments.eraseMethod (t.onMethod doc id m) = comments.eraseMethod m := by
  cases t <;> simp only [DocTarget.onMethod]
  split_ifs <;> rfl

/-- A comment writes nothing but documentation into a registry. -/
theorem erase_attach_self (r : Registry) : comments.erase (t.attach r doc) = comments.erase r := by
  -- Registries are compared by what they have under each id.
  apply Registry.ext_lookups <;> intro id
  · rw [message?_erase, DocTarget.message?_attach, Option.map_map, message?_erase]
    exact congrArg (Option.map · _) (funext (eraseMessage_onMessage_self t doc id))
  · rw [enum?_erase, DocTarget.enum?_attach, Option.map_map, enum?_erase]
    exact congrArg (Option.map · _) (funext (eraseEnum_onEnum_self t doc id))
  · rw [service?_erase, DocTarget.service?_attach, Option.map_map, service?_erase]
    exact congrArg (Option.map · _) (funext (eraseService_onService_self t doc id))
  · rw [method?_erase, DocTarget.method?_attach, Option.map_map, method?_erase]
    exact congrArg (Option.map · _) (funext (eraseMethod_onMethod_self t doc id))

variable {p : Finishing} (hp : p ≠ comments)
include hp

/-- The other steps neither read nor write documentation. -/
theorem eraseMessage_onMessage (m : Message) :
    p.eraseMessage (t.onMessage doc id m) = t.onMessage doc id (p.eraseMessage m) := by
  cases p with
  | comments => exact absurd rfl hp
  | pages => cases t <;> simp only [DocTarget.onMessage] <;> split_ifs <;> rfl
  | fields =>
    cases t <;> simp only [DocTarget.onMessage] <;> split_ifs <;> try rfl
    -- The documentation of a field stands beside its mark.
    simp only [eraseMessage]
    rw [modifyFirst_map]
    · exact fun _ => rfl
    · exact fun _ => rfl

/-- They do not touch enums at all, -/
theorem eraseEnum_onEnum (e : EnumType) :
    p.eraseEnum (t.onEnum doc id e) = t.onEnum doc id (p.eraseEnum e) := by
  cases p with
  | comments => exact absurd rfl hp
  | pages | fields => rfl

/-- nor services. -/
theorem eraseService_onService (s : Service) :
    p.eraseService (t.onService doc id s) = t.onService doc id (p.eraseService s) := by
  cases p with
  | comments => exact absurd rfl hp
  | pages | fields => rfl

/-- In a method they write a mark, beside its documentation. -/
theorem eraseMethod_onMethod (m : Method) :
    p.eraseMethod (t.onMethod doc id m) = t.onMethod doc id (p.eraseMethod m) := by
  cases p with
  | comments => exact absurd rfl hp
  | pages =>
    cases t <;> simp only [DocTarget.onMethod]
    split_ifs <;> rfl
  | fields => rfl

/-- A comment can be attached before or after anything that the other steps write is erased. -/
theorem erase_attach (r : Registry) : p.erase (t.attach r doc) = t.attach (p.erase r) doc := by
  apply Registry.ext_lookups <;> intro id
  · rw [message?_erase, DocTarget.message?_attach, DocTarget.message?_attach, message?_erase]
    exact map_map_comm (eraseMessage_onMessage t doc id hp) _
  · rw [enum?_erase, DocTarget.enum?_attach, DocTarget.enum?_attach, enum?_erase]
    exact map_map_comm (eraseEnum_onEnum t doc id hp) _
  · rw [service?_erase, DocTarget.service?_attach, DocTarget.service?_attach, service?_erase]
    exact map_map_comm (eraseService_onService t doc id hp) _
  · rw [method?_erase, DocTarget.method?_attach, DocTarget.method?_attach, method?_erase]
    exact map_map_comm (eraseMethod_onMethod t doc id hp) _

end Documentation

/-! ### Marks -/

section Marks

variable {p : Finishing} (r : Registry)

/-- The marks of a list method and its response are all that is written for it. -/
theorem erase_markMethod_self (m : PageableMethod) :
    pages.erase (r.markMethod m) = pages.erase r := by
  apply Registry.ext_lookups <;> intro id
  · rw [message?_erase, Registry.message?_markMethod, Option.map_map, message?_erase]
    refine congrArg (Option.map · _) (funext fun output => ?_)
    rw [Function.comp]
    split_ifs <;> rfl
  · rfl
  · rfl
  · rw [method?_erase, Registry.method?_markMethod, Option.map_map, method?_erase]
    rfl

/-- The other steps neither read nor write them. -/
theorem erase_markMethod (hp : p ≠ pages) (m : PageableMethod) :
    p.erase (r.markMethod m) = (p.erase r).markMethod m := by
  apply Registry.ext_lookups <;> intro id
  · rw [message?_erase, Registry.message?_markMethod, Registry.message?_markMethod, message?_erase]
    refine map_map_comm (fun output => ?_) _
    cases p with
    | pages => exact absurd rfl hp
    | comments | fields => split_ifs <;> rfl
  · rfl
  · rfl
  · rw [method?_erase, Registry.method?_markMethod, Registry.method?_markMethod, method?_erase]
    refine map_map_comm (fun method => ?_) _
    cases p with
    | pages => exact absurd rfl hp
    | comments | fields => rfl

variable (uuid4Fields : NameSet) (settings : MethodSettings)

/-- The marks of fields are all that is written for the settings of a method. -/
theorem erase_populateListed_self :
    fields.erase (r.populateListed uuid4Fields settings) = fields.erase r := by
  apply Registry.ext_lookups <;> intro id
  · rw [message?_erase, Registry.message?_populateListed, Option.map_map, message?_erase]
    refine congrArg (Option.map · _) (funext fun m => ?_)
    simp [eraseMessage, eraseField]
  all_goals
    rw [Registry.populateListed_eq]
    rfl

/-- Whether settings fill in a field depends on nothing that the steps write. -/
theorem fills_erase (id : String) (f : Field) :
    (p.erase r).fills uuid4Fields id (p.eraseField f) settings
      = r.fills uuid4Fields id f settings := by
  unfold Registry.fills
  rw [method?_erase, Option.any_map]
  cases p <;> rfl

/-- The other steps neither read nor write them. -/
theorem erase_populateListed (hp : p ≠ fields) :
    p.erase (r.populateListed uuid4Fields settings)
      = (p.erase r).populateListed uuid4Fields settings := by
  apply Registry.ext_lookups <;> intro id
  · rw [message?_erase, Registry.message?_populateListed, Registry.message?_populateListed,
      message?_erase]
    refine map_map_comm (fun m => ?_) _
    -- The condition under which the mark is set has to be the same on both sides.
    simp only [← fills_erase (p := p) r uuid4Fields settings id]
    cases p with
    | fields => exact absurd rfl hp
    | comments | pages => simp [eraseMessage, eraseField]
  all_goals
    rw [Registry.populateListed_eq, (p.erase r).populateListed_eq]
    rfl

end Marks

/-! ### Whole steps -/

section Whole

variable {p q : Finishing} (input : FinishingInput) (r : Registry)

/-- A step writes nothing else. -/
theorem erase_change_self : p.erase (p.change input r) = p.erase r := by
  cases p with
  | comments => exact r.withDocumentation_keeps comments.erase fun d _ r =>
    erase_attach_self d.1 d.2 r
  | pages =>
    refine List.foldlRecOn (motive := fun s => pages.erase s = pages.erase r) _ _ rfl
      fun s h m _ => ?_
    exact (erase_markMethod_self s m).trans h
  | fields =>
    refine List.foldlRecOn (motive := fun s => fields.erase s = fields.erase r) _ _ rfl
      fun s h settings _ => ?_
    exact (erase_populateListed_self s input.uuid4Fields settings).trans h

/-- A step makes the same of a registry without what another one writes. -/
theorem erase_change (h : p ≠ q) : p.erase (q.change input r) = q.change input (p.erase r) := by
  cases q with
  | comments => exact (List.foldl_hom p.erase fun r d => (erase_attach d.1 d.2 h r).symm).symm
  | pages =>
    unfold change Registry.markPageable
    rw [pageableMethods_erase]
    exact (List.foldl_hom p.erase fun r m => (erase_markMethod r h m).symm).symm
  | fields => exact (List.foldl_hom p.erase fun r s =>
    (erase_populateListed r input.uuid4Fields s h).symm).symm

/-! ### Two steps -/

/-- No field has anything that two steps write. -/
theorem eq_of_eraseField (h : p ≠ q) {f g : Field} (hp : p.eraseField f = p.eraseField g)
    (hq : q.eraseField f = q.eraseField g) : f = g := by
  cases f
  cases g
  cases p <;> cases q <;> simp_all [eraseField]

/-- Nor do lists of fields, which stand in the same order. -/
theorem eq_of_map_eraseField (h : p ≠ q) {l l' : List Field}
    (hp : l.map p.eraseField = l'.map p.eraseField)
    (hq : l.map q.eraseField = l'.map q.eraseField) : l = l' := by
  induction l generalizing l' with
  | nil => simpa using hp
  | cons f rest ih =>
    cases l' with
    | nil => simp at hp
    | cons g rest' =>
      obtain ⟨hf, hrest⟩ := List.cons_eq_cons.1 hp
      obtain ⟨hf', hrest'⟩ := List.cons_eq_cons.1 hq
      rw [eq_of_eraseField h hf hf', ih hrest hrest']

/-- Nor does a message have anything that two steps write, -/
theorem eq_of_eraseMessage (h : p ≠ q) (m n : Message) (hp : p.eraseMessage m = p.eraseMessage n)
    (hq : q.eraseMessage m = q.eraseMessage n) : m = n := by
  -- Two steps write into the fields of a message, and these are compared one by one.
  have hfields : m.fields = n.fields :=
    eq_of_map_eraseField h (by simpa [fields_eraseMessage] using congrArg Message.fields hp)
      (by simpa [fields_eraseMessage] using congrArg Message.fields hq)
  cases m
  cases n
  cases p <;> cases q <;> simp_all [eraseMessage]

/-- nor an enum, -/
theorem eq_of_eraseEnum (h : p ≠ q) (e e' : EnumType) (hp : p.eraseEnum e = p.eraseEnum e')
    (hq : q.eraseEnum e = q.eraseEnum e') : e = e' := by
  cases p <;> cases q <;> simp_all [eraseEnum]

/-- nor a service, -/
theorem eq_of_eraseService (h : p ≠ q) (s s' : Service) (hp : p.eraseService s = p.eraseService s')
    (hq : q.eraseService s = q.eraseService s') : s = s' := by
  cases p <;> cases q <;> simp_all [eraseService]

/-- nor a method. -/
theorem eq_of_eraseMethod (h : p ≠ q) (m m' : Method) (hp : p.eraseMethod m = p.eraseMethod m')
    (hq : q.eraseMethod m = q.eraseMethod m') : m = m' := by
  cases m
  cases m'
  cases p <;> cases q <;> simp_all [eraseMethod]

/-- Registries are the same if two different steps can write all that they differ in. -/
theorem eq_of_erase (h : p ≠ q) {r s : Registry} (hp : p.erase r = p.erase s)
    (hq : q.erase r = q.erase s) : r = s := by
  cases r
  cases s
  rw [Registry.mk.injEq]
  exact ⟨Table.eq_of_map_eq (eq_of_eraseService h) (congrArg Registry.services hp)
      (congrArg Registry.services hq),
    Table.eq_of_map_eq (eq_of_eraseMethod h) (congrArg Registry.methods hp)
      (congrArg Registry.methods hq),
    Table.eq_of_map_eq (eq_of_eraseMessage h) (congrArg Registry.messages hp)
      (congrArg Registry.messages hq),
    Table.eq_of_map_eq (eq_of_eraseEnum h) (congrArg Registry.enums hp)
      (congrArg Registry.enums hq)⟩

/-- Two steps may be taken in either order. -/
theorem change_comm (p q : Finishing) :
    q.change input (p.change input r) = p.change input (q.change input r) := by
  by_cases h : p = q
  · rw [h]
  · -- Without what the one step writes, only the other one makes a difference.
    refine eq_of_erase h ?_ ?_
    · rw [erase_change input _ h, erase_change_self, erase_change_self, erase_change input _ h]
    · rw [erase_change_self, erase_change input _ (Ne.symm h), erase_change input _ (Ne.symm h),
        erase_change_self]

/-! ### A step taken again -/

/-- The comments of a file, attached again, leave the same documentation. -/
theorem withDocumentation_withDocumentation (docs : List (DocTarget × String)) :
    (r.withDocumentation docs).withDocumentation docs = r.withDocumentation docs := by
  have habs : Absorbing (fun (r : Registry) (d : DocTarget × String) => d.1.attach r d.2)
      Prod.fst := {
    absorbs := fun r d d' hd => by rw [hd, Registry.attach_attach]
    comm := fun r d d' hd => r.attach_comm hd d.2 d'.2 }
  exact habs.foldl_foldl (fun d hd => ⟨d, hd, rfl⟩) r

/-- Marking list methods changes methods and messages, each on their own. -/
theorem foldl_markMethod (ms : List PageableMethod) :
    ms.foldl Registry.markMethod r = {
      r with
      methods := ms.foldl (fun t m => t.modify m.method fun method =>
        { method with pageable := true }) r.methods
      messages := ms.foldl (fun t m => t.modify m.output fun output =>
        { output with isPageableResponse := true, pageableItem := some m.item }) r.messages } := by
  induction ms generalizing r with
  | nil => rfl
  | cons m rest ih =>
    rw [List.foldl_cons, ih]
    rfl

/-- Of several methods with one response the last one says where it holds its items, again when they
    are marked again. -/
theorem markPageable_markPageable : r.markPageable.markPageable = r.markPageable := by
  -- The second run marks the same methods as the first one, since a mark makes no list method.
  have hmethods : r.markPageable.pageableMethods = r.pageableMethods := by
    have herase : pages.erase r.markPageable = pages.erase r := erase_change_self {} r
    rw [← pageableMethods_erase pages, herase, pageableMethods_erase]
  -- Marks of one method, or of one response, undo one another.
  have hcalls : Absorbing (fun (t : Table Method) (m : PageableMethod) =>
      t.modify m.method fun method => { method with pageable := true }) PageableMethod.method := by
    apply Table.absorbing_modify
    exact fun _ _ _ => rfl
  have hresponses :
      Absorbing (fun (t : Table Message) (m : PageableMethod) => t.modify m.output fun output =>
        { output with isPageableResponse := true, pageableItem := some m.item })
        PageableMethod.output := by
    apply Table.absorbing_modify
    exact fun _ _ _ => rfl
  rw [Registry.markPageable, hmethods, Registry.markPageable, foldl_markMethod, foldl_markMethod]
  rw [hcalls.foldl_foldl fun m hm => ⟨m, hm, rfl⟩, hresponses.foldl_foldl fun m hm => ⟨m, hm, rfl⟩]

/-- A field that settings mark is marked by them again. -/
theorem markAutoPopulated_markAutoPopulated (config? : Option ServiceConfig)
    (uuid4Fields : NameSet) :
    (r.markAutoPopulated config? uuid4Fields).markAutoPopulated config? uuid4Fields
      = r.markAutoPopulated config? uuid4Fields := by
  have hfills : (r.markAutoPopulated config? uuid4Fields).fills = r.fills := by
    rw [Registry.markAutoPopulated_eq]
    rfl
  have hmark : ∀ id (f : Field) (mark : Bool),
      r.fills uuid4Fields id { f with autoPopulated := mark } = r.fills uuid4Fields id f :=
    fun id f mark => rfl
  apply Registry.ext_lookups <;> intro id
  · simp only [Registry.message?_markAutoPopulated, Option.map_map, hfills]
    congr 1
    funext m
    simp [hmark]
  all_goals
    rw [Registry.markAutoPopulated_eq]
    rfl

/-- A step that is taken again changes nothing. -/
theorem change_change : p.change input (p.change input r) = p.change input r := by
  cases p with
  | comments => exact withDocumentation_withDocumentation r _
  | pages => exact markPageable_markPageable r
  | fields => exact markAutoPopulated_markAutoPopulated r _ _

end Whole

/-- That `s` is `r` with nothing changed but what a step writes into the entries, which stay where
    they are. -/
structure Writes (p : Finishing) (r s : Registry) : Prop where
  services : s.services.names = r.services.names
  methods : s.methods.names = r.methods.names
  messages : s.messages.names = r.messages.names
  enums : s.enums.names = r.enums.names
  rest : p.erase s = p.erase r

/-- A registry that is the same without what a step writes has its entries where they were. -/
theorem writes_of_erase_eq {p : Finishing} {r s : Registry} (h : p.erase s = p.erase r) :
    p.Writes r s := by
  have hnames : ∀ r : Registry, (p.erase r).services.names = r.services.names ∧
      (p.erase r).methods.names = r.methods.names ∧ (p.erase r).messages.names = r.messages.names ∧
      (p.erase r).enums.names = r.enums.names := fun r =>
    ⟨Table.names_map _ _, Table.names_map _ _, Table.names_map _ _, Table.names_map _ _⟩
  obtain ⟨hservices, hmethods, hmessages, henums⟩ := hnames r
  rw [← h] at hservices hmethods hmessages henums
  obtain ⟨hservices', hmethods', hmessages', henums'⟩ := hnames s
  exact {
    services := hservices'.symm.trans hservices
    methods := hmethods'.symm.trans hmethods
    messages := hmessages'.symm.trans hmessages
    enums := henums'.symm.trans henums
    rest := h }

end Finishing

/-- The finishing steps may be taken in any order and any number of times: that gives the same as
    taking each of them once, comments first and fields last. None of them moves an entry, and none
    of them reads what another one writes. -/
theorem finishing_any_order (input : FinishingInput) (ctx : Context) (steps : List Finishing)
    (hall : ∀ p, p ∈ steps) :
    (steps.foldl (Finishing.run input) ctx).registry
        = (attachComments ctx input.file).registry.markPageable.markAutoPopulated input.config?
          input.uuid4Fields ∧
      (∀ p : Finishing, p.Writes ctx.registry (p.run input ctx).registry) ∧
      ∀ p q : Finishing, p ≠ q → ∀ other : Context, p.erase ctx.registry = p.erase other.registry →
        p.erase (q.run input ctx).registry = p.erase (q.run input other).registry := by
  refine ⟨?_, fun p => ?_, fun p q hpq other hother => ?_⟩
  · -- All steps are among those taken, so that the list may be replaced by the one of the pipeline.
    have honce : steps.foldl (Finishing.change input) ctx.registry
        = [.comments, .pages, .fields].foldl (Finishing.change input) ctx.registry := by
      refine foldl_eq_of_mem_iff (fun r p q => Finishing.change_comm input r p q)
        (fun r p => Finishing.change_change input r) (fun p => ?_) _
      exact iff_of_true (hall p) (by cases p <;> decide)
    rw [Finishing.registry_foldl_run, honce, attachComments_eq]
    rfl
  · rw [Finishing.registry_run]
    exact Finishing.writes_of_erase_eq (Finishing.erase_change_self input ctx.registry)
  · rw [Finishing.registry_run, Finishing.registry_run, Finishing.erase_change input _ hpq,
      Finishing.erase_change input _ hpq, hother]

/-- A file with two comments about a message, and one about a field of it. -/
def stackFile : FileDecl := {
  package? := some "lib"
  messages := [{ name? := some "Stack", fields := [{ name? := some "page_token" }] }]
  sourceInfo? := some [
    { path := [4, 0], leadingComments? := some " Books.\n" },
    { path := [4, 0, 2, 0], leadingComments? := some " The page.\n" },
    { path := [4, 0], leadingComments? := some " Books in a row.\n" }] }

/-- A context with the message, which two methods have for their request and their response. -/
def stackContext : Context :=
  let stack : Message := {
    id := ".lib.Stack"
    fields := [
      { id := ".lib.Stack.page_token", name := "page_token", jsonName := "pageToken",
        kind := .string },
      { jsonName := "pageSize", kind := .int32 }, { jsonName := "nextPageToken", kind := .string },
      { id := ".lib.Stack.books", repeated := true }] }
  let list : Method :=
    { id := ".lib.Stacks.List", inputType := ".lib.Stack", outputType := ".lib.Stack" }
  let next : Method :=
    { id := ".lib.Stacks.Next", inputType := ".lib.Stack", outputType := ".lib.Stack" }
  { registry := ((({} : Registry).addMessage stack).addMethod list).addMethod next }

/-- Settings that list the field. -/
def stackInput : FinishingInput where
  file := stackFile
  config? := some {
    methodSettings := [{ selector := "lib.Stacks.List", autoPopulatedFields := ["page_token"] }] }
  uuid4Fields := NameSet.ofNames [".lib.Stack.page_token"]

/-- All steps write into the message, and the same whatever their order is. -/
theorem finishing_any_order_stack :
    let steps : List Finishing := [.fields, .pages, .comments, .pages, .comments]
    (∀ p, p ∈ steps) ∧
      (steps.foldl (Finishing.run stackInput) stackContext).registry
        = (attachComments stackContext stackFile).registry.markPageable.markAutoPopulated
            stackInput.config? stackInput.uuid4Fields ∧
      ((steps.foldl (Finishing.run stackInput) stackContext).registry.message? ".lib.Stack").map
          (fun m => (m.documentation, m.pageableItem,
            (m.fields.map fun f => (f.documentation, f.autoPopulated)).head?))
        = some ("Books in a row.", some ".lib.Stack.books", some ("The page.", true)) := by
  intro steps
  have hall : ∀ p, p ∈ steps := fun p => by cases p <;> decide
  obtain ⟨horder, -⟩ := finishing_any_order stackInput stackContext steps hall
  refine ⟨hall, horder, ?_⟩
  decide +kernel

end ProtoApi
