import ProtoApi.Build.Pagination
import ProtoApi.Model.Keyed
import ProtoApi.Proofs.Table

namespace ProtoApi

/-!
# Which methods and messages are marked for pagination

The list methods of a registry are all found before the first one is marked, so that no mark depends
on another one. Several of them may share a response, which they then mark alike.

* `method?_markPageable`, `message?_markPageable` — what becomes of a method and of a message;
* `Registry.IsListMethod`, `Message.FirstItem` — what makes a method a list method, and where a
  response holds its items; `pageable?_eq_some_iff` says that these are found;
* `Registry.MarksPages`, `marksPages_markPageable` — list methods and their responses are marked,
  and nothing else changes.
-/

/-! ### Marks -/

namespace Registry

/-- A method stays but for its mark. -/
theorem method?_markMethod (r : Registry) (p : PageableMethod) (id : String) :
    (r.markMethod p).method? id
      = (r.method? id).map fun m => { m with
        pageable := m.pageable || decide (p.method = id) } := by
  have hlookup : (r.markMethod p).method? id
      = (r.method? id).map fun m => if id = p.method then { m with pageable := true } else m :=
    Table.get?_modify_eq_map r.methods p.method id _
  rw [hlookup]
  congr 1
  funext m
  by_cases h : id = p.method
  · simp [h]
  · simp [h, Ne.symm h]

/-- List methods are marked as such, and methods stay otherwise. -/
theorem method?_markPageable (r : Registry) (id : String) :
    r.markPageable.method? id
      = (r.method? id).map fun m => { m with
        pageable := m.pageable || r.pageableMethods.any (·.method = id) } := by
  unfold markPageable
  -- Which methods are list methods is known before the first one is marked.
  generalize r.pageableMethods = ps
  induction ps generalizing r with
  | nil => simp
  | cons p rest ih =>
    rw [List.foldl_cons, ih, method?_markMethod, Option.map_map, List.any_cons]
    congr 1
    funext m
    simp [Bool.or_assoc]

/-- A message stays unless it is the response of the method. -/
theorem message?_markMethod (r : Registry) (p : PageableMethod) (id : String) :
    (r.markMethod p).message? id = (r.message? id).map fun m =>
      if p.output = id then { m with isPageableResponse := true, pageableItem := some p.item }
        else m := by
  have hlookup : (r.markMethod p).message? id = (r.message? id).map fun m =>
      if id = p.output then { m with isPageableResponse := true, pageableItem := some p.item }
        else m :=
    Table.get?_modify_eq_map r.messages p.output id _
  rw [hlookup]
  simp only [eq_comm]

/-- A message is marked once or several times, always with the same items, or it stays. -/
theorem message?_markPageable (r : Registry) {id item : String}
    (hitem : ∀ p ∈ r.pageableMethods, p.output = id → p.item = item) :
    r.markPageable.message? id = (r.message? id).map fun m =>
      if r.pageableMethods.any (·.output = id) then
        { m with isPageableResponse := true, pageableItem := some item }
      else m := by
  unfold markPageable
  generalize r.pageableMethods = ps at hitem ⊢
  induction ps generalizing r with
  | nil => simp
  | cons p rest ih =>
    rw [List.forall_mem_cons] at hitem
    rw [List.foldl_cons, ih _ hitem.2, message?_markMethod, Option.map_map, List.any_cons]
    congr 1
    funext m
    by_cases hp : p.output = id
    · simp [hp, hitem.1 hp]
    · simp [hp]

/-- Marks are set on methods that are there. -/
theorem names_methods_markPageable (r : Registry) :
    r.markPageable.methods.names = r.methods.names :=
  List.foldlRecOn (motive := fun s : Registry => s.methods.names = r.methods.names) _ _ rfl
    fun s h p _ =>
    (Table.names_modify s.methods p.method _).trans h

/-- So they are on messages. -/
theorem names_messages_markPageable (r : Registry) :
    r.markPageable.messages.names = r.messages.names :=
  List.foldlRecOn (motive := fun s : Registry => s.messages.names = r.messages.names) _ _ rfl
    fun s h p _ =>
    (Table.names_modify s.messages p.output _).trans h

/-- No enum is marked, and no service. -/
theorem enums_markPageable (r : Registry) : r.markPageable.enums = r.enums :=
  List.foldlRecOn (motive := fun s : Registry => s.enums = r.enums) _ _ rfl fun _ h _ _ => h

theorem services_markPageable (r : Registry) : r.markPageable.services = r.services :=
  List.foldlRecOn (motive := fun s : Registry => s.services = r.services) _ _ rfl fun _ h _ _ => h

end Registry

/-! ### List methods -/

namespace Message

/-- That a single text field of the message has a JSON name. -/
def HasToken (m : Message) (jsonName : String) : Prop :=
  ∃ f ∈ m.fields, f.jsonName = jsonName ∧ f.kind = .string ∧ f.repeated = false

/-- That a single field of the message says how many items a page has. -/
def HasPageSize (m : Message) : Prop :=
  ∃ f ∈ m.fields, (f.jsonName = "pageSize" ∨ f.jsonName = "maxResults") ∧ f.kind = .int32 ∧
    f.repeated = false

/-- That the first repeated or map field of the message has an id. -/
def FirstItem (m : Message) (item : String) : Prop :=
  ∃ before f after, m.fields = before ++ f :: after ∧ (f.repeated = true ∨ f.map = true) ∧
    (∀ g ∈ before, g.repeated = false ∧ g.map = false) ∧ f.id = item

/-- The check for a token finds one if there is one. -/
theorem hasText_eq_true_iff {m : Message} {jsonName : String} :
    m.hasText jsonName = true ↔ m.HasToken jsonName := by
  simp [hasText, HasToken]

/-- So does the check for a page size. -/
theorem any_isPageSize_iff {m : Message} :
    m.fields.any Field.isPageSize = true ↔ m.HasPageSize := by
  simp [Field.isPageSize, HasPageSize]

/-- A message has at most one first item. -/
theorem firstItem_iff {m : Message} {item : String} :
    m.FirstItem item ↔ (m.fields.find? fun f => f.repeated || f.map).map (·.id) = some item := by
  rw [Option.map_eq_some_iff]
  simp only [List.find?_eq_some_iff_append]
  constructor
  · rintro ⟨before, f, after, hfields, hf, hbefore, hid⟩
    refine ⟨f, ⟨by simpa using hf, before, after, hfields, fun g hg => ?_⟩, hid⟩
    simp [hbefore g hg]
  · rintro ⟨f, ⟨hf, before, after, hfields, hbefore⟩, hid⟩
    exact ⟨before, f, after, hfields, by simpa using hf,
      fun g hg => by simpa using hbefore g hg, hid⟩

/-- A message has a first item if any of its fields is repeated or a map. -/
theorem exists_firstItem_iff {m : Message} :
    (∃ item, m.FirstItem item) ↔ ∃ f ∈ m.fields, f.repeated = true ∨ f.map = true := by
  have hfind : (∃ f ∈ m.fields, f.repeated = true ∨ f.map = true) ↔
      (m.fields.find? fun f => f.repeated || f.map).isSome = true := by
    simp [List.find?_isSome]
  rw [hfind, Option.isSome_iff_exists]
  simp only [firstItem_iff, Option.map_eq_some_iff]
  exact ⟨fun ⟨item, f, hf, _⟩ => ⟨f, hf⟩, fun ⟨f, hf⟩ => ⟨f.id, f, hf, rfl⟩⟩

theorem FirstItem.unique {m : Message} {item item' : String} (h : m.FirstItem item)
    (h' : m.FirstItem item') : item = item' :=
  Option.some.inj ((firstItem_iff.1 h).symm.trans (firstItem_iff.1 h'))

end Message

/-- Two messages are those of a list call if the one asks for a page and the other one holds it. -/
theorem pageableItem?_eq_some_iff {input output : Message} {item : String} :
    pageableItem? input output = some item ↔
      input.HasToken "pageToken" ∧ input.HasPageSize ∧ output.HasToken "nextPageToken" ∧
      output.FirstItem item := by
  unfold pageableItem?
  split
  · next h =>
    simp only [Bool.and_eq_true, Message.hasText_eq_true_iff, Message.any_isPageSize_iff] at h
    rw [← Message.firstItem_iff]
    exact ⟨fun hitem => ⟨h.1.1, h.1.2, h.2, hitem⟩, fun hall => hall.2.2.2⟩
  · next h =>
    simp only [Bool.and_eq_true, Message.hasText_eq_true_iff, Message.any_isPageSize_iff] at h
    exact iff_of_false nofun fun hall => h ⟨⟨hall.1, hall.2.1⟩, hall.2.2.1⟩

namespace Registry

/-- That a method is called page by page: its request has a token and a page size, and its response
    has the next token and items. -/
def IsListMethod (r : Registry) (m : Method) : Prop :=
  ∃ input output, r.message? m.inputType = some input ∧ r.message? m.outputType = some output ∧
    input.HasToken "pageToken" ∧ input.HasPageSize ∧ output.HasToken "nextPageToken" ∧
    ∃ f ∈ output.fields, f.repeated = true ∨ f.map = true

variable {r : Registry}

/-- A method is found to be a list method by its request and its response, which must be
    registered. -/
theorem pageable?_eq_some_iff {m : Method} {p : PageableMethod} :
    r.pageable? m = some p ↔ ∃ input output item, r.message? m.inputType = some input ∧
      r.message? m.outputType = some output ∧ pageableItem? input output = some item ∧
      { method := m.id, output := output.id, item } = p := by
  unfold pageable?
  simp only [Option.bind_eq_bind, Option.bind_eq_some_iff, Option.pure_def, Option.some.injEq]
  constructor
  · rintro ⟨input, hinput, output, houtput, item, hitem, hp⟩
    exact ⟨input, output, item, hinput, houtput, hitem, hp⟩
  · rintro ⟨input, output, item, hinput, houtput, hitem, hp⟩
    exact ⟨input, hinput, output, houtput, item, hitem, hp⟩

/-- That is what makes it a list method. -/
theorem exists_pageable?_iff {m : Method} : (∃ p, r.pageable? m = some p) ↔ r.IsListMethod m := by
  simp only [pageable?_eq_some_iff, pageableItem?_eq_some_iff, IsListMethod,
    ← Message.exists_firstItem_iff]
  constructor
  · rintro ⟨p, input, output, item, hinput, houtput, ⟨htoken, hsize, hnext, hitem⟩, -⟩
    exact ⟨input, output, hinput, houtput, htoken, hsize, hnext, item, hitem⟩
  · rintro ⟨input, output, hinput, houtput, htoken, hsize, hnext, item, hitem⟩
    exact ⟨_, input, output, item, hinput, houtput, ⟨htoken, hsize, hnext, hitem⟩, rfl⟩

/-- The list methods that are found are those of the registry. -/
theorem mem_pageableMethods_iff {p : PageableMethod} :
    p ∈ r.pageableMethods ↔ ∃ id m, r.method? id = some m ∧ r.pageable? m = some p := by
  unfold pageableMethods Table.values
  rw [List.mem_filterMap]
  constructor
  · rintro ⟨m, hm, hp⟩
    obtain ⟨⟨id, m⟩, he, rfl⟩ := List.mem_map.1 hm
    exact ⟨id, m, Table.mem_entries_iff.1 he, hp⟩
  · rintro ⟨id, m, hm, hp⟩
    exact ⟨m, List.mem_map.2 ⟨(id, m), Table.mem_entries_iff.2 hm, rfl⟩, hp⟩

section Keyed

variable (h : r.Keyed)
include h

/-- A method is found to be a list method if it is one. -/
theorem any_method_iff {id : String} {m : Method} (hm : r.method? id = some m) :
    r.pageableMethods.any (·.method = id) = true ↔ r.IsListMethod m := by
  rw [List.any_eq_true, ← exists_pageable?_iff]
  simp only [mem_pageableMethods_iff, decide_eq_true_eq]
  constructor
  · rintro ⟨p, ⟨other, n, hn, hp⟩, rfl⟩
    -- The method that was found stands under its own id, and this is the one in question.
    have hid : p.method = other := by
      obtain ⟨-, -, -, -, -, -, rfl⟩ := pageable?_eq_some_iff.1 hp
      exact h.methods other n hn
    rw [hid, hn, Option.some.injEq] at hm
    exact ⟨p, hm ▸ hp⟩
  · rintro ⟨p, hp⟩
    refine ⟨p, ⟨id, m, hm, hp⟩, ?_⟩
    obtain ⟨-, -, -, -, -, -, rfl⟩ := pageable?_eq_some_iff.1 hp
    exact h.methods id m hm

/-- A message is found to be a response if a list method has it for its output. -/
theorem any_output_iff {id : String} :
    r.pageableMethods.any (·.output = id) = true ↔
      ∃ other n, r.method? other = some n ∧ r.IsListMethod n ∧ n.outputType = id := by
  rw [List.any_eq_true]
  simp only [mem_pageableMethods_iff, decide_eq_true_eq, ← exists_pageable?_iff]
  constructor
  · rintro ⟨p, ⟨other, n, hn, hp⟩, rfl⟩
    refine ⟨other, n, hn, ⟨p, hp⟩, ?_⟩
    obtain ⟨-, output, -, -, houtput, -, rfl⟩ := pageable?_eq_some_iff.1 hp
    exact (h.messages _ output houtput).symm
  · rintro ⟨other, n, hn, ⟨p, hp⟩, rfl⟩
    refine ⟨p, ⟨other, n, hn, hp⟩, ?_⟩
    obtain ⟨-, output, -, -, houtput, -, rfl⟩ := pageable?_eq_some_iff.1 hp
    exact h.messages _ output houtput

/-- What is found to hold the items of a response is its first item, whichever list method it is
    found for. -/
theorem firstItem_of_mem_pageableMethods {p : PageableMethod} (hp : p ∈ r.pageableMethods)
    {m : Message} (hm : r.message? p.output = some m) : m.FirstItem p.item := by
  obtain ⟨id, n, -, hp⟩ := mem_pageableMethods_iff.1 hp
  obtain ⟨input, output, item, -, houtput, hitem, rfl⟩ := pageable?_eq_some_iff.1 hp
  rw [h.messages _ output houtput] at hm
  obtain rfl := Option.some.inj (houtput.symm.trans hm)
  exact (pageableItem?_eq_some_iff.1 hitem).2.2.2

end Keyed

/-! ### The registry afterwards -/

/-- `s` is `r` with its list methods and their responses marked. -/
structure MarksPages (r s : Registry) : Prop where
  services : s.services = r.services
  enums : s.enums = r.enums
  methodNames : s.methods.names = r.methods.names
  messageNames : s.messages.names = r.messages.names
  /-- A method is marked if it is a list method, and stays otherwise. -/
  method : ∀ id m, r.method? id = some m → ∃ m', s.method? id = some m' ∧
    { m with pageable := m'.pageable } = m' ∧ (m'.pageable = true ↔ r.IsListMethod m)
  /-- A message is marked if a marked method has it for its output, with its first item, and stays
      otherwise. -/
  message : ∀ id m, r.message? id = some m → ∃ m', s.message? id = some m' ∧
    { m with isPageableResponse := m'.isPageableResponse, pageableItem := m'.pageableItem } = m' ∧
    (m'.isPageableResponse = true ↔
      ∃ other n, s.method? other = some n ∧ n.pageable = true ∧ n.outputType = id) ∧
    (m'.isPageableResponse = true → ∃ item, m'.pageableItem = some item ∧ m.FirstItem item) ∧
    (m'.isPageableResponse = false → m'.pageableItem = m.pageableItem)

/-- Where every entity stands under its own id and none is marked yet, exactly the list methods are
    marked, and the messages that they respond with. -/
theorem marksPages_markPageable (r : Registry) (hkeyed : r.Keyed)
    (hmethods : ∀ id m, r.method? id = some m → m.pageable = false)
    (hmessages : ∀ id m, r.message? id = some m → m.isPageableResponse = false) :
    r.MarksPages r.markPageable := by
  have hmethod : ∀ id m, r.method? id = some m → ∃ m', r.markPageable.method? id = some m' ∧
      { m with pageable := m'.pageable } = m' ∧ (m'.pageable = true ↔ r.IsListMethod m) := by
    intro id m hm
    refine ⟨_, by rw [method?_markPageable, hm, Option.map_some], rfl, ?_⟩
    rw [hmethods id m hm, Bool.false_or, any_method_iff hkeyed hm]
  -- A marked method is a list method of the registry before, with the same output.
  have hresponse : ∀ id, r.pageableMethods.any (·.output = id) = true ↔
      ∃ other n, r.markPageable.method? other = some n ∧ n.pageable = true ∧ n.outputType = id := by
    intro id
    rw [any_output_iff hkeyed]
    constructor
    · rintro ⟨other, n, hn, hlist, rfl⟩
      obtain ⟨n', hn', hsame, hmark⟩ := hmethod other n hn
      exact ⟨other, n', hn', hmark.2 hlist, by rw [← hsame]⟩
    · rintro ⟨other, n', hn', hmark, rfl⟩
      -- The marked method stood in the registry before, under the same id and with the same types.
      rw [method?_markPageable] at hn'
      obtain ⟨n, hn, -⟩ := Option.map_eq_some_iff.1 hn'
      obtain ⟨n'', hn'', hsame, hlist⟩ := hmethod other n hn
      rw [method?_markPageable, hn'] at hn''
      obtain rfl := Option.some.inj hn''
      exact ⟨other, n, hn, hlist.1 hmark, by rw [← hsame]⟩
  refine {
    services := services_markPageable r
    enums := enums_markPageable r
    methodNames := names_methods_markPageable r
    messageNames := names_messages_markPageable r
    method := hmethod
    message := fun id m hm => ?_ }
  cases hany : r.pageableMethods.any (·.output = id) with
  | false =>
    -- No list method has this response, so that nothing is marked here.
    have hnone : ∀ p ∈ r.pageableMethods, p.output = id → p.item = "" := fun p hp hid =>
      absurd (decide_eq_true hid) (by simpa using List.any_eq_false.1 hany p hp)
    have hm' : r.markPageable.message? id = some m := by
      rw [message?_markPageable r hnone, hm, Option.map_some, hany]
      rfl
    refine ⟨m, hm', rfl, ?_, fun hmark => ?_, fun _ => rfl⟩
    · rw [← hresponse, hany, hmessages id m hm]
    · rw [hmessages id m hm] at hmark
      nomatch hmark
  | true =>
    -- All list methods with this response agree about its first item.
    obtain ⟨p, hp, hid⟩ := List.any_eq_true.1 hany
    obtain rfl : p.output = id := of_decide_eq_true hid
    have hfirst := firstItem_of_mem_pageableMethods hkeyed hp hm
    have hitem : ∀ q ∈ r.pageableMethods, q.output = p.output → q.item = p.item := fun q hq hout =>
      (firstItem_of_mem_pageableMethods hkeyed hq (hout ▸ hm)).unique hfirst
    have hm' : r.markPageable.message? p.output
        = some { m with isPageableResponse := true, pageableItem := some p.item } := by
      rw [message?_markPageable r hitem, hm, Option.map_some, hany]
      rfl
    refine ⟨_, hm', rfl, ?_, fun _ => ⟨p.item, rfl, hfirst⟩, nofun⟩
    rw [← hresponse, hany]

end Registry

/-- Two list methods with one response, which is the request of one of them, and a method that lists
    nothing. -/
def browsing : Registry :=
  let query : Message := {
    id := ".lib.Query"
    fields := [{ jsonName := "pageToken", kind := .string },
      { jsonName := "maxResults", kind := .int32 }] }
  let page : Message := {
    id := ".lib.Page"
    fields := [{ jsonName := "pageToken", kind := .string },
      { jsonName := "pageSize", kind := .int32 },
      { id := ".lib.Page.labels", map := true }, { id := ".lib.Page.books", repeated := true },
      { jsonName := "nextPageToken", kind := .string }] }
  let list : Method :=
    { id := ".lib.Books.List", inputType := ".lib.Query", outputType := ".lib.Page" }
  let next : Method :=
    { id := ".lib.Books.Next", inputType := ".lib.Page", outputType := ".lib.Page" }
  let get : Method :=
    { id := ".lib.Books.Get", inputType := ".lib.Query", outputType := ".lib.Query" }
  ((((({} : Registry).addMessage query).addMessage page).addMethod list).addMethod next).addMethod
    get

/-- The response is marked once, with the first of its items. -/
theorem marksPages_browsing :
    browsing.Keyed ∧ (∀ id m, browsing.method? id = some m → m.pageable = false) ∧
      (∀ id m, browsing.message? id = some m → m.isPageableResponse = false) ∧
      browsing.MarksPages browsing.markPageable ∧
      (browsing.markPageable.methods.values.filter (·.pageable)).map (·.id)
        = [".lib.Books.List", ".lib.Books.Next"] ∧
      (browsing.markPageable.message? ".lib.Page").map (·.pageableItem)
        = some (some ".lib.Page.labels") := by
  have hkeyed : browsing.Keyed :=
    Registry.keyed_addMethod (Registry.keyed_addMethod (Registry.keyed_addMethod
      (Registry.keyed_addMessage
        (Registry.keyed_addMessage Registry.keyed_empty _) _) _) _) _
  have hmethods : ∀ id m, browsing.method? id = some m → m.pageable = false := by
    have hall : ∀ e ∈ browsing.methods.entries, e.2.pageable = false := by decide +kernel
    exact fun id m hm => hall (id, m) (Table.mem_entries_iff.2 hm)
  have hmessages : ∀ id m, browsing.message? id = some m → m.isPageableResponse = false := by
    have hall : ∀ e ∈ browsing.messages.entries, e.2.isPageableResponse = false := by decide +kernel
    exact fun id m hm => hall (id, m) (Table.mem_entries_iff.2 hm)
  exact ⟨hkeyed, hmethods, hmessages,
    Registry.marksPages_markPageable browsing hkeyed hmethods hmessages,
    by decide +kernel, by decide +kernel⟩

end ProtoApi
