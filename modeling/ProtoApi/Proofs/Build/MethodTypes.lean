import ProtoApi.Proofs.Build.Origin

namespace ProtoApi

/-!
# The types that methods name

A build drops a method whose request is not a registered message, or whose response is neither a
registered message nor a registered enum. What a method says about the operation that it starts is
taken as it is declared.

* `IsQualified` — a type is named from the root, or there is none;
* `Method.ChecksTypes` — what is known of the types that a method names;
* `checksTypes_of_buildApi` — it holds of all methods of a model;
* `exists_unregistered_type` — an operation may give a type that is not registered.
-/

/-- A name is empty, or it begins with a dot. -/
def IsQualified (name : String) : Prop := name = "" ∨ name.toList.head? = some '.'

/-- A type is qualified by a dot in front, whether it is given with its package or without, or it is
    empty. -/
theorem isQualified_qualifiedType (package name : String) :
    IsQualified (qualifiedType package name) := by
  have hdot : ∀ rest : String, IsQualified ("." ++ rest) := fun rest =>
    Or.inr (by rw [String.toList_append]; rfl)
  unfold qualifiedType
  split
  · exact Or.inl rfl
  · next rest hname => exact Or.inr (by rw [hname]; rfl)
  · split
    · exact hdot name
    · rw [String.append_assoc, String.append_assoc]
      exact hdot _

/-- The types of an operation are named from the root. -/
theorem isQualified_operationInfo? {package : String} {options : Option Options}
    {info : OperationInfo} (h : operationInfo? package options = some info) :
    IsQualified info.metadataType ∧ IsQualified info.responseType := by
  unfold operationInfo? at h
  split at h
  · cases h
    exact ⟨isQualified_qualifiedType _ _, isQualified_qualifiedType _ _⟩
  · nomatch h

/-- What is known of the types that a method names, where it comes from a declaration in a
    package. -/
structure Method.ChecksTypes (m : Method) (r : Registry) (decl : MethodDecl) (package : String) :
    Prop where
  inputType : m.inputType = decl.inputType
  outputType : m.outputType = decl.outputType
  /-- The request is a registered message. -/
  input : r.messages.contains m.inputType = true
  /-- The response is a registered message or enum. -/
  output : r.resolvesType m.outputType = true
  /-- The types of an operation are those of the declaration, registered or not. -/
  operationInfo : m.operationInfo
    = if m.outputType = operationType then operationInfo? package decl.options? else none
  qualified : ∀ info, m.operationInfo = some info → IsQualified info.metadataType ∧
      IsQualified info.responseType

/-- What a method is built from says which of its types have been looked up. -/
theorem Method.BuiltFrom.checksTypes {m : Method} {r : Registry} {decl : MethodDecl}
    {package : String} (h : m.BuiltFrom r decl package) : m.ChecksTypes r decl package := by
  obtain ⟨binding, routing, hm⟩ := h.bound
  have hinfo : m.operationInfo
      = if m.outputType = operationType then operationInfo? package decl.options? else none := by
    rw [← hm]
    rfl
  constructor
  case inputType => rw [← hm]; rfl
  case outputType => rw [← hm]; rfl
  case input => rw [← hm]; exact h.input
  case output => rw [← hm]; exact h.output
  case operationInfo => exact hinfo
  -- The names are there only if the method starts an operation, and then they have been qualified.
  case qualified =>
    intro info hi
    rw [hinfo] at hi
    split at hi
    · exact isQualified_operationInfo? hi
    · nomatch hi

/-- Each method of a model comes from a declaration, native or of a mixin. Its request and its
    response are registered, and what it says about operations is what is declared. -/
theorem checksTypes_of_buildApi {set : DescriptorSet} {options : BuildOptions}
    {targets : List FileDecl} (ht : set.targets options.files = .ok targets) {b : ApiBuild}
    (hb : buildApi set options = .ok b) {id : String} {m : Method}
    (hm : b.api.registry.method? id = some m) :
    ∃ decl package, (set.preparation options targets).Declares options.config? decl package ∧
      m.ChecksTypes b.api.registry decl package := by
  obtain ⟨ctx, hregister, rfl⟩ := exists_registered_of_buildApi ht hb
  obtain ⟨decl, package, hdecl, hbuilt⟩ := Preparation.exists_builtFrom_of_model hregister hm
  exact ⟨decl, package, hdecl, hbuilt.checksTypes⟩

/-- A service with a method that starts an operation and says that a message comes of it, and a
    method whose response is an enum. -/
def tasksFile : FileDecl where
  name? := "tasks.proto"
  package? := "tasks"
  services := [
    { name? := "Tasks"
      methods := [
        { name? := "Start"
          inputType? := ".tasks.Request"
          outputType? := operationType
          options? := some (Table.ofList [
            ("[google.api.http]", .object [("post", .string "/v1/tasks")]),
            ("[google.longrunning.operation_info]", .object [("responseType", .string "Task")])]) },
        { name? := "Poll"
          inputType? := ".tasks.Request"
          outputType? := ".tasks.State"
          options? := Mixin.bound [("get", .string "/v1/tasks")] }] }]

/-- The file with its request and the enum, but without the message. -/
def tasksSet : DescriptorSet where
  files := [
    { name? := "google/longrunning/operations.proto"
      package? := "google.longrunning"
      messages := [{ name? := "Operation" }] },
    { name? := "request.proto"
      package? := "tasks"
      messages := [{ name? := "Request" }]
      enums := [{ name? := "State" }] },
    tasksFile]

def tasksRequest : BuildOptions where
  files := ["tasks.proto"]
  bundledMixins := false

theorem buildApi_tasksSet :
    buildApi tasksSet tasksRequest = .ok (tasksSet.outcome tasksRequest [tasksFile]) :=
  buildApi_of_no_messages rfl (by decide +kernel) (by simp [tasksFile])

/-- Both methods are in the model, but neither of the types that they name is a registered
    message. -/
theorem exists_start_poll : ∃ start poll,
    (tasksSet.outcome tasksRequest [tasksFile]).api.registry.method? ".tasks.Tasks.Start"
      = some start ∧
    (tasksSet.outcome tasksRequest [tasksFile]).api.registry.method? ".tasks.Tasks.Poll"
      = some poll ∧
    start.operationInfo = some { responseType := ".tasks.Task" } ∧
      poll.outputType = ".tasks.State" ∧
    (tasksSet.outcome tasksRequest [tasksFile]).api.registry.messages.contains ".tasks.Task"
      = false ∧
    (tasksSet.outcome tasksRequest [tasksFile]).api.registry.messages.contains ".tasks.State"
      = false := by
  have h : (let r := (tasksSet.outcome tasksRequest [tasksFile]).api.registry
      (r.method? ".tasks.Tasks.Start").any (·.operationInfo
        = some { responseType := ".tasks.Task" }) &&
        (r.method? ".tasks.Tasks.Poll").any (·.outputType = ".tasks.State") &&
        !r.messages.contains ".tasks.Task" && !r.messages.contains ".tasks.State") = true := by
    decide +kernel
  simp only [Bool.and_eq_true, Option.any_eq_true, decide_eq_true_eq, Bool.not_eq_true'] at h
  obtain ⟨⟨⟨⟨start, hstart, hinfo⟩, poll, hpoll, houtput⟩, htask⟩, hstate⟩ := h
  exact ⟨start, poll, hstart, hpoll, hinfo, houtput, htask, hstate⟩

/-- The types of both methods are checked as far as they are. -/
theorem tasks_checksTypes : tasksSet.targets tasksRequest.files = .ok [tasksFile] ∧
    buildApi tasksSet tasksRequest = .ok (tasksSet.outcome tasksRequest [tasksFile]) ∧
    ∀ id ∈ [".tasks.Tasks.Start", ".tasks.Tasks.Poll"],
      ∃ m, (tasksSet.outcome tasksRequest [tasksFile]).api.registry.method? id = some m ∧
        ∃ decl package, (tasksSet.preparation tasksRequest [tasksFile]).Declares none decl package ∧
          m.ChecksTypes (tasksSet.outcome tasksRequest [tasksFile]).api.registry decl package := by
  obtain ⟨start, poll, hstart, hpoll, -⟩ := exists_start_poll
  refine ⟨rfl, buildApi_tasksSet, fun id hid => ?_⟩
  simp only [List.mem_cons, List.not_mem_nil, or_false] at hid
  rcases hid with rfl | rfl
  · exact ⟨start, hstart, checksTypes_of_buildApi rfl buildApi_tasksSet hstart⟩
  · exact ⟨poll, hpoll, checksTypes_of_buildApi rfl buildApi_tasksSet hpoll⟩

/-- The operation that a method of a model starts may end with a message that is not registered. -/
theorem exists_unregistered_type :
    ¬ ∀ (set : DescriptorSet) (options : BuildOptions) (b : ApiBuild),
      buildApi set options = .ok b →
      ∀ id m, b.api.registry.method? id = some m →
        b.api.registry.messages.contains m.inputType = true ∧
          b.api.registry.messages.contains m.outputType = true ∧
          ∀ info, m.operationInfo = some info →
            (info.metadataType ≠ "" → b.api.registry.messages.contains info.metadataType = true) ∧
              (info.responseType ≠ "" → b.api.registry.messages.contains info.responseType
                = true) := by
  intro h
  obtain ⟨start, -, hstart, -, hinfo, -, htask, -⟩ := exists_start_poll
  obtain ⟨-, -, hoperation⟩ := h _ _ _ buildApi_tasksSet _ start hstart
  have hregistered := (hoperation _ hinfo).2 (by decide)
  exact Bool.false_ne_true (htask.symm.trans hregistered)

end ProtoApi
