import ProtoApi.Proofs.Build.LastDeclaration
import ProtoApi.Proofs.Build.WellFormed

namespace ProtoApi

/-!
# What becomes of the methods that a service declares

While the methods of a service are built one after the other, those that are built are registered
already. No method is looked up for the next one, so that each has the outcome that it would have by
itself.

* `FileDecl.outcome`, `FileDecl.outcomes` — a method, or the diagnostic that tells why it is left
  out, for each method of a service in the order of the declarations;
* `builtOf`, `skippedOf` — what has been built, and what has been left out, and
  `count_builtOf_add_countP_skippedOf`: each declaration is found in one of the two;
* `ServiceConfig.IsBackendAddress`, `hostOverride?_eq_some_iff` — the backend address of a method;
* `Context.AddsService` — a context with a service and its methods, and
  `addsService_processService`: this is what building a service leads to.
-/

/-! ### Outcomes -/

/-- What becomes of a method of a service where the types of `r` are registered. -/
def FileDecl.outcome (r : Registry) (f : FileDecl) (s : ServiceDecl) (decl : MethodDecl) :
    Except Diagnostic Method :=
  (buildMethod r decl (childId (f.serviceId s) decl.name) f.package none).mapError
    (dropped (childId (f.serviceId s) decl.name))

/-- What becomes of all methods of a service. -/
def FileDecl.outcomes (r : Registry) (f : FileDecl) (s : ServiceDecl) :
    List (Except Diagnostic Method) :=
  s.methods.map (f.outcome r s)

/-- The methods that have been built. -/
def builtOf (outcomes : List (Except Diagnostic Method)) : List Method :=
  outcomes.filterMap Except.toOption

/-- The diagnostics for those that have been left out. -/
def skippedOf (outcomes : List (Except Diagnostic Method)) : List Diagnostic :=
  outcomes.filterMap fun
    | .ok _ => none
    | .error d => some d

/-- A method with the address that a configuration gives for it. -/
def Method.hosted (config? : Option ServiceConfig) (m : Method) : Method :=
  { m with hostOverride := hostOverride? config? (selectorOf m.id) }

/-- Whether a diagnostic tells that a method has been left out. -/
def Diagnostic.drops (id : String) : Diagnostic → Bool
  | methodDropped method _ => method = id
  | _ => false

section Outcomes

variable {r : Registry} {f : FileDecl} {s : ServiceDecl} {decl : MethodDecl}

/-- An outcome bears the id of its declaration, be it that of a method or that of a report. -/
theorem outcome_cases (r : Registry) (f : FileDecl) (s : ServiceDecl) (decl : MethodDecl) :
    (∃ m, f.outcome r s decl = .ok m ∧ m.id = childId (f.serviceId s) decl.name ∧
      buildMethod r decl (childId (f.serviceId s) decl.name) f.package none = .ok m) ∨
    ∃ e, f.outcome r s decl = .error (dropped (childId (f.serviceId s) decl.name) e) ∧
      buildMethod r decl (childId (f.serviceId s) decl.name) f.package none = .error e := by
  unfold FileDecl.outcome
  cases h : buildMethod r decl (childId (f.serviceId s) decl.name) f.package none with
  | ok m => exact .inl ⟨m, rfl, id_of_buildMethod h, rfl⟩
  | error e => exact .inr ⟨e, rfl, rfl⟩

/-- A method that is built has the id of its declaration. -/
theorem id_of_mem_builtOf {m : Method} (h : m ∈ builtOf (f.outcomes r s)) :
    ∃ decl ∈ s.methods, m.id = childId (f.serviceId s) decl.name := by
  obtain ⟨outcome, houtcome, hm⟩ := List.mem_filterMap.1 h
  obtain ⟨decl, hdecl, rfl⟩ := List.mem_map.1 houtcome
  rcases outcome_cases r f s decl with ⟨m', hm', hid, -⟩ | ⟨e, he, -⟩
  · rw [hm'] at hm
    cases hm
    exact ⟨decl, hdecl, hid⟩
  · rw [he] at hm
    cases hm

/-- Of the declarations of an id, as many are built or left out as there are. -/
theorem count_builtOf_add_countP_skippedOf (r : Registry) (f : FileDecl) (s : ServiceDecl)
    (id : String) :
    ((builtOf (f.outcomes r s)).map (·.id)).count id + (skippedOf (f.outcomes r s)).countP
      (·.drops id)
      = (s.methods.map fun d => childId (f.serviceId s) d.name).count id := by
  unfold FileDecl.outcomes
  induction s.methods with
  | nil => rfl
  | cons decl rest ih =>
    unfold builtOf skippedOf at ih ⊢
    rw [List.map_cons, List.map_cons, List.count_cons, ← ih]
    rcases outcome_cases r f s decl with ⟨m, hm, hid, -⟩ | ⟨e, he, -⟩
    · rw [hm, List.filterMap_cons_some (by rfl), List.filterMap_cons_none (by rfl), List.map_cons,
        List.count_cons, hid]
      omega
    · rw [he, List.filterMap_cons_none (by rfl), List.filterMap_cons_some (by rfl),
        List.countP_cons]
      simp only [Diagnostic.drops, dropped, decide_eq_true_eq, beq_iff_eq]
      omega

/-- The methods of a service are what has been built, each with the address of its backend. -/
theorem nativeMethods_eq (config? : Option ServiceConfig) (r : Registry) (f : FileDecl)
    (s : ServiceDecl) :
    nativeMethods config? r f.package (f.serviceId s) s.methods =
      (builtOf (f.outcomes r s)).map (Method.hosted config?) := by
  unfold nativeMethods builtOf FileDecl.outcomes
  rw [List.filterMap_map, List.map_filterMap]
  refine List.filterMap_congr fun decl _ => ?_
  unfold MethodDecl.native
  rw [Function.comp_apply]
  rcases outcome_cases r f s decl with ⟨m, hm, hid, hb⟩ | ⟨e, he, hb⟩
  · rw [hm, hb, ← hid]
    rfl
  · rw [he, hb]
    rfl

/-- The diagnostics for the others are those of what has been left out. -/
theorem nativeDrops_eq (config? : Option ServiceConfig) (r : Registry) (f : FileDecl)
    (s : ServiceDecl) :
    nativeDrops config? r f.package (f.serviceId s) s.methods = skippedOf (f.outcomes r s) := by
  unfold nativeDrops skippedOf FileDecl.outcomes
  rw [List.filterMap_map]
  refine List.filterMap_congr fun decl _ => ?_
  unfold MethodDecl.native
  rw [Function.comp_apply]
  rcases outcome_cases r f s decl with ⟨m, hm, -, hb⟩ | ⟨e, he, hb⟩
  · rw [hm, hb]
    rfl
  · rw [he, hb]
    rfl

end Outcomes

/-! ### Backend addresses -/

/-- The first rule with an address among those that select a method. -/
def ServiceConfig.IsBackendAddress (c : ServiceConfig) (id address : String) : Prop :=
  ∃ before rule after, c.backendRules = before ++ rule :: after ∧ "." ++ rule.selector = id ∧
    rule.address = address ∧ address ≠ "" ∧ ∀ other ∈ before, "." ++ other.selector = id →
      other.address = ""

/-- A selector is an id without its dot. -/
theorem dot_append_eq_iff {selector name : String} :
    "." ++ selector = "." ++ name ↔ selector = name := by
  rw [← String.toList_inj, String.toList_append, String.toList_append, List.append_cancel_left_eq,
    String.toList_inj]

/-- The address of a method is that of the first backend rule for it that has one. -/
theorem backendAddress?_eq_some_iff {c : ServiceConfig} {name address : String} :
    c.backendAddress? name = some address ↔ c.IsBackendAddress ("." ++ name) address := by
  unfold ServiceConfig.backendAddress? ServiceConfig.IsBackendAddress
  simp only [Option.map_eq_some_iff, List.find?_eq_some_iff_append, dot_append_eq_iff,
    decide_eq_true_eq]
  constructor
  · rintro ⟨rule, ⟨⟨hselector, haddress⟩, before, after, hsplit, hbefore⟩, rfl⟩
    refine ⟨before, rule, after, hsplit, hselector, rfl, haddress, fun other hother hname => ?_⟩
    simpa [hname] using hbefore other hother
  · rintro ⟨before, rule, after, hsplit, hselector, rfl, haddress, hbefore⟩
    refine ⟨rule, ⟨⟨hselector, haddress⟩, before, after, hsplit, fun other hother => ?_⟩, rfl⟩
    simpa [imp_iff_not_or] using hbefore other hother

/-- What a service declares has an id that begins with a dot. -/
theorem exists_childId_serviceId_eq (f : FileDecl) (s : ServiceDecl) (name : String) :
    ∃ rest, childId (f.serviceId s) name = "." ++ rest := by
  unfold FileDecl.serviceId topLevelId childId
  split
  · exact ⟨s.name ++ "." ++ name, by simp only [String.append_assoc]⟩
  · exact ⟨f.package ++ "." ++ s.name ++ "." ++ name, by simp only [String.append_assoc]⟩

/-- A method has the address that the configuration gives for its id. -/
theorem hostOverride?_eq_some_iff {config? : Option ServiceConfig} {rest address : String} :
    hostOverride? config? (selectorOf ("." ++ rest)) = some address ↔
      ∃ c, config? = some c ∧ c.IsBackendAddress ("." ++ rest) address := by
  unfold hostOverride?
  rw [selectorOf_dot, Option.bind_eq_some_iff]
  simp only [backendAddress?_eq_some_iff]

/-! ### Services -/

/-- What a context is with a service and its methods. -/
structure Context.AddsService (config? : Option ServiceConfig) (f : FileDecl) (s : ServiceDecl)
    (before after : Context) : Prop where
  /-- The service lists what has been built, in the order of the declarations. -/
  service : after.registry.service? (f.serviceId s) = some {
    id := f.serviceId s
    name := s.name
    package := f.package
    defaultHost := defaultHost s.options?
    deprecated := isDeprecated s.options?
    methods := (builtOf (f.outcomes before.registry s)).map (·.id) }
  /-- The others are reported, in the order of the declarations. -/
  diagnostics : after.diagnostics = before.diagnostics ++ skippedOf (f.outcomes before.registry s)
  /-- Of the declarations of an id, each is listed or reported, and none is both. -/
  accounted : ∀ id, ((builtOf (f.outcomes before.registry s)).map (·.id)).count id
    + (skippedOf (f.outcomes before.registry s)).countP (·.drops id)
      = (s.methods.map fun d => childId (f.serviceId s) d.name).count id
  /-- Of the methods that are built under an id the last one stays, with the address of its
      backend. -/
  methods : ∀ id ∈ (builtOf (f.outcomes before.registry s)).map (·.id),
    ∃ m host, IsLast Method.id (builtOf (f.outcomes before.registry s)) m ∧ m.id = id ∧
      after.registry.method? id = some { m with hostOverride := host } ∧
      ∀ address, host = some address ↔ ∃ c, config? = some c ∧ c.IsBackendAddress id address
  otherMethods : ∀ id, id ∉ (builtOf (f.outcomes before.registry s)).map (·.id) →
    after.registry.method? id = before.registry.method? id
  otherServices : ∀ id, id ≠ f.serviceId s → after.registry.service? id
      = before.registry.service? id
  messages : after.registry.messages = before.registry.messages
  enums : after.registry.enums = before.registry.enums
  uuid4Fields : after.uuid4Fields = before.uuid4Fields

section Service

variable (config? : Option ServiceConfig) (f : FileDecl) (ctx : Context) (s : ServiceDecl)

/-- Building a service puts the methods into the registry one after the other, and then the
    service. -/
theorem processService_eq_outcomes : processService config? f ctx s =
    { registry := { ctx.registry with
        methods := (builtOf (f.outcomes ctx.registry s)).foldl (fun t m =>
          t.insert m.id (m.hosted config?)) ctx.registry.methods
        services := ctx.registry.services.insert (f.serviceId s) {
          id := f.serviceId s
          name := s.name
          package := f.package
          defaultHost := defaultHost s.options?
          deprecated := isDeprecated s.options?
          methods := (builtOf (f.outcomes ctx.registry s)).map (·.id) } }
      diagnostics := ctx.diagnostics ++ skippedOf (f.outcomes ctx.registry s)
      uuid4Fields := ctx.uuid4Fields } := by
  rw [processService_eq config? (.refl ctx.registry)]
  unfold Context.withServices DeclaredService.entity DeclaredService.methods DeclaredService.drops
  simp only [List.flatMap_cons, List.flatMap_nil, List.append_nil, List.foldl_cons, List.foldl_nil,
    nativeMethods_eq, nativeDrops_eq, List.foldl_map, List.map_map]
  rfl

/-- Building a service adds it and its methods. -/
theorem addsService_processService :
    ctx.AddsService config? f s (processService config? f ctx s) := by
  rw [processService_eq_outcomes]
  constructor
  case service => exact Table.get?_insert_self _ _ _
  case accounted => exact count_builtOf_add_countP_skippedOf ctx.registry f s
  case methods =>
    intro id hid
    obtain ⟨m, hm, rfl⟩ := List.mem_map.1 hid
    -- Two methods of one name share an id, and the later one is registered over the earlier one.
    obtain ⟨last, -, hkey, hlast⟩ := exists_isLast Method.id hm
    refine ⟨last, hostOverride? config? (selectorOf last.id), hlast, hkey, ?_, fun address => ?_⟩
    · unfold Registry.method?
      simp only
      rw [← hkey, Table.get?_foldl_insert, isLast_iff_find?_reverse.1 hlast]
      rfl
    · obtain ⟨decl, -, hid⟩ := id_of_mem_builtOf hm
      obtain ⟨rest, hrest⟩ := exists_childId_serviceId_eq f s decl.name
      rw [hkey, hid, hrest]
      exact hostOverride?_eq_some_iff
  case otherMethods =>
    intro id hid
    exact Table.get?_foldl_insert_of_ne (fun m hm he => hid (List.mem_map.2 ⟨m, hm, he⟩)) _
  case otherServices => exact fun id hid => Table.get?_insert_of_ne _ _ hid
  all_goals rfl

end Service

/-- A service that declares one method three times, the second time without a binding. -/
def tasksService : ServiceDecl :=
  let getting (path : String) : MethodDecl :=
    { name? := "Get", inputType? := ".tasks.Request", outputType? := ".tasks.Request"
      options? := Mixin.bound [("get", .string path)] }
  { name? := "Tasks",
    methods := [getting "/v1/task", { getting "" with options? := none }, getting "/v2/task"] }

/-- It lists the method twice and reports it once, and the last declaration is the one that is
    registered. -/
example :
    let types : Registry := ({} : Registry).addMessage { id := ".tasks.Request" }
    let ctx := processService none { package? := "tasks" } { registry := types } tasksService
    (ctx.registry.service? ".tasks.Tasks").map (·.methods)
        = some [".tasks.Tasks.Get", ".tasks.Tasks.Get"] ∧
      ctx.diagnostics = [.methodDropped ".tasks.Tasks.Get" "missing google.api.http annotation"] ∧
      (ctx.registry.method? ".tasks.Tasks.Get").map (·.binding.path)
        = some [.literal "v2", .literal "task"] := by
  decide +kernel

end ProtoApi
