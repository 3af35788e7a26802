import ProtoApi.Build.Pipeline
import ProtoApi.Proofs.Build.Methods
import ProtoApi.Proofs.Registry.WellFormed

namespace ProtoApi

/-!
# What building services does

Building a service looks at the types of the registry only, and it registers no types. So all
services of a build see the same types, and what they do to a context can be said at once.

* `Registry.SameTypes` — registries with the same messages and enums, for which `buildMethod_congr`
  holds;
* `DeclaredService` — a service declaration with its id, and with the methods, the diagnostics and
  the service that come of it (`methods`, `drops`, `entity`);
* `Context.withServices`, `foldl_processService_eq` — the services of a file as one change of the
  context;
* `Context.included`, `Api.including`, `foldl_includeFile_eq` — the files to generate as one change
  of the context and of the lists of the model.
-/

/-! ### Types -/

/-- The same messages and enums are registered. -/
structure Registry.SameTypes (r s : Registry) : Prop where
  messages : r.messages = s.messages
  enums : r.enums = s.enums

theorem Registry.SameTypes.refl (r : Registry) : r.SameTypes r := ⟨rfl, rfl⟩

/-- The same types through several steps. -/
theorem Registry.SameTypes.trans {r s t : Registry} (h : r.SameTypes s) (h' : s.SameTypes t) :
    r.SameTypes t :=
  ⟨h.messages.trans h'.messages, h.enums.trans h'.enums⟩

/-- A method depends on the types that are registered. -/
theorem buildMethod_congr {r s : Registry} (h : r.SameTypes s) (decl : MethodDecl)
    (id package : String) (rule? : Option HttpRule) :
    buildMethod r decl id package rule? = buildMethod s decl id package rule? := by
  rw [buildMethod_eq, buildMethod_eq]
  unfold Registry.message? Registry.resolvesType
  rw [h.messages, h.enums]

/-- Registers methods and reports what has been left out. -/
def Context.withMethods (ctx : Context) (ms : List Method) (ds : List Diagnostic) : Context where
  registry := { ctx.registry with
      methods := ms.foldl (fun t m => t.insert m.id m) ctx.registry.methods }
  diagnostics := ctx.diagnostics ++ ds
  uuid4Fields := ctx.uuid4Fields

/-! ### Services with their ids -/

/-- A service declaration and the id it is registered under. -/
structure DeclaredService where
  id : String
  package : String
  decl : ServiceDecl

/-- The services of a file. -/
def FileDecl.declaredServices (f : FileDecl) : List DeclaredService :=
  f.services.map fun s => ⟨f.serviceId s, f.package, s⟩

section Methods

variable (config? : Option ServiceConfig) (r : Registry) (package serviceId : String)

/-- The method that a service declares, with the address of its backend. -/
def MethodDecl.native (decl : MethodDecl) : Except AnnotationError Method :=
  (buildMethod r decl (childId serviceId decl.name) package none).map fun m =>
    { m with hostOverride := hostOverride? config? (selectorOf (childId serviceId decl.name)) }

/-- The methods among some declarations that can be built. -/
def nativeMethods (decls : List MethodDecl) : List Method :=
  decls.filterMap fun d => (d.native config? r package serviceId).toOption

/-- A diagnostic for each declaration that cannot. -/
def nativeDrops (decls : List MethodDecl) : List Diagnostic :=
  decls.filterMap fun d =>
    match d.native config? r package serviceId with
    | .ok _ => none
    | .error e => some (dropped (childId serviceId d.name) e)

variable {config? r package serviceId}

/-- A method of a service has the id that it is declared with. -/
theorem id_of_native {decl : MethodDecl} {m : Method}
    (h : decl.native config? r package serviceId = .ok m) : m.id = childId serviceId decl.name := by
  unfold MethodDecl.native at h
  cases hb : buildMethod r decl (childId serviceId decl.name) package none with
  | error e =>
    rw [hb] at h
    nomatch h
  | ok method =>
    rw [hb] at h
    cases h
    obtain ⟨-, -, -, -, -, -, -, -, -, rfl⟩ := buildMethod_eq_ok_iff.1 hb
    rfl

/-- A method of a file depends on the types that are registered. -/
theorem native_congr {s : Registry} (h : r.SameTypes s) (decl : MethodDecl) :
    decl.native config? r package serviceId = decl.native config? s package serviceId := by
  unfold MethodDecl.native
  rw [buildMethod_congr h]

/-- The first of some methods is registered or reported, and then the others are. -/
theorem addMethods_cons (ctx : Context) (decl : MethodDecl) (rest : List MethodDecl) :
    addMethods config? package serviceId ctx (decl :: rest) =
      match decl.native config? ctx.registry package serviceId with
      | .ok m =>
        let others := addMethods config? package serviceId (ctx.mapRegistry (·.addMethod m)) rest
        (others.1, m.id :: others.2)
      | .error e =>
        addMethods config? package serviceId (ctx.report (dropped (childId serviceId decl.name) e))
          rest := by
  rw [addMethods]
  simp only
  -- The native method is the one that is built here, with the host that is set afterwards.
  cases hb : buildMethod ctx.registry decl (childId serviceId decl.name) package none with
  | ok method =>
    have hn : decl.native config? ctx.registry package serviceId
        = .ok { method with
          hostOverride := hostOverride? config? (selectorOf (childId serviceId decl.name)) } := by
      unfold MethodDecl.native
      rw [hb]
      rfl
    have hid := id_of_native hn
    rw [hn]
    simp only
    rw [show method.id = _ from hid]
  | error e =>
    have hn : decl.native config? ctx.registry package serviceId = .error e := by
      unfold MethodDecl.native
      rw [hb]
      rfl
    rw [hn]

variable (config? package serviceId)

/-- Methods are registered in the order of their declarations, and so are the diagnostics for the
    others. -/
theorem addMethods_eq {ctx : Context} (hr : r.SameTypes ctx.registry) (decls : List MethodDecl) :
    addMethods config? package serviceId ctx decls =
      (ctx.withMethods (nativeMethods config? r package serviceId decls)
          (nativeDrops config? r package serviceId decls),
        (nativeMethods config? r package serviceId decls).map (·.id)) := by
  induction decls generalizing ctx with
  | nil =>
    unfold Context.withMethods nativeDrops
    rw [List.filterMap_nil, List.append_nil]
    rfl
  | cons decl rest ih =>
    rw [addMethods_cons, ← native_congr hr]
    unfold nativeMethods nativeDrops
    -- In both cases the types are those of `r` still, so that the others are built as from `r`.
    cases hn : decl.native config? r package serviceId with
    | ok m =>
      have hm : r.SameTypes (ctx.mapRegistry (·.addMethod m)).registry := ⟨hr.messages, hr.enums⟩
      simp only
      rw [ih hm, List.filterMap_cons_some (by rw [hn]; rfl), List.filterMap_cons_none (by rw [hn])]
      rfl
    | error e =>
      have he : r.SameTypes (ctx.report (dropped (childId serviceId decl.name) e)).registry := hr
      simp only
      rw [ih he, List.filterMap_cons_none (by rw [hn]; rfl), List.filterMap_cons_some (by rw [hn])]
      unfold Context.withMethods Context.report Context.reportAll
      simp only [List.append_assoc, List.singleton_append]
      rfl

end Methods

namespace DeclaredService

variable (config? : Option ServiceConfig) (r : Registry) (d : DeclaredService)

/-- The methods of a service that can be built where the types of `r` are registered. -/
def methods : List Method := nativeMethods config? r d.package d.id d.decl.methods

/-- The diagnostics for its other methods. -/
def drops : List Diagnostic := nativeDrops config? r d.package d.id d.decl.methods

/-- The service with the methods that can be built. -/
def entity : Service where
  id := d.id
  name := d.decl.name
  package := d.package
  defaultHost := defaultHost d.decl.options?
  deprecated := isDeprecated d.decl.options?
  methods := (d.methods config? r).map (·.id)

end DeclaredService

section Services

variable (config? : Option ServiceConfig) {r : Registry}

/-- A context with some services and their methods. -/
def Context.withServices (r : Registry) (ctx : Context) (ds : List DeclaredService) : Context where
  registry := { ctx.registry with
    methods :=
      (ds.flatMap (·.methods config? r)).foldl (fun t m => t.insert m.id m) ctx.registry.methods
    services := ds.foldl (fun t d => t.insert d.id (d.entity config? r)) ctx.registry.services }
  diagnostics := ctx.diagnostics ++ ds.flatMap (·.drops config? r)
  uuid4Fields := ctx.uuid4Fields

/-- Services may be added in several steps. -/
theorem Context.withServices_append (r : Registry) (ctx : Context) (ds ds' : List DeclaredService) :
    (ctx.withServices config? r ds).withServices config? r ds'
      = ctx.withServices config? r (ds ++ ds') := by
  simp [Context.withServices, List.foldl_append]

/-- One service, as one change of the context. -/
theorem processService_eq {ctx : Context} (hr : r.SameTypes ctx.registry) (f : FileDecl)
    (s : ServiceDecl) :
    processService config? f ctx s
      = ctx.withServices config? r [⟨f.serviceId s, f.package, s⟩] := by
  unfold processService
  simp only
  rw [addMethods_eq config? f.package (f.serviceId s) hr]
  simp only [Context.withServices, List.flatMap_cons, List.flatMap_nil, List.append_nil]
  rfl

/-- All services of a file see the same types. -/
theorem foldl_processService_eq {ctx : Context} (hr : r.SameTypes ctx.registry) (f : FileDecl) :
    f.services.foldl (processService config? f) ctx
      = ctx.withServices config? r f.declaredServices := by
  unfold FileDecl.declaredServices
  induction f.services generalizing ctx with
  | nil => simp [Context.withServices]
  | cons s rest ih =>
    have hs : r.SameTypes (ctx.withServices config? r [⟨f.serviceId s, f.package, s⟩]).registry :=
      ⟨hr.messages, hr.enums⟩
    rw [List.foldl_cons, processService_eq config? hr, ih hs, Context.withServices_append]
    rfl

/-! ### The files to generate -/

namespace FileDecl

/-- The ids of the messages that a file declares outside of messages. -/
def topMessages (f : FileDecl) : List String := f.messages.map fun m => topLevelId f.package m.name

/-- The ids of the enums that a file declares outside of messages. -/
def topEnums (f : FileDecl) : List String := f.enums.map fun e => topLevelId f.package e.name

/-- A diagnostic for each of them that is not registered. -/
def missing (r : Registry) (f : FileDecl) : List Diagnostic :=
  (includeIds .message r.messages.contains f.topMessages).2
    ++ (includeIds .enum r.enums.contains f.topEnums).2

/-- The diagnostics that a file to generate leaves behind. -/
def reports (r : Registry) (f : FileDecl) : List Diagnostic :=
  f.missing r ++ f.declaredServices.flatMap (·.drops config? r)

end FileDecl

/-- A context with all services of some files. -/
def Context.included (r : Registry) (ctx : Context) (files : List FileDecl) : Context :=
  { ctx.withServices config? r (files.flatMap FileDecl.declaredServices) with
    diagnostics := ctx.diagnostics ++ files.flatMap (·.reports config? r) }

/-- A model that lists what some files declare. -/
def Api.including (r : Registry) (a : Api) (files : List FileDecl) : Api :=
  { a with
    services := a.services ++ (files.flatMap FileDecl.declaredServices).map (·.id)
    messages := a.messages ++ (files.flatMap FileDecl.topMessages).filter r.messages.contains
    enums := a.enums ++ (files.flatMap FileDecl.topEnums).filter r.enums.contains }

/-- One file, as one change of the context and of the lists. -/
theorem includeFile_eq {ctx : Context} (hr : r.SameTypes ctx.registry) (api : Api) (f : FileDecl) :
    includeFile config? (ctx, api) f = (ctx.included config? r [f], api.including r [f]) := by
  have hreport : ∀ ds, r.SameTypes (ctx.reportAll ds).registry := fun _ => hr
  unfold includeFile includeTypes includeServices
  simp only
  rw [foldl_processService_eq config? (hreport _)]
  unfold Context.included Api.including
  simp [FileDecl.reports, FileDecl.missing, FileDecl.declaredServices, FileDecl.topMessages,
    FileDecl.topEnums, Context.withServices, Context.reportAll, includeIds, hr.messages, hr.enums]

/-- All files see the same types, so that their services are built as those of one file are. -/
theorem foldl_includeFile_eq {ctx : Context} (hr : r.SameTypes ctx.registry) (api : Api)
    (files : List FileDecl) :
    files.foldl (includeFile config?) (ctx, api)
      = (ctx.included config? r files, api.including r files) := by
  induction files generalizing ctx api with
  | nil => simp [Context.included, Api.including, Context.withServices]
  | cons f rest ih =>
    have hf : r.SameTypes (ctx.included config? r [f]).registry := ⟨hr.messages, hr.enums⟩
    rw [List.foldl_cons, includeFile_eq config? hr, ih hf]
    simp [Context.included, Api.including, Context.withServices, List.foldl_append,
      List.filter_append]

end Services

end ProtoApi
