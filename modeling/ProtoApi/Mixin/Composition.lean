import ProtoApi.Build.Methods
import ProtoApi.Mixin.Plan

namespace ProtoApi

/-!
# Taking over mixin methods

* `Mixin.service?` — the declaration of a mixin among some files;
* `Composition` — what stays the same while methods are taken over;
* `Composition.takeOver` — one method for one service. A method that is registered already is left
  alone; a rule of the service configuration is tried first, and the method's own annotation if that
  fails;
* `Composition.compose` — all methods for all services.
-/

/-- The declaration of a mixin: that of its name in the first file of its name. -/
def Mixin.service? (m : Mixin) (sources : List FileDecl) : Option ServiceDecl :=
  (sources.find? (·.name = m.file)).bind fun f => f.services.find? (·.name = m.serviceName)

/-- What stays the same while methods are taken over. -/
structure Composition where
  plan : MixinPlan
  /-- The files that mixins are looked for in. -/
  sources : List FileDecl
  config? : Option ServiceConfig

namespace Composition

/-- Builds a mixin method, with the rule of the configuration or else with its own one, and answers
    also with the diagnostics on the way. -/
def build (c : Composition) (r : Registry) (package id selector : String) (decl : MethodDecl) :
    Option Method × List Diagnostic :=
  let plain (earlier : List Diagnostic) : Option Method × List Diagnostic :=
    match buildMethod r decl id package none with
    | .ok method => (some method, earlier)
    | .error e => (none, earlier ++ [dropped id e])
  match c.config?.bind (·.httpRule? selector) with
  | none => plain []
  | some rule =>
    match buildMethod r decl id package (some rule) with
    | .ok method => (some method, [])
    -- The rule is blamed for whatever goes wrong with it, and the method's own annotation is tried.
    | .error e => plain [.invalidOverride selector e.message]

/-- Registers a method and lists it last in its service. -/
def append (r : Registry) (serviceId : String) (method : Method) : Registry :=
  (r.modifyService serviceId fun s => { s with
    methods := s.methods ++ [method.id] }).addMethod method

/-- Takes over a method of a mixin for a service of a package. -/
def takeOver (c : Composition) (serviceId package : String) (m : Mixin) (ctx : Context)
    (decl : MethodDecl) : Context :=
  let selector := m.selector decl.name
  let id := childId serviceId decl.name
  if !c.plan.enabled.contains selector || ctx.registry.containsMethod id then ctx
  else
    let (method?, diagnostics) := c.build ctx.registry package id selector decl
    let ctx := ctx.reportAll diagnostics
    match method? with
    | some method =>
      ctx.mapRegistry (append · serviceId { method with
        hostOverride := hostOverride? c.config? selector })
    | none => ctx

/-- Takes over the methods of a mixin for a service. -/
def takeOverAll (c : Composition) (serviceId package : String) (ctx : Context) (m : Mixin) :
    Context :=
  match m.service? c.sources with
  | some decl => decl.methods.foldl (c.takeOver serviceId package m) ctx
  | none => ctx

/-- Takes over the methods of all mixins for a service, if it is registered. -/
def composeService (c : Composition) (ctx : Context) (serviceId : String) : Context :=
  match ctx.registry.service? serviceId with
  | some s => c.plan.mixins.foldl (c.takeOverAll serviceId s.package) ctx
  | none => ctx

/-- Takes over the methods of all mixins for some services. -/
def compose (c : Composition) (ctx : Context) (serviceIds : List String) : Context :=
  serviceIds.foldl c.composeService ctx

end Composition

end ProtoApi
