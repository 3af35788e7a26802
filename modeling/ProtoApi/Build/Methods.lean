import ProtoApi.Annotations
import ProtoApi.Build.Context
import ProtoApi.Model.Id
import ProtoApi.ServiceConfig

namespace ProtoApi

/-!
# Building services and methods

* `buildMethod` — a method, or why it has to be dropped;
* `addMethods`, `processService` — the methods of a service, each registered or reported, and the
  service that lists them;
* `startsOperations` — whether some files start long-running operations.
-/

/-- The type of a long-running operation. -/
def operationType : String := ".google.longrunning.Operation"

/-- The type of an empty response. -/
def emptyType : String := ".google.protobuf.Empty"

/-- Builds a method with the rule given, or else with its own one. -/
def buildMethod (r : Registry) (decl : MethodDecl) (id package : String) (rule? : Option HttpRule) :
    Except AnnotationError Method := do
  let rule ←
    match rule? with
    | some rule => .ok rule
    | none => (httpRule? decl.options?).getD (.error .missingHttpRule)
  let input ←
    match r.message? decl.inputType with
    | some input => .ok input
    | none => .error (.unresolvedType decl.inputType)
  if !r.resolvesType decl.outputType then .error (.unresolvedType decl.outputType)
  let binding ← rule.binding input
  let routing ← routing decl.options?
  return {
    id
    name := decl.name
    inputType := decl.inputType
    outputType := decl.outputType
    binding
    routing
    clientStreaming := decl.clientStreaming?.getD false
    serverStreaming := decl.serverStreaming?.getD false
    operationInfo :=
      if decl.outputType = operationType then operationInfo? package decl.options? else none
    returnsEmpty := decl.outputType = emptyType
    deprecated := isDeprecated decl.options? }

/-- The diagnostic for a method that is dropped. -/
def dropped (id : String) (e : AnnotationError) : Diagnostic := .methodDropped id e.message

/-- The address that a configuration gives for a method. -/
def hostOverride? (config? : Option ServiceConfig) (selector : String) : Option String :=
  config?.bind (·.backendAddress? selector)

/-- Builds and registers methods of a service, and answers also with the ids of those that could be
    built. -/
def addMethods (config? : Option ServiceConfig) (package serviceId : String) (ctx : Context) :
    List MethodDecl → Context × List String
  | [] => (ctx, [])
  | decl :: rest =>
    let id := childId serviceId decl.name
    match buildMethod ctx.registry decl id package none with
    | .ok method =>
      let method := { method with hostOverride := hostOverride? config? (selectorOf id) }
      let (ctx, ids) :=
        addMethods config? package serviceId (ctx.mapRegistry (·.addMethod method)) rest
      (ctx, id :: ids)
    | .error e => addMethods config? package serviceId (ctx.report (dropped id e)) rest

/-- The id of a service of a file. -/
def FileDecl.serviceId (f : FileDecl) (decl : ServiceDecl) : String :=
  topLevelId f.package decl.name

/-- Builds and registers a service of a file. -/
def processService (config? : Option ServiceConfig) (file : FileDecl) (ctx : Context)
    (decl : ServiceDecl) : Context :=
  let id := file.serviceId decl
  let (ctx, methods) := addMethods config? file.package id ctx decl.methods
  ctx.mapRegistry (·.addService {
    id
    name := decl.name
    package := file.package
    defaultHost := defaultHost decl.options?
    deprecated := isDeprecated decl.options?
    methods })

/-- Whether a method of some files starts a long-running operation. -/
def startsOperations (files : List FileDecl) : Bool :=
  files.any fun f => f.services.any fun s => s.methods.any fun m => m.outputType = operationType

end ProtoApi
