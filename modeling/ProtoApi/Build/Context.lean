import ProtoApi.Diagnostic

namespace ProtoApi

/-!
# The context of a build

What a build hands from one phase to the next.

* `Context` — the registry, the diagnostics in the order in which they arose, and the fields that
  hold random identifiers;
* `Context.report`, `Context.reportAll` — add diagnostics.
-/

/-- The state of a build. -/
structure Context where
  registry : Registry := {}
  diagnostics : List Diagnostic := []
  /-- The ids of the fields that hold random identifiers. -/
  uuid4Fields : NameSet := Table.empty
deriving DecidableEq, Inhabited

namespace Context

/-- Adds diagnostics. -/
def reportAll (ctx : Context) (ds : List Diagnostic) : Context :=
  { ctx with diagnostics := ctx.diagnostics ++ ds }

/-- Adds a diagnostic. -/
def report (ctx : Context) (d : Diagnostic) : Context := ctx.reportAll [d]

/-- Changes the registry. -/
def mapRegistry (ctx : Context) (f : Registry → Registry) : Context :=
  { ctx with registry := f ctx.registry }

@[simp] theorem registry_report (ctx : Context) (d : Diagnostic) :
    (ctx.report d).registry = ctx.registry := rfl

@[simp] theorem diagnostics_mapRegistry (ctx : Context) (f : Registry → Registry) :
    (ctx.mapRegistry f).diagnostics = ctx.diagnostics := rfl

end Context

end ProtoApi
