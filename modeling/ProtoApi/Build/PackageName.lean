import ProtoApi.Mixin.Catalog
import ProtoApi.Model.Api
import ProtoApi.ServiceConfig

namespace ProtoApi

/-!
# The package of an API

* `packageFromApis` — the package of the first API that is no mixin;
* `Api.fallbackPackage?` — the package of what is generated;
* `Api.updatePackageName` — gives a model its package.
-/

/-- Goes through the names of APIs up to the first one that has a package and is no mixin. Each name
    with a package on the way replaces the result so far. -/
def packageFromApis (sofar : String) : List String → String
  | [] => sofar
  | api :: rest =>
    match packageOf? api with
    | none => packageFromApis sofar rest
    | some package => if (Mixin.wellKnown? api).isSome then packageFromApis package rest
      else package

namespace Api

/-- The package of the first service, else of the first message, else of the first enum. -/
def fallbackPackage? (a : Api) : Option String :=
  ((a.listedServices.head?.map (·.package)).or (a.listedMessages.head?.map (·.package))).or
    (a.listedEnums.head?.map (·.package))

/-- Gives the model the package that a configuration names, or else that of what is generated. -/
def updatePackageName (a : Api) (config? : Option ServiceConfig) : Api :=
  let name := packageFromApis a.packageName ((config?.map (·.apis)).getD [])
  if name ≠ "" then { a with packageName := name }
  else { a with packageName := a.fallbackPackage?.getD name }

end Api

end ProtoApi
