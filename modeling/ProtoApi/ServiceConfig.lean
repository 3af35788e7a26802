import ProtoApi.Http.Rule

namespace ProtoApi

open Decoder (string list optional record)
open Slot (orElse)

/-!
# Service configurations

* `BackendRule`, `MethodSettings`, `ServiceConfig` — what a model is made of; whatever else a
  configuration holds is passed over, and a part that is absent is empty;
* `ServiceConfig.decoder` — the reader;
* `ServiceConfig.apiName`, `ServiceConfig.httpRule?`, `ServiceConfig.backendAddress?` — what it
  says.
-/

/-- The address of the backend of a method. -/
structure BackendRule where
  selector : String := ""
  address : String := ""
deriving DecidableEq, Inhabited

/-- The request fields of a method that clients fill in. -/
structure MethodSettings where
  selector : String := ""
  autoPopulatedFields : List String := []
deriving DecidableEq, Inhabited

/-- A service configuration. -/
structure ServiceConfig where
  name : String := ""
  title : String := ""
  summary : String := ""
  /-- The names of the APIs that the service offers. -/
  apis : List String := []
  httpRules : List HttpRule := []
  backendRules : List BackendRule := []
  methodSettings : List MethodSettings := []
deriving Inhabited

namespace ServiceConfig

/-! ### Reading a configuration -/

/-- Reads the documentation: its summary. -/
def documentationDecoder : Decoder String :=
  record "DocumentationConfig" (.field (orElse "summary" string "") .none)
    fun (summary, ()) => summary

/-- Reads an API: its name. -/
def apiDecoder : Decoder String :=
  record "ApiConfig" (.field (orElse "name" string "") .none) fun (name, ()) => name

/-- Reads the HTTP rules. -/
def httpDecoder : Decoder (List HttpRule) :=
  record "HttpConfig" (.field (orElse "rules" (list HttpRule.decoder) []) .none)
    fun (rules, ()) => rules

/-- Reads a backend rule. -/
def backendRuleDecoder : Decoder BackendRule :=
  record "BackendRule"
    (.field (orElse "selector" string "") <| .field (orElse "address" string "") .none)
    fun (selector, address, ()) => { selector, address }

/-- Reads the backend rules. -/
def backendDecoder : Decoder (List BackendRule) :=
  record "BackendConfig" (.field (orElse "rules" (list backendRuleDecoder) []) .none)
    fun (rules, ()) => rules

/-- Reads the settings of a method. -/
def methodSettingsDecoder : Decoder MethodSettings :=
  record "MethodSettings"
    (.field (orElse "selector" string "") <|
      .field (orElse "autoPopulatedFields" (list string) [] "auto_populated_fields") .none)
    fun (selector, autoPopulatedFields, ()) => { selector, autoPopulatedFields }

/-- Reads the settings for publishing: those of the methods. -/
def publishingDecoder : Decoder (List MethodSettings) :=
  record "PublishingConfig"
    (.field (orElse "methodSettings" (list methodSettingsDecoder) [] "method_settings") .none)
    fun (settings, ()) => settings

/-- Reads a configuration. -/
def decoder : Decoder ServiceConfig :=
  record "ServiceConfig"
    (.field (orElse "name" string "") <|
      .field (orElse "title" string "") <|
      .field (orElse "documentation" (optional documentationDecoder) none) <|
      .field (orElse "apis" (list apiDecoder) []) <|
      .field (orElse "http" (optional httpDecoder) none) <|
      .field (orElse "backend" (optional backendDecoder) none) <|
      .field (orElse "publishing" (optional publishingDecoder) none) .none)
    fun (name, title, summary?, apis, httpRules?, backendRules?, methodSettings?, ()) =>
      { name, title, apis
        summary := summary?.getD ""
        httpRules := httpRules?.getD []
        backendRules := backendRules?.getD []
        methodSettings := methodSettings?.getD [] }

/-! ### What a configuration says -/

/-- The short name of the API: the name of the service without the common domain. -/
def apiName (c : ServiceConfig) : String :=
  let chars := c.name.toList
  let domain := ".googleapis.com".toList
  if domain.isSuffixOf chars then String.ofList (chars.take (chars.length - domain.length))
    else c.name

/-- The HTTP rule of a method. -/
def httpRule? (c : ServiceConfig) (selector : String) : Option HttpRule :=
  c.httpRules.find? (·.selector = selector)

/-- The address of the backend of a method. -/
def backendAddress? (c : ServiceConfig) (selector : String) : Option String :=
  (c.backendRules.find? fun r => r.selector = selector ∧ r.address ≠ "").map (·.address)

end ServiceConfig

end ProtoApi
