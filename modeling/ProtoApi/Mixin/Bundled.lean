import ProtoApi.Descriptor.Declarations

namespace ProtoApi.Mixin

/-!
# Bundled declarations

The files that declare the well-known mixin services and the types that these use.

* `singular`, `repeated`, `behaves`, `bound` — abbreviations for the declarations below;
* one definition for each file;
* `bundledFiles`, `bundledFile?` — all of them, by name.
-/

/-! ### Abbreviations -/

/-- A field that holds one value. -/
def singular (number : Int32) (name kind jsonName : String) : FieldDecl where
  name? := name
  number? := some number
  label? := some (.name "LABEL_OPTIONAL")
  kind? := some (.name kind)
  jsonName? := jsonName

/-- A field that holds several values. -/
def repeated (number : Int32) (name kind jsonName : String) : FieldDecl :=
  { singular number name kind jsonName with label? := some (.name "LABEL_REPEATED") }

/-- The options of a field that says what clients may expect of it. -/
def behaves (behavior : String) : Option Options :=
  some (Table.ofList [("[google.api.field_behavior]", .array [.string behavior])])

/-- The options of a method that is called by an HTTP rule. -/
def bound (rule : List (String × Json)) : Option Options :=
  some (Table.ofList [("[google.api.http]", .object rule)])

/-! ### The files -/

/-- Values of any type. -/
def anyFile : FileDecl where
  name? := "google/protobuf/any.proto"
  package? := "google.protobuf"
  messages := [
    { name? := "Any"
      fields := [
        singular 1 "type_url" "TYPE_STRING" "typeUrl",
        singular 2 "value" "TYPE_BYTES" "value"] }]

/-- Durations. -/
def durationFile : FileDecl where
  name? := "google/protobuf/duration.proto"
  package? := "google.protobuf"
  messages := [
    { name? := "Duration"
      fields := [
        singular 1 "seconds" "TYPE_INT64" "seconds",
        singular 2 "nanos" "TYPE_INT32" "nanos"] }]

/-- The empty message. -/
def emptyFile : FileDecl where
  name? := "google/protobuf/empty.proto"
  package? := "google.protobuf"
  messages := [
    { name? := "Empty" }]

/-- Field masks. -/
def fieldMaskFile : FileDecl where
  name? := "google/protobuf/field_mask.proto"
  package? := "google.protobuf"
  messages := [
    { name? := "FieldMask"
      fields := [
        repeated 1 "paths" "TYPE_STRING" "paths"] }]

/-- Error statuses. -/
def statusFile : FileDecl where
  name? := "google/rpc/status.proto"
  package? := "google.rpc"
  messages := [
    { name? := "Status"
      fields := [
        singular 1 "code" "TYPE_INT32" "code",
        singular 2 "message" "TYPE_STRING" "message",
        { repeated 3 "details" "TYPE_MESSAGE" "details" with
          typeName? := ".google.protobuf.Any" }] }]

/-- Expressions. -/
def exprFile : FileDecl where
  name? := "google/type/expr.proto"
  package? := "google.type"
  messages := [
    { name? := "Expr"
      fields := [
        singular 1 "expression" "TYPE_STRING" "expression",
        singular 2 "title" "TYPE_STRING" "title",
        singular 3 "description" "TYPE_STRING" "description",
        singular 4 "location" "TYPE_STRING" "location"] }]

/-- Options of policy requests. -/
def iamOptionsFile : FileDecl where
  name? := "google/iam/v1/options.proto"
  package? := "google.iam.v1"
  messages := [
    { name? := "GetPolicyOptions"
      fields := [
        { singular 1 "requested_policy_version" "TYPE_INT32" "requestedPolicyVersion" with
          options? := behaves "OPTIONAL" }] }]

/-- Access policies. -/
def iamPolicyFile : FileDecl where
  name? := "google/iam/v1/policy.proto"
  package? := "google.iam.v1"
  messages := [
    { name? := "Policy"
      fields := [
        singular 1 "version" "TYPE_INT32" "version",
        { repeated 4 "bindings" "TYPE_MESSAGE" "bindings" with
          typeName? := ".google.iam.v1.Binding" },
        { repeated 6 "audit_configs" "TYPE_MESSAGE" "auditConfigs" with
          typeName? := ".google.iam.v1.AuditConfig" },
        singular 3 "etag" "TYPE_BYTES" "etag"] },
    { name? := "Binding"
      fields := [
        singular 1 "role" "TYPE_STRING" "role",
        repeated 2 "members" "TYPE_STRING" "members",
        { singular 3 "condition" "TYPE_MESSAGE" "condition" with
          typeName? := ".google.type.Expr" }] },
    { name? := "AuditConfig"
      fields := [
        singular 1 "service" "TYPE_STRING" "service",
        { repeated 3 "audit_log_configs" "TYPE_MESSAGE" "auditLogConfigs" with
          typeName? := ".google.iam.v1.AuditLogConfig" }] },
    { name? := "AuditLogConfig"
      fields := [
        { singular 1 "log_type" "TYPE_ENUM" "logType" with
          typeName? := ".google.iam.v1.AuditLogConfig.LogType" },
        repeated 2 "exempted_members" "TYPE_STRING" "exemptedMembers"]
      enums := [
        { name? := "LogType", values := [
          { name? := "LOG_TYPE_UNSPECIFIED", number? := some 0 },
          { name? := "ADMIN_READ", number? := some 1 },
          { name? := "DATA_WRITE", number? := some 2 },
          { name? := "DATA_READ", number? := some 3 }] }] }]

/-- The service for access policies. -/
def iamServiceFile : FileDecl where
  name? := "google/iam/v1/iam_policy.proto"
  package? := "google.iam.v1"
  messages := [
    { name? := "SetIamPolicyRequest"
      fields := [
        { singular 1 "resource" "TYPE_STRING" "resource" with options? := behaves "REQUIRED" },
        { singular 2 "policy" "TYPE_MESSAGE" "policy" with
          typeName? := ".google.iam.v1.Policy", options? := behaves "REQUIRED" },
        { singular 3 "update_mask" "TYPE_MESSAGE" "updateMask" with
          typeName? := ".google.protobuf.FieldMask" }] },
    { name? := "GetIamPolicyRequest"
      fields := [
        { singular 1 "resource" "TYPE_STRING" "resource" with options? := behaves "REQUIRED" },
        { singular 2 "options" "TYPE_MESSAGE" "options" with
          typeName? := ".google.iam.v1.GetPolicyOptions" }] },
    { name? := "TestIamPermissionsRequest"
      fields := [
        { singular 1 "resource" "TYPE_STRING" "resource" with options? := behaves "REQUIRED" },
        { repeated 2 "permissions" "TYPE_STRING" "permissions" with
          options? := behaves "REQUIRED" }] },
    { name? := "TestIamPermissionsResponse"
      fields := [
        repeated 1 "permissions" "TYPE_STRING" "permissions"] }]
  services := [
    { name? := "IAMPolicy"
      methods := [
        { name? := "SetIamPolicy"
          inputType? := ".google.iam.v1.SetIamPolicyRequest"
          outputType? := ".google.iam.v1.Policy"
          options? := bound [("body", .string "*"),
            ("post", .string "/v1/\x7bresource=**\x7d:setIamPolicy")] },
        { name? := "GetIamPolicy"
          inputType? := ".google.iam.v1.GetIamPolicyRequest"
          outputType? := ".google.iam.v1.Policy"
          options? := bound [("body", .string "*"),
            ("post", .string "/v1/\x7bresource=**\x7d:getIamPolicy")] },
        { name? := "TestIamPermissions"
          inputType? := ".google.iam.v1.TestIamPermissionsRequest"
          outputType? := ".google.iam.v1.TestIamPermissionsResponse"
          options? := bound [("body", .string "*"),
            ("post", .string "/v1/\x7bresource=**\x7d:testIamPermissions")] }]
      options? :=
        some (Table.ofList
          [("[google.api.default_host]", .string "iam-meta-api.googleapis.com")]) }]

/-- The service for locations. -/
def locationsFile : FileDecl where
  name? := "google/cloud/location/locations.proto"
  package? := "google.cloud.location"
  messages := [
    { name? := "ListLocationsRequest"
      fields := [
        singular 1 "name" "TYPE_STRING" "name",
        singular 2 "filter" "TYPE_STRING" "filter",
        singular 3 "page_size" "TYPE_INT32" "pageSize",
        singular 4 "page_token" "TYPE_STRING" "pageToken"] },
    { name? := "ListLocationsResponse"
      fields := [
        { repeated 1 "locations" "TYPE_MESSAGE" "locations" with
          typeName? := ".google.cloud.location.Location" },
        singular 2 "next_page_token" "TYPE_STRING" "nextPageToken"] },
    { name? := "GetLocationRequest"
      fields := [
        singular 1 "name" "TYPE_STRING" "name"] },
    { name? := "Location"
      fields := [
        singular 1 "name" "TYPE_STRING" "name",
        singular 4 "location_id" "TYPE_STRING" "locationId",
        singular 5 "display_name" "TYPE_STRING" "displayName",
        { repeated 2 "labels" "TYPE_MESSAGE" "labels" with
          typeName? := ".google.cloud.location.Location.LabelsEntry" },
        { singular 3 "metadata" "TYPE_MESSAGE" "metadata" with
          typeName? := ".google.protobuf.Any" }]
      nested := [
        { name? := "LabelsEntry"
          fields := [
            singular 1 "key" "TYPE_STRING" "key",
            singular 2 "value" "TYPE_STRING" "value"]
          options? := some (Table.ofList [("mapEntry", .boolean true)]) }] }]
  services := [
    { name? := "Locations"
      methods := [
        { name? := "ListLocations"
          inputType? := ".google.cloud.location.ListLocationsRequest"
          outputType? := ".google.cloud.location.ListLocationsResponse"
          options? := bound [
            ("additionalBindings",
              .array [.object [("get", .string "/v1/\x7bname=projects/*\x7d/locations")]]),
            ("get", .string "/v1/\x7bname=locations\x7d")] },
        { name? := "GetLocation"
          inputType? := ".google.cloud.location.GetLocationRequest"
          outputType? := ".google.cloud.location.Location"
          options? := bound [
            ("additionalBindings",
              .array [.object [("get", .string "/v1/\x7bname=projects/*/locations/*\x7d")]]),
            ("get", .string "/v1/\x7bname=locations/*\x7d")] }]
      options? :=
        some (Table.ofList [("[google.api.default_host]", .string "cloud.googleapis.com")]) }]

/-- The service for long-running operations. -/
def operationsFile : FileDecl where
  name? := "google/longrunning/operations.proto"
  package? := "google.longrunning"
  messages := [
    { name? := "Operation"
      fields := [
        singular 1 "name" "TYPE_STRING" "name",
        { singular 2 "metadata" "TYPE_MESSAGE" "metadata" with
          typeName? := ".google.protobuf.Any" },
        singular 3 "done" "TYPE_BOOL" "done",
        { singular 4 "error" "TYPE_MESSAGE" "error" with typeName? := ".google.rpc.Status",
                                                         oneofIndex? := some 0 },
        { singular 5 "response" "TYPE_MESSAGE" "response" with
          typeName? := ".google.protobuf.Any", oneofIndex? := some 0 }]
      oneofs := [{ name? := "result" }] },
    { name? := "GetOperationRequest"
      fields := [
        singular 1 "name" "TYPE_STRING" "name"] },
    { name? := "ListOperationsRequest"
      fields := [
        singular 4 "name" "TYPE_STRING" "name",
        singular 1 "filter" "TYPE_STRING" "filter",
        singular 2 "page_size" "TYPE_INT32" "pageSize",
        singular 3 "page_token" "TYPE_STRING" "pageToken"] },
    { name? := "ListOperationsResponse"
      fields := [
        { repeated 1 "operations" "TYPE_MESSAGE" "operations" with
          typeName? := ".google.longrunning.Operation" },
        singular 2 "next_page_token" "TYPE_STRING" "nextPageToken"] },
    { name? := "CancelOperationRequest"
      fields := [
        singular 1 "name" "TYPE_STRING" "name"] },
    { name? := "DeleteOperationRequest"
      fields := [
        singular 1 "name" "TYPE_STRING" "name"] },
    { name? := "WaitOperationRequest"
      fields := [
        singular 1 "name" "TYPE_STRING" "name",
        { singular 2 "timeout" "TYPE_MESSAGE" "timeout" with
          typeName? := ".google.protobuf.Duration" }] },
    { name? := "OperationInfo"
      fields := [
        singular 1 "response_type" "TYPE_STRING" "responseType",
        singular 2 "metadata_type" "TYPE_STRING" "metadataType"] }]
  services := [
    { name? := "Operations"
      methods := [
        { name? := "ListOperations"
          inputType? := ".google.longrunning.ListOperationsRequest"
          outputType? := ".google.longrunning.ListOperationsResponse"
          options? := bound [("get", .string "/v1/\x7bname=operations\x7d")] },
        { name? := "GetOperation"
          inputType? := ".google.longrunning.GetOperationRequest"
          outputType? := ".google.longrunning.Operation"
          options? := bound [("get", .string "/v1/\x7bname=operations/**\x7d")] },
        { name? := "DeleteOperation"
          inputType? := ".google.longrunning.DeleteOperationRequest"
          outputType? := ".google.protobuf.Empty"
          options? := bound [("delete", .string "/v1/\x7bname=operations/**\x7d")] },
        { name? := "CancelOperation"
          inputType? := ".google.longrunning.CancelOperationRequest"
          outputType? := ".google.protobuf.Empty"
          options? := bound [("body", .string "*"),
            ("post", .string "/v1/\x7bname=operations/**\x7d:cancel")] },
        { name? := "WaitOperation"
          inputType? := ".google.longrunning.WaitOperationRequest"
          outputType? := ".google.longrunning.Operation" }]
      options? :=
        some (Table.ofList [("[google.api.default_host]", .string "longrunning.googleapis.com")]) }]

/-! ### Look-up -/

/-- All bundled files. -/
def bundledFiles : List FileDecl := [
  anyFile, durationFile, emptyFile, fieldMaskFile, statusFile, exprFile, iamOptionsFile,
  iamPolicyFile, iamServiceFile, locationsFile, operationsFile]

/-- The bundled file of a name. -/
def bundledFile? (name : String) : Option FileDecl := bundledFiles.find? (·.name = name)

end ProtoApi.Mixin
