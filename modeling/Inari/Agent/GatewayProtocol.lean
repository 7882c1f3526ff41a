import Inari.Contracts.Validation

/-!
# The gateway protocol as the Agent reads it

The models of `inari/gateway/protocol.py` that a Controller message passes. A field with one
possible value is checked and not kept.
-/

namespace Inari.Agent

open Lib Read

/-- `Field(min_length=1, max_length=256)` -/
def shortText : Json → Validated String := boundedText 1 (some 256)

/-- The pattern `^[0-9a-f]{64}$` -/
def isHexDigest (s : String) : Bool :=
  s.length == 64 && s.toList.all (fun c => c.isDigit || ('a' ≤ c && c ≤ 'f'))

structure ManagedDispatchAuthenticatedDataPayload where
  organizationId : String
  siteId : String
  agentId : String
  managedWorkId : String
  idempotencyKey : String
  payloadFingerprint : String
  dispatchEpoch : Nat
  sequence : Nat
  issuedAt : Int
  expiresAt : Int
  workExpiresAt : Int
deriving DecidableEq

variable (tools : WireTools) (j : Json)

def ManagedDispatchAuthenticatedDataPayload.modelValidate :
    Validated ManagedDispatchAuthenticatedDataPayload := do
  let fields ← object j
  let organizationId ← field fields "organization_id" shortText
  let siteId ← field fields "site_id" shortText
  let agentId ← field fields "agent_id" shortText
  let managedWorkId ← field fields "managed_work_id" shortText
  -- `strip_whitespace=False`
  let idempotencyKey ← field fields "idempotency_key"
    (fun j => do checkLength 1 (some 128) (← rawText j))
  let payloadFingerprint ← field fields "payload_fingerprint" (matchingText isHexDigest)
  let dispatchEpoch ← field fields "dispatch_epoch" (natural 1 none)
  let sequence ← field fields "sequence" (natural 1 none)
  let issuedAt ← field fields "issued_at" integer
  let expiresAt ← field fields "expires_at" integer
  let workExpiresAt ← field fields "work_expires_at" (datetime tools)
  forbidExtra ["organization_id", "site_id", "agent_id", "managed_work_id", "idempotency_key",
    "payload_fingerprint", "dispatch_epoch", "sequence", "issued_at", "expires_at",
    "work_expires_at"] fields
  pure ⟨organizationId, siteId, agentId, managedWorkId, idempotencyKey, payloadFingerprint,
    dispatchEpoch, sequence, issuedAt, expiresAt, workExpiresAt⟩

/-- `model_dump(mode="json")` -/
def ManagedDispatchAuthenticatedDataPayload.modelDump
    (d : ManagedDispatchAuthenticatedDataPayload) : Json :=
  .obj [("organization_id", .str d.organizationId), ("site_id", .str d.siteId),
    ("agent_id", .str d.agentId), ("managed_work_id", .str d.managedWorkId),
    ("idempotency_key", .str d.idempotencyKey),
    ("payload_fingerprint", .str d.payloadFingerprint),
    ("dispatch_epoch", .int d.dispatchEpoch), ("sequence", .int d.sequence),
    ("issued_at", .int d.issuedAt), ("expires_at", .int d.expiresAt),
    ("work_expires_at", .str (tools.rfc3339Micros d.workExpiresAt))]

structure SealedManagedDispatchPayload where
  keyId : String
  encapsulatedKeyBase64url : String
  ciphertextBase64url : String
deriving DecidableEq

def SealedManagedDispatchPayload.modelValidate : Validated SealedManagedDispatchPayload := do
  let fields ← object j
  let _ ← fieldD fields "protocol_version" 1 (natural 1 (some 1))
  let keyId ← field fields "key_id" shortText
  let _ ← fieldD fields "suite" ()
    (oneOf [("dhkem_x25519_hkdf_sha256_hkdf_sha256_aes256_gcm", ())])
  let encapsulatedKeyBase64url ← field fields "encapsulated_key_base64url" (boundedText 1 none)
  let ciphertextBase64url ← field fields "ciphertext_base64url" (boundedText 1 none)
  forbidExtra ["protocol_version", "key_id", "suite", "encapsulated_key_base64url",
    "ciphertext_base64url"] fields
  pure ⟨keyId, encapsulatedKeyBase64url, ciphertextBase64url⟩

structure DispatchDeviceWorkPayload where
  managedWorkId : String
  authenticatedData : ManagedDispatchAuthenticatedDataPayload
  sealedEnvelope : SealedManagedDispatchPayload
deriving DecidableEq

def DispatchDeviceWorkPayload.modelValidate : Validated DispatchDeviceWorkPayload := do
  let fields ← object j
  let managedWorkId ← field fields "managed_work_id" shortText
  let authenticatedData ← field fields "authenticated_data"
    (ManagedDispatchAuthenticatedDataPayload.modelValidate tools)
  let sealedEnvelope ← field fields "sealed_envelope" SealedManagedDispatchPayload.modelValidate
  forbidExtra ["managed_work_id", "authenticated_data", "sealed_envelope"] fields
  pure ⟨managedWorkId, authenticatedData, sealedEnvelope⟩

structure ManagedWorkScopePayload where
  database : String
  companyId : String
  organizationId : String
  siteId : String
  agentId : String
deriving DecidableEq

def ManagedWorkScopePayload.modelValidate : Validated ManagedWorkScopePayload := do
  let fields ← object j
  let database ← field fields "database" shortText
  let companyId ← field fields "company_id" shortText
  let organizationId ← field fields "organization_id" shortText
  let siteId ← field fields "site_id" shortText
  let agentId ← field fields "agent_id" shortText
  forbidExtra ["database", "company_id", "organization_id", "site_id", "agent_id"] fields
  pure ⟨database, companyId, organizationId, siteId, agentId⟩

structure ReportBindingClaimPayload where
  reportBindingId : String
  bindingRevisionId : String
  reportActionId : String
  reportContractDigest : String
  templateDigest : String
  commandProfileId : Option String
  layoutProfileId : Option String
  hardwareMatrixDigest : Option String
deriving DecidableEq

def ReportBindingClaimPayload.modelValidate : Validated ReportBindingClaimPayload := do
  let fields ← object j
  let reportBindingId ← field fields "report_binding_id" shortText
  let bindingRevisionId ← field fields "binding_revision_id" shortText
  let reportActionId ← field fields "report_action_id" shortText
  let reportContractDigest ← field fields "report_contract_digest" shortText
  let templateDigest ← field fields "template_digest" shortText
  let commandProfileId ← fieldD fields "command_profile_id" none (nullable text)
  let layoutProfileId ← fieldD fields "layout_profile_id" none (nullable text)
  let hardwareMatrixDigest ← fieldD fields "hardware_matrix_digest" none (nullable text)
  forbidExtra ["report_binding_id", "binding_revision_id", "report_action_id",
    "report_contract_digest", "template_digest", "command_profile_id", "layout_profile_id",
    "hardware_matrix_digest"] fields
  pure ⟨reportBindingId, bindingRevisionId, reportActionId, reportContractDigest, templateDigest,
    commandProfileId, layoutProfileId, hardwareMatrixDigest⟩

inductive ReportSourcePayload
  | records (model : String) (orderedIds : List Int)
  | wizard (model inputDigest : String)
deriving DecidableEq

def ReportSourcePayload.modelValidate : Validated ReportSourcePayload := do
  let fields ← object j
  let kind ← field fields "kind" rawText
  match kind with
  | "records" => do
    let model ← field fields "model" shortText
    let orderedIds ← field fields "ordered_ids" (items integer)
    forbidExtra ["kind", "model", "ordered_ids"] fields
    pure (.records model orderedIds)
  | "wizard" => do
    let model ← field fields "model" shortText
    let inputDigest ← field fields "input_digest" shortText
    forbidExtra ["kind", "model", "input_digest"] fields
    pure (.wizard model inputDigest)
  | _ => .error ⟨[], "union_tag_invalid"⟩

inductive ReportRoutePayload
  | manual | automatic
deriving DecidableEq

def ReportRoutePayload.values : List (String × ReportRoutePayload) :=
  [("manual", .manual), ("automatic", .automatic)]

structure ReportPrintOriginPayload where
  binding : ReportBindingClaimPayload
  route : ReportRoutePayload
  source : ReportSourcePayload
  renderedDocumentIndex : Nat
  copyOrdinal : Nat
deriving DecidableEq

def ReportPrintOriginPayload.modelValidate : Validated ReportPrintOriginPayload := do
  let fields ← object j
  let binding ← field fields "binding" ReportBindingClaimPayload.modelValidate
  let route ← field fields "route" (oneOf ReportRoutePayload.values)
  let source ← field fields "source" ReportSourcePayload.modelValidate
  let renderedDocumentIndex ← field fields "rendered_document_index" (natural 0 none)
  let copyOrdinal ← field fields "copy_ordinal" (natural 1 none)
  forbidExtra ["binding", "route", "source", "rendered_document_index", "copy_ordinal"] fields
  pure ⟨binding, route, source, renderedDocumentIndex, copyOrdinal⟩

inductive ManagedDocumentPayload
  | reportPdf (contentBase64 : String)
  | labelDocument (contentBase64 : String)
deriving DecidableEq

def ManagedDocumentPayload.modelValidate : Validated ManagedDocumentPayload := do
  let fields ← object j
  let operation ← field fields "operation" rawText
  match operation with
  | "report_pdf" => do
    let contentBase64 ← field fields "content_base64" text
    forbidExtra ["operation", "content_base64"] fields
    pure (.reportPdf contentBase64)
  | "label_document" => do
    let contentBase64 ← field fields "content_base64" text
    forbidExtra ["operation", "content_base64"] fields
    pure (.labelDocument contentBase64)
  | _ => .error ⟨[], "union_tag_invalid"⟩

structure ManagedDeviceWorkPayload where
  scope : ManagedWorkScopePayload
  printIntentId : String
  deviceId : String
  origin : ReportPrintOriginPayload
  document : ManagedDocumentPayload
  normalizedDeviceOptions : List (String × Json)
deriving DecidableEq

def ManagedDeviceWorkPayload.contractMajor : Nat := 1

def ManagedDeviceWorkPayload.modelValidate : Validated ManagedDeviceWorkPayload := do
  let fields ← object j
  let _ ← fieldD fields "contract_major" 1 (natural 1 (some 1))
  let scope ← field fields "scope" ManagedWorkScopePayload.modelValidate
  let printIntentId ← field fields "print_intent_id" shortText
  let deviceId ← field fields "device_id" shortText
  let origin ← field fields "origin" ReportPrintOriginPayload.modelValidate
  let document ← field fields "document" ManagedDocumentPayload.modelValidate
  let normalizedDeviceOptions ← fieldD fields "normalized_device_options" [] jsonObject
  forbidExtra ["contract_major", "scope", "print_intent_id", "device_id", "origin", "document",
    "normalized_device_options"] fields
  pure ⟨scope, printIntentId, deviceId, origin, document, normalizedDeviceOptions⟩

structure ManagedDispatchClaimsPayload where
  iss : String
  aud : String
  authenticatedData : ManagedDispatchAuthenticatedDataPayload
  work : ManagedDeviceWorkPayload

def ManagedDispatchClaimsPayload.modelValidate : Validated ManagedDispatchClaimsPayload := do
  let fields ← object j
  let iss ← field fields "iss" shortText
  let aud ← field fields "aud" shortText
  let authenticatedData ← field fields "authenticated_data"
    (ManagedDispatchAuthenticatedDataPayload.modelValidate tools)
  let work ← field fields "work" ManagedDeviceWorkPayload.modelValidate
  forbidExtra ["iss", "aud", "authenticated_data", "work"] fields
  pure ⟨iss, aud, authenticatedData, work⟩

/-- `inari/printing/protocols/types.py` -/
inductive CutMode
  | full | partialCut
deriving DecidableEq

def CutMode.values : List (String × CutMode) := [("full", .full), ("partial", .partialCut)]

inductive GatewayDeviceCommandPayload
  | openCashDrawer
  | printTestPage
  | feedLines (count : Nat)
  | feedDots (count : Nat)
  | cutPaper (mode : CutMode)
deriving DecidableEq

/-- The union is discriminated by `kind`. -/
def GatewayDeviceCommandPayload.modelValidate : Validated GatewayDeviceCommandPayload := do
  let fields ← object j
  let kind ← field fields "kind" rawText
  match kind with
  | "open_cash_drawer" => do
    forbidExtra ["kind"] fields
    pure .openCashDrawer
  | "print_test_page" => do
    forbidExtra ["kind"] fields
    pure .printTestPage
  | "feed_lines" => do
    let count ← field fields "count" (natural 1 (some 24))
    forbidExtra ["kind", "count"] fields
    pure (.feedLines count)
  | "feed_dots" => do
    let count ← field fields "count" (natural 1 (some 255))
    forbidExtra ["kind", "count"] fields
    pure (.feedDots count)
  | "cut_paper" => do
    let mode ← fieldD fields "mode" .partialCut (oneOf CutMode.values)
    forbidExtra ["kind", "mode"] fields
    pure (.cutPaper mode)
  | _ => .error ⟨[], "union_tag_invalid"⟩

structure ControllerExecuteDeviceCommandPayload where
  deviceId : String
  command : GatewayDeviceCommandPayload
  metadata : List (String × Json)
deriving DecidableEq

/-- `GatewayCommandTargetPayload` -/
def targetDeviceId : Validated String := do
  let fields ← object j
  let deviceId ← field fields "device_id" shortText
  forbidExtra ["device_id"] fields
  pure deviceId

def ControllerExecuteDeviceCommandPayload.modelValidate :
    Validated ControllerExecuteDeviceCommandPayload := do
  let fields ← object j
  let deviceId ← field fields "target" targetDeviceId
  let command ← field fields "command" GatewayDeviceCommandPayload.modelValidate
  let metadata ← fieldD fields "metadata" [] jsonObject
  forbidExtra ["target", "command", "metadata"] fields
  pure ⟨deviceId, command, metadata⟩

inductive ControllerCommandContent
  | executeDeviceCommand (payload : ControllerExecuteDeviceCommandPayload)
  | cancelJob (jobId : String)
  | dispatchDeviceWork (payload : DispatchDeviceWorkPayload)
deriving DecidableEq

/-- The three messages share their first fields. -/
structure ControllerCommandMessage where
  messageId : String
  commandId : String
  sequence : Nat
  issuedAt : Option Int
  content : ControllerCommandContent
deriving DecidableEq

/-- `GatewayMessageType` -/
def ControllerCommandMessage.type (m : ControllerCommandMessage) : String :=
  match m.content with
  | .executeDeviceCommand _ => "controller.command.execute_device_command"
  | .cancelJob _ => "controller.command.cancel_job"
  | .dispatchDeviceWork _ => "controller.command.dispatch_device_work"

/-- The fields of one member of the union, whose last field is `name`. -/
def controllerMessage (fields : List (String × Json))
    (readIssuedAt : Validated (Option Int)) (name : String)
    (read : Json → Validated ControllerCommandContent) :
    Validated ControllerCommandMessage := do
  let messageId ← field fields "message_id" text
  let commandId ← field fields "command_id" text
  let sequence ← field fields "sequence" (natural 1 none)
  let issuedAt ← readIssuedAt
  let content ← field fields name read
  forbidExtra ["type", "message_id", "command_id", "sequence", "issued_at", name] fields
  pure ⟨messageId, commandId, sequence, issuedAt, content⟩

/-- `CONTROLLER_COMMAND_ADAPTER`: the union is discriminated by `type`. -/
def ControllerCommandMessage.modelValidate : Validated ControllerCommandMessage := do
  let fields ← object j
  let type ← field fields "type" rawText
  let optionalIssuedAt := fieldD fields "issued_at" none (nullable (datetime tools))
  match type with
  | "controller.command.execute_device_command" =>
    controllerMessage fields optionalIssuedAt "payload"
      (fun j => (ControllerExecuteDeviceCommandPayload.modelValidate j).map
        .executeDeviceCommand)
  | "controller.command.cancel_job" =>
    controllerMessage fields optionalIssuedAt "job_id" (fun j => (text j).map .cancelJob)
  | "controller.command.dispatch_device_work" =>
    controllerMessage fields ((field fields "issued_at" (datetime tools)).map some) "payload"
      (fun j => (DispatchDeviceWorkPayload.modelValidate tools j).map .dispatchDeviceWork)
  | _ => .error ⟨[], "union_tag_invalid"⟩

def controllerCommandList : Json → Validated (List ControllerCommandMessage) :=
  items (ControllerCommandMessage.modelValidate tools)

/-- `ControllerCommandHistoryPayload`, of which only the commands are used -/
def historyCommands : Validated (List ControllerCommandMessage) := do
  let fields ← object j
  let _ ← fieldD fields "selected_protocol_version" "" text
  let commands ← fieldD fields "commands" [] (controllerCommandList tools)
  forbidExtra ["selected_protocol_version", "commands"] fields
  pure commands

/-- `_parse_history_payload` of `data_plane/zenoh.py` -/
def parseHistoryPayload (payload : Json) : Validated (List ControllerCommandMessage) :=
  match payload with
  | .arr _ => controllerCommandList tools payload
  | .obj fields =>
    if fields.any (·.1 == "commands") then historyCommands tools payload
    else (ControllerCommandMessage.modelValidate tools payload).map ([·])
  | _ => (ControllerCommandMessage.modelValidate tools payload).map ([·])

end Inari.Agent
