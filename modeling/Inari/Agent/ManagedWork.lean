import Inari.Agent.DocumentAdmission
import Inari.Agent.ManagedDispatch

/-!
# From a verified dispatch to an admission request

`managed_admission_request` of `inari/gateway/bridges/managed_work.py`.
-/

namespace Inari.Agent

open Lib

/-- `model_dump(mode="json")` -/
def ReportBindingClaimPayload.modelDump (b : ReportBindingClaimPayload) : Json :=
  .obj [
    ("report_binding_id", .str b.reportBindingId),
    ("binding_revision_id", .str b.bindingRevisionId),
    ("report_action_id", .str b.reportActionId),
    ("report_contract_digest", .str b.reportContractDigest),
    ("template_digest", .str b.templateDigest),
    ("command_profile_id", .text? b.commandProfileId),
    ("layout_profile_id", .text? b.layoutProfileId),
    ("hardware_matrix_digest", .text? b.hardwareMatrixDigest)]

def ReportBindingClaimPayload.binding (b : ReportBindingClaimPayload) : ReportBinding where
  reportBindingId := b.reportBindingId
  bindingRevisionId := b.bindingRevisionId
  reportActionId := b.reportActionId
  reportContractDigest := b.reportContractDigest
  templateDigest := b.templateDigest
  commandProfileId := b.commandProfileId
  layoutProfileId := b.layoutProfileId
  hardwareMatrixDigest := b.hardwareMatrixDigest

def ReportSourcePayload.source : ReportSourcePayload → ReportSource
  | .records model orderedIds => .records model orderedIds
  | .wizard model inputDigest => .wizard model inputDigest

def ReportRoutePayload.value : ReportRoutePayload → String
  | .manual => "manual"
  | .automatic => "automatic"

def ReportPrintOriginPayload.origin (o : ReportPrintOriginPayload) : ReportPrintOrigin where
  binding := o.binding.binding
  route := o.route.value
  source := o.source.source
  renderedDocumentIndex := o.renderedDocumentIndex
  copyOrdinal := o.copyOrdinal

def ManagedDocumentPayload.kind : ManagedDocumentPayload → DocumentKind
  | .reportPdf _ => .reportPdf
  | .labelDocument _ => .labelDocument

variable (tools : WireTools) (dispatch : VerifiedManagedDispatch)

/-- `sha256(rfc8785.dumps(value)).hexdigest()` -/
def canonicalDigest (value : Json) : String :=
  Hex.encode (tools.sha256 (tools.canonical value))

def managedAuthorizationDigest (issuer : String) : String :=
  canonicalDigest tools (.obj [
    ("dispatch_epoch", .int dispatch.dispatchEpoch),
    ("issuer", .str issuer),
    ("managed_work_id", .str dispatch.managedWorkId),
    ("report_binding", dispatch.work.origin.binding.modelDump)])

def originSubmissionKey : String :=
  "report:" ++ canonicalDigest tools (.obj [
    ("copy_ordinal", .int dispatch.work.origin.copyOrdinal),
    ("print_intent_id", .str dispatch.work.printIntentId),
    ("rendered_document_index", .int dispatch.work.origin.renderedDocumentIndex)])

def managedContext (issuer : String) : ManagedSubmissionContext where
  contractMajor := ManagedDeviceWorkPayload.contractMajor
  database := dispatch.work.scope.database
  companyId := dispatch.work.scope.companyId
  organizationId := dispatch.work.scope.organizationId
  siteId := dispatch.work.scope.siteId
  managedWorkId := dispatch.managedWorkId
  printIntentId := dispatch.work.printIntentId
  originSubmissionKey := originSubmissionKey tools dispatch
  origin := dispatch.work.origin.origin
  bindingRevisionId := dispatch.work.origin.binding.bindingRevisionId
  deviceId := dispatch.work.deviceId
  actorId := "controller:" ++ issuer
  authorizationDigest := managedAuthorizationDigest tools dispatch issuer
  copyOrdinal := dispatch.work.origin.copyOrdinal

def managedAuthorization (context : ManagedSubmissionContext) (operation : DocumentKind) :
    ManagedAdmissionAuthorization where
  managedWorkId := context.managedWorkId
  organizationId := context.organizationId
  siteId := context.siteId
  database := context.database
  actorId := context.actorId
  deviceId := context.deviceId
  bindingRevisionId := context.bindingRevisionId
  operation := operation
  authorizationDigest := context.authorizationDigest

def managedAdmissionRequest (trust : ManagedDispatchEnrollment) : AdmissionRequest where
  work := {
    idempotencyKey := dispatch.idempotencyKey
    context := .managed (managedContext tools dispatch trust.issuer)
    document := ⟨dispatch.work.document.kind, dispatch.documentBytes⟩ }
  authorization := .managed
    (managedAuthorization (managedContext tools dispatch trust.issuer) dispatch.work.document.kind)
  mediaType := dispatch.work.document.mediaType
  options := dispatch.work.normalizedDeviceOptions
  trustedManagedExpiresAt := some dispatch.expiresAt

end Inari.Agent
