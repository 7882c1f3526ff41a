import Inari.Agent.Documents

/-!
# From an admission request to a manifest

`DocumentAdmissionService.admit` as a whole, and `manifest_from_admission` of
`inari/spool/manifest.py`.
-/

namespace Inari.Agent

open Lib

/-- The clocks and the authority as one call of `admit` meets them, in the order of its reads. -/
structure AdmissionMoment where
  resolveUtc : Time
  resolveMonotonic : Time
  checkUtc : Time
  checkMonotonic : Time
  nowUtc : Time
  nowMonotonic : Time
  capMonotonic : Time
  authority : AuthorityRecords

structure DurableAdmission where
  work : DocumentWork
  authorizationScope : AdmissionAuthorization
  deadline : DocumentAdmissionService.AdmissionDeadline
  payloadFingerprint : Bytes
  mediaType : String
  normalizedOptions : Bytes
  authorityProof : AuthorityProof

namespace DocumentAdmissionService

/-- What the checks of the request itself leave for the rest of `admit`. -/
structure CheckedRequest where
  mediaType : String
  normalizedOptions : Bytes
  authorizationScope : AdmissionAuthorization

def checkRequest (tools : DocumentTools) (request : AdmissionRequest) :
    Except DocumentAdmissionError CheckedRequest := do
  validateContext request.work
  let mediaType ← normalizeMediaType tools request.mediaType
  let normalizedOptions ← normalizeOptions tools request.options
  validateDocument tools request.work request.options
  require (mediaType == expectedMediaType request.work.operation)
    (policyRejected "The media type does not match the document operation.")
  let scope ← authorizationScope request.authorization request.work
  pure ⟨mediaType, normalizedOptions, scope⟩

def devicePurpose (work : DocumentWork) : String :=
  match work.operation, work.context with
  | .receiptImage, .submission c =>
    if c.origin.segment.isSome then "pos_preparation" else "pos_receipt"
  | .receiptImage, .managed _ => "pos_receipt"
  | .reportPdf, _ => "report_pdf"
  | .labelDocument, _ => "label_document"

def authorityScope : DocumentSubmissionContext → AuthorityScope
  | .managed c => ⟨c.database, c.organizationId, c.siteId, .site, none⟩
  | .submission c => ⟨c.origin.database, c.organizationId, c.siteId, .posConfiguration,
      some c.origin.posConfigurationId⟩

def authorityTarget (tools : DocumentTools) (work : DocumentWork) (checked : CheckedRequest)
    (expiresAt : Time) : CapabilityAdmissionTarget where
  scope := authorityScope work.context
  purpose := devicePurpose work
  deviceId := work.context.fields.deviceId
  bindingRevisionId := work.context.fields.bindingRevisionId
  operation := work.operation.value
  mediaType := checked.mediaType
  contractMajor := work.context.fields.contractMajor.toNat
  optionsDigest := tools.sha256 checked.normalizedOptions
  requestedExpiresAt := expiresAt

/-- `_document_authority_error` -/
def authorityProblem : AuthorityErrorCode → ProblemCode
  | .invalidRequest => .payloadInvalid
  | .scopeMismatch => .permissionDenied
  | .notFound | .revoked | .graphMismatch | .observationDrift => .capabilityChanged
  | .signatureInvalid | .signerPurposeMismatch | .authorityUnavailable => .serviceUnavailable
  | .expired => .expired
  | .certificationRequired | .testRequired => .certificationRequired
  | .observationUnavailable | .deviceNotReady => .deviceUnavailable

def authorizeWork (authority : AuthorityRecords) (target : CapabilityAdmissionTarget)
    (now : Time) : Except DocumentAdmissionError AuthorityProof :=
  match DeviceCapabilityAuthority.authorize authority target now with
  | .ok proof => .ok proof
  | .error e => .error ⟨authorityProblem e.code, e.message⟩

def fingerprintInput (work : DocumentWork) (mediaType : String) (options : Bytes)
    (expiresAt : Time) : DeviceWorkFingerprintInput where
  contractMajor := work.context.fields.contractMajor.toNat
  operation := work.operation.value
  deviceId := work.context.fields.deviceId
  mediaType := mediaType
  document := work.document.content
  options := options
  expiresAt := expiresAt

/-- `admit`, up to the call of the store. -/
def prepareAdmission (tools : DocumentTools) (moment : AdmissionMoment)
    (request : AdmissionRequest) : Except DocumentAdmissionError DurableAdmission := do
  let work := request.work
  let checked ← checkRequest tools request
  let deadline := resolveDeadline moment.resolveUtc moment.resolveMonotonic
    request.trustedManagedExpiresAt
  require (!deadline.isExpired moment.checkUtc moment.checkMonotonic)
    ⟨.expired, "The Device Work deadline has passed."⟩
  require (!deadline.isExpired moment.nowUtc moment.nowMonotonic)
    ⟨.expired, "The Device Work deadline has passed."⟩
  let proof ← authorizeWork moment.authority
    (authorityTarget tools work checked deadline.expiresAt) moment.nowUtc
  let deadline ← capDeadline deadline proof.validUntil moment.nowUtc moment.capMonotonic
  pure {
    work := work
    authorizationScope := checked.authorizationScope
    deadline := deadline
    payloadFingerprint := fingerprintDeviceWork tools.toDigestTools
      (fingerprintInput work checked.mediaType checked.normalizedOptions deadline.expiresAt)
    mediaType := checked.mediaType
    normalizedOptions := checked.normalizedOptions
    authorityProof := proof }

end DocumentAdmissionService

namespace DurableSpoolAdmissionStore

open DocumentAdmissionService

def localOriginValues (c : SubmissionContext) : Json :=
  let origin := c.origin
  .obj ([
    ("content_revision", .str origin.contentRevision),
    ("database", .str origin.database),
    ("document_kind", .str origin.documentKind),
    ("offline_order_id", .str origin.offlineOrderId),
    ("organization_id", .str c.organizationId),
    ("paired_client_id", .str c.pairedClientId),
    ("pos_configuration_id", .str origin.posConfigurationId),
    ("pos_session_id", .str origin.posSessionId),
    ("server_order_id", .text? origin.serverOrderId),
    ("site_id", .str c.siteId)] ++
    match origin.segment with
    | none => []
    | some s => [
      ("preparation_revision", .str s.preparationRevision),
      ("segment_index", .int s.segmentIndex),
      ("segment_kind", .str s.segmentKind)])

def sourceValues : ReportSource → Json
  | .records model orderedIds => .obj [("kind", .str "records"), ("model", .str model),
      ("ordered_ids", .arr (orderedIds.map .int))]
  | .wizard model inputDigest => .obj [("kind", .str "wizard"), ("model", .str model),
      ("input_digest", .str inputDigest)]

def managedOriginValues (c : ManagedSubmissionContext) : Json :=
  let binding := c.origin.binding
  .obj [
    ("binding", .obj [
      ("binding_revision_id", .str binding.bindingRevisionId),
      ("command_profile_id", .text? binding.commandProfileId),
      ("hardware_matrix_digest", .text? binding.hardwareMatrixDigest),
      ("layout_profile_id", .text? binding.layoutProfileId),
      ("report_action_id", .str binding.reportActionId),
      ("report_binding_id", .str binding.reportBindingId),
      ("report_contract_digest", .str binding.reportContractDigest),
      ("template_digest", .str binding.templateDigest)]),
    ("company_id", .str c.companyId),
    ("database", .str c.database),
    ("managed_work_id", .str c.managedWorkId),
    ("organization_id", .str c.organizationId),
    ("rendered_document_index", .int c.origin.renderedDocumentIndex),
    ("route", .str c.origin.route),
    ("site_id", .str c.siteId),
    ("source", sourceValues c.origin.source)]

/-- The columns that depend on the kind of context and authorization. -/
structure ScopeColumns where
  scopeKind : ScopeKind
  managedWorkId : Option String
  database : String
  posConfigurationId : Option String
  pairedClientId : Option String
  expectedPurpose : String
  originKind : OriginKind
  originValues : Json
  grantId : Option String
  grantPairingId : Option String
  grantGeneration : Option Nat
  authorizationValues : Json

def grantColumns (g : AdmissionGrant) (c : SubmissionContext) : ScopeColumns where
  scopeKind := .pairedClient
  managedWorkId := none
  database := c.origin.database
  posConfigurationId := some c.origin.posConfigurationId
  pairedClientId := some c.pairedClientId
  expectedPurpose := if c.origin.segment.isSome then "pos_preparation" else "pos_receipt"
  originKind := if c.origin.segment.isSome then .preparation else .pos
  originValues := localOriginValues c
  grantId := some g.grantId
  grantPairingId := some g.pairingId
  grantGeneration := some g.generation
  authorizationValues := .obj [
    ("actor_id", .str g.actorId),
    ("authorization_digest", .str g.authorizationDigest),
    ("binding_revision_id", .str g.bindingRevisionId),
    ("database", .str g.database),
    ("device_id", .str g.deviceId),
    ("operation", .str g.operation.value),
    ("organization_id", .str g.organizationId),
    ("paired_client_id", .str g.pairedClientId),
    ("pos_configuration_id", .str g.posConfigurationId),
    ("site_id", .str g.siteId)]

def managedColumns (a : ManagedAdmissionAuthorization) (work : DocumentWork)
    (c : ManagedSubmissionContext) : ScopeColumns where
  scopeKind := .deviceManager
  managedWorkId := some c.managedWorkId
  database := c.database
  posConfigurationId := none
  pairedClientId := none
  expectedPurpose := work.operation.value
  originKind := .report
  originValues := managedOriginValues c
  grantId := none
  grantPairingId := none
  grantGeneration := none
  authorizationValues := .obj [
    ("actor_id", .str a.actorId),
    ("authorization_digest", .str a.authorizationDigest),
    ("binding_revision_id", .str a.bindingRevisionId),
    ("database", .str a.database),
    ("device_id", .str a.deviceId),
    ("managed_work_id", .str a.managedWorkId),
    ("operation", .str a.operation.value),
    ("organization_id", .str a.organizationId),
    ("site_id", .str a.siteId)]

def scopeColumns (authorization : AdmissionAuthorization) (work : DocumentWork) :
    Except SpoolError ScopeColumns :=
  match authorization, work.context with
  | .grant g, .submission c =>
    if grantPermits g work c then .ok (grantColumns g c) else .error (.plain .permissionDenied)
  | .managed a, .managed c =>
    if managedPermits a work c then .ok (managedColumns a work c)
    else .error (.plain .permissionDenied)
  | _, _ => .error (.plain .permissionDenied)

/-- The proof is for this work and covers its deadline. -/
def proofCovers (proof : AuthorityProof) (admission : DurableAdmission) (purpose : String)
    (optionsDigest : Bytes) : Bool :=
  let context := admission.work.context.fields
  proof.bindingRevisionId == context.bindingRevisionId && proof.deviceId == context.deviceId &&
  proof.purpose == purpose && proof.operation == admission.work.operation.value &&
  proof.mediaType == admission.mediaType &&
  proof.contractMajor == context.contractMajor.toNat && proof.optionsDigest == optionsDigest &&
  decide (admission.deadline.expiresAt ≤ proof.validUntil) &&
  decide (proof.issuedAt < proof.validUntil)

def canonicalText (tools : DocumentTools) (value : Json) : Except SpoolError String :=
  orRaise (tools.canonicalJson value) (.plain .payloadInvalid)

def manifestOf (tools : DocumentTools) (admission : DurableAdmission) (columns : ScopeColumns)
    (originJson authorizationJson : String) : AdmissionManifest :=
  let context := admission.work.context.fields
  { scopeKind := columns.scopeKind
    managedWorkId := columns.managedWorkId
    grantId := columns.grantId
    grantPairingId := columns.grantPairingId
    grantGeneration := columns.grantGeneration
    idempotencyKey := admission.work.idempotencyKey
    database := columns.database
    organizationId := context.organizationId
    siteId := context.siteId
    posConfigurationId := columns.posConfigurationId
    pairedClientId := columns.pairedClientId
    actorId := context.actorId
    deviceId := context.deviceId
    bindingRevisionId := context.bindingRevisionId
    authorizationDigest := tools.sha256 (encode context.authorizationDigest)
    operation := admission.work.operation.value
    mediaType := admission.mediaType
    normalizedOptionsDigest := tools.sha256 admission.normalizedOptions
    normalizedOptions := admission.normalizedOptions
    grantScopeDigest := tools.sha256 (encode authorizationJson)
    originSubmissionKey := context.originSubmissionKey
    originKind := columns.originKind
    originJson := originJson
    contractMajor := context.contractMajor.toNat
    copyOrdinal := context.copyOrdinal.toNat
    intentId := context.printIntentId
    fingerprint := admission.payloadFingerprint
    deadlineAt := admission.deadline.expiresAt
    originalSizeBytes := admission.work.document.content.length
    authorityProof := admission.authorityProof }

def manifestFromAdmission (tools : DocumentTools) (admission : DurableAdmission) :
    Except SpoolError AdmissionManifest := do
  let work := admission.work
  require (admission.mediaType == expectedMediaType work.operation)
    (.plain .documentPolicyRejected)
  require (admission.payloadFingerprint.length == 32 && !work.document.content.isEmpty)
    (.plain .payloadInvalid)
  let columns ← scopeColumns admission.authorizationScope work
  require (proofCovers admission.authorityProof admission columns.expectedPurpose
    (tools.sha256 admission.normalizedOptions)) (.plain .permissionDenied)
  require (fingerprintDeviceWork tools.toDigestTools
      (fingerprintInput work admission.mediaType admission.normalizedOptions
        admission.deadline.expiresAt) == admission.payloadFingerprint) (.plain .payloadInvalid)
  let originJson ← canonicalText tools columns.originValues
  let authorizationJson ← canonicalText tools columns.authorizationValues
  pure (manifestOf tools admission columns originJson authorizationJson)

end DurableSpoolAdmissionStore

/-- What `admit` may raise before the store reads its tables. -/
inductive AdmitError
  | document (e : DocumentAdmissionError)
  | spool (e : SpoolError)

/-- The manifest with which the store of `admit` starts. -/
def admitManifest (tools : DocumentTools) (moment : AdmissionMoment)
    (request : AdmissionRequest) : Except AdmitError AdmissionManifest :=
  match DocumentAdmissionService.prepareAdmission tools moment request with
  | .error e => .error (.document e)
  | .ok admission =>
    match DurableSpoolAdmissionStore.manifestFromAdmission tools admission with
    | .error e => .error (.spool e)
    | .ok m => .ok m

end Inari.Agent
