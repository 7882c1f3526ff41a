import Inari.Agent.Spool
import Inari.Contracts.Fingerprint

/-!
# Document admission

`DocumentAdmissionService.admit` of `inari/documents/service.py` up to the durable store, with the
part of `DeviceCapabilityAuthority.authorize` that sets the validity of the proof.
-/

namespace Inari.Agent

open Lib

inductive DocumentKind
  | receiptImage | reportPdf | labelDocument
deriving DecidableEq

def DocumentKind.value : DocumentKind → String
  | .receiptImage => "receipt_image"
  | .reportPdf => "report_pdf"
  | .labelDocument => "label_document"

structure Document where
  kind : DocumentKind
  content : Bytes

structure PosPrintOrigin where
  database : String
  posConfigurationId : String
  posSessionId : String
  offlineOrderId : String
  serverOrderId : Option String
  documentKind : String
  contentRevision : String

structure PreparationSegment where
  segmentKind : String
  segmentIndex : Int
  preparationRevision : String

/-- A `PosPrintOrigin`, or with a segment a `PreparationPrintOrigin`. -/
structure LocalPrintOrigin extends PosPrintOrigin where
  segment : Option PreparationSegment

structure ReportBinding where
  reportBindingId : String
  bindingRevisionId : String
  reportActionId : String
  reportContractDigest : String
  templateDigest : String
  commandProfileId : Option String
  layoutProfileId : Option String
  hardwareMatrixDigest : Option String

inductive ReportSource
  | records (model : String) (orderedIds : List Int)
  | wizard (model : String) (inputDigest : String)

def ReportSource.model : ReportSource → String
  | .records model _ => model
  | .wizard model _ => model

structure ReportPrintOrigin where
  binding : ReportBinding
  route : String
  source : ReportSource
  renderedDocumentIndex : Int
  copyOrdinal : Int

structure ContextFields where
  contractMajor : Int
  organizationId : String
  siteId : String
  printIntentId : String
  originSubmissionKey : String
  bindingRevisionId : String
  deviceId : String
  actorId : String
  authorizationDigest : String
  copyOrdinal : Int

structure SubmissionContext extends ContextFields where
  pairedClientId : String
  origin : LocalPrintOrigin

structure ManagedSubmissionContext extends ContextFields where
  database : String
  companyId : String
  managedWorkId : String
  origin : ReportPrintOrigin

inductive DocumentSubmissionContext
  | submission (c : SubmissionContext)
  | managed (c : ManagedSubmissionContext)

def DocumentSubmissionContext.fields : DocumentSubmissionContext → ContextFields
  | .submission c => c.toContextFields
  | .managed c => c.toContextFields

structure DocumentWork where
  idempotencyKey : String
  context : DocumentSubmissionContext
  document : Document

def DocumentWork.operation (w : DocumentWork) : DocumentKind := w.document.kind

structure AuthorizationFields where
  organizationId : String
  siteId : String
  database : String
  actorId : String
  deviceId : String
  bindingRevisionId : String
  operation : DocumentKind
  authorizationDigest : String

/-- `AdmissionGrant`, and `AdmissionGrantScope` with the same fields. -/
structure AdmissionGrant extends AuthorizationFields where
  grantId : String
  pairingId : String
  generation : Nat
  posConfigurationId : String
  pairedClientId : String

/-- `ManagedAdmissionAuthorization`, and `ManagedAdmissionScope` with the same fields. -/
structure ManagedAdmissionAuthorization extends AuthorizationFields where
  managedWorkId : String

inductive AdmissionAuthorization
  | grant (g : AdmissionGrant)
  | managed (a : ManagedAdmissionAuthorization)

structure AdmissionRequest where
  work : DocumentWork
  authorization : AdmissionAuthorization
  mediaType : String
  options : List (String × Json)
  trustedManagedExpiresAt : Option Time := none

structure DocumentAdmissionError where
  code : ProblemCode
  message : String

structure ImageFile where
  format : String
  width : Nat
  height : Nat
  /-- `verify` and `load` succeed. -/
  complete : Bool

structure ZplLayout where
  profileId : String

structure DocumentTools extends DigestTools where
  /-- `str.lower` -/
  lower : String → String
  /-- `rfc8785.dumps`, as text -/
  canonicalJson : Json → Option String
  openImage : Bytes → Option ImageFile
  pdfValidator : Bytes → Int → Except DocumentAdmissionError Unit
  zplLayout : List (String × Json) → Option ZplLayout
  /-- `split_labels` with at most one label, or the text of its `LabelContractError` -/
  splitLabels : Bytes → ZplLayout → Except String Unit

namespace DocumentAdmissionService

def receiptImageMaxBytes : Nat := 2 * 1024 * 1024
def receiptImageMaxPixels : Nat := 32000000
def admissionTtl : Time := 300 * second
def maxIdentifierLength : Nat := 256

def payloadInvalid (message : String) : DocumentAdmissionError := ⟨.payloadInvalid, message⟩
def policyRejected (message : String) : DocumentAdmissionError := ⟨.documentPolicyRejected, message⟩
def permissionDenied (message : String) : DocumentAdmissionError := ⟨.permissionDenied, message⟩

def validateString (label value : String) : Except DocumentAdmissionError Unit :=
  require (strip isPySpace value != "" && decide (value.length ≤ maxIdentifierLength))
    (payloadInvalid ("Device Work " ++ label ++ " must be a non-empty string."))

def validateStrings (values : List (String × String)) : Except DocumentAdmissionError Unit :=
  values.forM (fun (label, value) => validateString label value)

def validateOptionalStrings (values : List (String × Option String)) :
    Except DocumentAdmissionError Unit :=
  validateStrings (values.filterMap (fun (label, value) => value.map (fun v => (label, v))))

def validateSegment (origin : LocalPrintOrigin) (s : PreparationSegment) :
    Except DocumentAdmissionError Unit := do
  require (origin.documentKind == "preparation_ticket")
    (payloadInvalid "A preparation origin must identify a preparation ticket.")
  validateStrings [("preparation segment", s.segmentKind),
    ("preparation revision", s.preparationRevision)]
  require (["new", "cancelled", "note_update", "notes"].contains s.segmentKind)
    (payloadInvalid "The preparation segment is invalid.")
  require (decide (0 ≤ s.segmentIndex) && decide (s.segmentIndex ≤ 63))
    (payloadInvalid "Preparation segment index must be between 0 and 63.")

def validateLocalContext (c : SubmissionContext) : Except DocumentAdmissionError Unit := do
  validateString "paired client" c.pairedClientId
  validateStrings [
    ("database", c.origin.database),
    ("POS configuration", c.origin.posConfigurationId),
    ("POS session", c.origin.posSessionId),
    ("offline order", c.origin.offlineOrderId),
    ("document kind", c.origin.documentKind),
    ("content revision", c.origin.contentRevision)]
  validateOptionalStrings [("server order", c.origin.serverOrderId)]
  match c.origin.segment with
  | none => .ok ()
  | some s => validateSegment c.origin s

def validateSource : ReportSource → Except DocumentAdmissionError Unit
  | .wizard _ inputDigest => validateString "report wizard digest" inputDigest
  | .records _ orderedIds =>
    require (!orderedIds.isEmpty && orderedIds.all (fun id => decide (1 ≤ id)))
      (payloadInvalid "The report record source is invalid.")

def validateManagedContext (c : ManagedSubmissionContext) :
    Except DocumentAdmissionError Unit := do
  let binding := c.origin.binding
  validateStrings [
    ("database", c.database),
    ("company", c.companyId),
    ("Managed Work", c.managedWorkId),
    ("report binding", binding.reportBindingId),
    ("report action", binding.reportActionId),
    ("report contract digest", binding.reportContractDigest),
    ("template digest", binding.templateDigest)]
  validateOptionalStrings [
    ("command profile", binding.commandProfileId),
    ("layout profile", binding.layoutProfileId),
    ("hardware matrix digest", binding.hardwareMatrixDigest)]
  require (c.bindingRevisionId == binding.bindingRevisionId)
    (payloadInvalid "The report origin Binding Revision does not match the work context.")
  require (["manual", "automatic"].contains c.origin.route)
    (payloadInvalid "The report route is invalid.")
  require (decide (0 ≤ c.origin.renderedDocumentIndex) && c.origin.copyOrdinal == c.copyOrdinal)
    (payloadInvalid "The report document or copy ordinal is invalid.")
  validateString "report source model" c.origin.source.model
  validateSource c.origin.source

def validateContext (work : DocumentWork) : Except DocumentAdmissionError Unit := do
  let context := work.context.fields
  require (context.contractMajor == 1)
    ⟨.contractMismatch, "Device Work requires Contract Major 1."⟩
  validateString "idempotency key" work.idempotencyKey
  validateStrings [
    ("organization", context.organizationId),
    ("site", context.siteId),
    ("print intent", context.printIntentId),
    ("origin submission", context.originSubmissionKey),
    ("binding revision", context.bindingRevisionId),
    ("device", context.deviceId),
    ("actor", context.actorId),
    ("authorization digest", context.authorizationDigest)]
  require (decide (1 ≤ context.copyOrdinal))
    (payloadInvalid "Device Work copy ordinal must be positive.")
  match work.context with
  | .submission c => do
    require (work.document.kind == .receiptImage)
      (policyRejected "Local client work only accepts receipt images.")
    validateLocalContext c
  | .managed c => do
    require (work.document.kind != .receiptImage)
      (policyRejected "Managed report work only accepts PDF or label documents.")
    validateManagedContext c

/-- The characters of `_MEDIA_TYPE_PATTERN` on both sides of the slash. -/
def isMediaTypeChar (c : Char) : Bool :=
  ('a' ≤ c && c ≤ 'z') || ('0' ≤ c && c ≤ '9') || "!#$&^_.+-".toList.contains c

def isMediaType (value : String) : Bool :=
  match value.toList.span isMediaTypeChar with
  | (kind, '/' :: subtype) =>
    !kind.isEmpty && !subtype.isEmpty && subtype.all isMediaTypeChar
  | _ => false

variable (tools : DocumentTools)

def normalizeMediaType (value : String) : Except DocumentAdmissionError String := do
  validateString "media type" value
  let normalized := tools.lower (strip isPySpace value)
  require (isMediaType normalized)
    (payloadInvalid "Media type must be a normalized type/subtype value.")
  pure normalized

def normalizeOptions (options : List (String × Json)) : Except DocumentAdmissionError Bytes :=
  (orRaise (tools.canonicalJson (.obj options))
    (payloadInvalid "Device options must contain finite JSON values.")).map encode

def validateReceiptImage (content : Bytes) : Except DocumentAdmissionError Unit := do
  require (!content.isEmpty) (payloadInvalid "Receipt image content must be non-empty bytes.")
  require (decide (content.length ≤ receiptImageMaxBytes))
    (payloadInvalid "Receipt image exceeds the 2 MiB limit.")
  let image ← orRaise (tools.openImage content)
    (payloadInvalid "Receipt image must be a valid JPEG.")
  require (image.format == "JPEG") (payloadInvalid "Receipt image must be a valid JPEG.")
  require (decide (0 < image.width) && decide (0 < image.height))
    (payloadInvalid "Receipt image dimensions must be positive.")
  require (decide (image.width * image.height ≤ receiptImageMaxPixels))
    (payloadInvalid "Receipt image exceeds the 32 megapixels limit.")
  require image.complete (payloadInvalid "Receipt image must be a valid JPEG.")

def validateReportPdf (content : Bytes) (options : List (String × Json)) :
    Except DocumentAdmissionError Unit :=
  match options with
  | [("dpi", .int dpi)] => do
    require ([150, 203, 300].contains dpi)
      (policyRejected "Report PDF options require one supported DPI.")
    tools.pdfValidator content dpi
  | _ => .error (policyRejected "Report PDF options require one supported DPI.")

def labelLayout (work : DocumentWork) (options : List (String × Json)) : Option ZplLayout :=
  match options, work.context with
  | [("layout", .obj values)], .managed c =>
    (tools.zplLayout values).filter (fun layout =>
      some layout.profileId == c.origin.binding.layoutProfileId &&
      c.origin.binding.commandProfileId == some "zpl_v1" &&
      (c.origin.binding.hardwareMatrixDigest.getD "") != "")
  | _, _ => none

def validateLabelDocument (content : Bytes) (layout : ZplLayout) :
    Except DocumentAdmissionError Unit :=
  match tools.splitLabels content layout with
  | .ok () => .ok ()
  | .error message => .error ⟨.labelDataInvalid, message⟩

def validateDocument (work : DocumentWork) (options : List (String × Json)) :
    Except DocumentAdmissionError Unit :=
  match work.document.kind with
  | .receiptImage => validateReceiptImage tools work.document.content
  | .reportPdf => validateReportPdf tools work.document.content options
  | .labelDocument => do
    let layout ← orRaise (labelLayout tools work options)
      (policyRejected "The Label Document layout contract is invalid.")
    validateLabelDocument tools work.document.content layout

def expectedMediaType : DocumentKind → String
  | .receiptImage => "image/jpeg"
  | .reportPdf => "application/pdf"
  | .labelDocument => "application/vnd.zebra-zpl"

def AuthorizationFields.permits (a : AuthorizationFields) (work : DocumentWork)
    (database : String) : Bool :=
  let context := work.context.fields
  a.organizationId == context.organizationId && a.siteId == context.siteId &&
  a.database == database && a.actorId == context.actorId && a.deviceId == context.deviceId &&
  a.bindingRevisionId == context.bindingRevisionId && a.operation == work.operation &&
  a.authorizationDigest == context.authorizationDigest

def grantPermits (g : AdmissionGrant) (work : DocumentWork) (c : SubmissionContext) : Bool :=
  AuthorizationFields.permits g.toAuthorizationFields work c.origin.database &&
  g.posConfigurationId == c.origin.posConfigurationId && g.pairedClientId == c.pairedClientId

def managedPermits (a : ManagedAdmissionAuthorization) (work : DocumentWork)
    (c : ManagedSubmissionContext) : Bool :=
  AuthorizationFields.permits a.toAuthorizationFields work c.database &&
  a.managedWorkId == c.managedWorkId

def authorizationScope (authorization : AdmissionAuthorization) (work : DocumentWork) :
    Except DocumentAdmissionError AdmissionAuthorization :=
  match authorization, work.context with
  | .grant g, .submission c =>
    if grantPermits g work c then .ok (.grant g)
    else .error (permissionDenied "The Client Grant does not permit this Device Work.")
  | .grant _, .managed _ =>
    .error (permissionDenied "The Client Grant does not permit this Device Work.")
  | .managed a, .managed c =>
    if managedPermits a work c then .ok (.managed a)
    else .error (permissionDenied
      "The Controller authorization does not permit this Managed Device Work.")
  | .managed _, .submission _ => .error (permissionDenied
      "The Controller authorization does not permit this Managed Device Work.")

structure AdmissionDeadline where
  expiresAt : Time
  monotonicDeadline : Time

def AdmissionDeadline.isExpired (d : AdmissionDeadline) (utcNow monotonicNow : Time) : Bool :=
  decide (d.expiresAt ≤ utcNow) || decide (d.monotonicDeadline ≤ monotonicNow)

/-- The deadline the service asks for: five minutes, or the end of the managed work. -/
def requestedExpiry (now : Time) (managedExpiresAt : Option Time) : Time :=
  match managedExpiresAt with
  | none => now + admissionTtl
  | some managed => min (now + admissionTtl) managed

def resolveDeadline (now monotonicNow : Time) (managedExpiresAt : Option Time) :
    AdmissionDeadline :=
  let expiresAt := requestedExpiry now managedExpiresAt
  ⟨expiresAt, monotonicNow + max 0 (expiresAt - now)⟩

def capDeadline (d : AdmissionDeadline) (validUntil utcNow monotonicNow : Time) :
    Except DocumentAdmissionError AdmissionDeadline :=
  let expiresAt := min d.expiresAt validUntil
  if expiresAt ≤ utcNow then
    .error ⟨.expired, "The Device Capability authority deadline has passed."⟩
  else if expiresAt = d.expiresAt then .ok d
  else .ok ⟨expiresAt, monotonicNow + (expiresAt - utcNow)⟩

end DocumentAdmissionService

inductive AuthorityErrorCode
  | invalidRequest | notFound | signatureInvalid | signerPurposeMismatch | revoked | expired
  | scopeMismatch | graphMismatch | certificationRequired | testRequired
  | observationUnavailable | observationDrift | deviceNotReady | authorityUnavailable

structure AuthorityError where
  code : AuthorityErrorCode
  message : String

inductive AuthorityScopeKind
  | site | posConfiguration
deriving DecidableEq

structure AuthorityScope where
  database : String
  organizationId : String
  siteId : String
  kind : AuthorityScopeKind
  posConfigurationId : Option String
deriving DecidableEq

structure CapabilityAdmissionTarget where
  scope : AuthorityScope
  purpose : String
  deviceId : String
  bindingRevisionId : String
  operation : String
  mediaType : String
  contractMajor : Nat
  optionsDigest : Bytes
  requestedExpiresAt : Time

structure SignedRecord where
  id : String
  digest : Bytes
  expiresAt : Option Time

structure BindingRevision where
  scope : AuthorityScope
  purpose : String
  deviceId : String
  revisionId : String
  optionsDigest : Bytes
  deviceIdentityDigest : Bytes
  capabilityId : String
  digest : Bytes

structure DeviceCapability where
  operation : String
  mediaType : String
  contractMajor : Nat
  optionsDigest : Bytes

structure ProofDigests where
  snapshot : Bytes
  graph : Bytes
  scope : Bytes
  observation : Bytes

/-- What the authority reads for a target: each record as its read and its own checks left it. -/
structure AuthorityRecords where
  revision : Except AuthorityError (SignedRecord × Nat)
  binding : Except AuthorityError BindingRevision
  profile : Except AuthorityError SignedRecord
  capability : Except AuthorityError DeviceCapability
  matrixRow : Except AuthorityError SignedRecord
  evidence : Except AuthorityError SignedRecord
  observation : Except AuthorityError Unit
  revocations : Except AuthorityError Unit
  digests : ProofDigests
  proofId : String

namespace DeviceCapabilityAuthority

/-- `min` of the candidates that are present. -/
def earliest (first : Time) (others : List (Option Time)) : Time :=
  (others.filterMap id).foldl min first

/-- The end of every record the authority rests on, and of the request. -/
def validUntil (revision profile matrixRow evidence : SignedRecord) (requested : Time) : Time :=
  earliest requested [profile.expiresAt, matrixRow.expiresAt, evidence.expiresAt,
    revision.expiresAt]

def authorize (records : AuthorityRecords) (target : CapabilityAdmissionTarget) (now : Time) :
    Except AuthorityError AuthorityProof := do
  let (revision, revisionNumber) ← records.revision
  let binding ← records.binding
  require (binding.scope == target.scope)
    ⟨.scopeMismatch, "The Binding Revision does not belong to this scope."⟩
  require (target.purpose == binding.purpose && target.deviceId == binding.deviceId &&
      target.bindingRevisionId == binding.revisionId &&
      target.optionsDigest == binding.optionsDigest)
    ⟨.graphMismatch, "The request graph does not match the Binding Revision."⟩
  let profile ← records.profile
  let capability ← records.capability
  require (capability.operation == target.operation && capability.mediaType == target.mediaType &&
      capability.contractMajor == target.contractMajor &&
      capability.optionsDigest == target.optionsDigest)
    ⟨.graphMismatch, "The requested Device Capability contract differs."⟩
  let matrixRow ← records.matrixRow
  let evidence ← records.evidence
  records.observation
  records.revocations
  let validUntil := validUntil revision profile matrixRow evidence target.requestedExpiresAt
  require (decide (now < target.requestedExpiresAt))
    ⟨.expired, "The requested permit deadline passed."⟩
  require (decide (now < validUntil)) ⟨.expired, "The permit deadline passed."⟩
  pure {
    proofId := records.proofId
    authorityRevisionId := revision.id
    authorityRevisionNumber := revisionNumber
    authorityRevisionDigest := revision.digest
    snapshotDigest := records.digests.snapshot
    graphDigest := records.digests.graph
    scopeDigest := records.digests.scope
    observationDigest := records.digests.observation
    bindingRevisionId := binding.revisionId
    bindingRevisionDigest := binding.digest
    driverProfileId := profile.id
    driverProfileDigest := profile.digest
    matrixRowId := matrixRow.id
    matrixRowDigest := matrixRow.digest
    testEvidenceId := evidence.id
    testEvidenceDigest := evidence.digest
    deviceId := binding.deviceId
    deviceIdentityDigest := binding.deviceIdentityDigest
    capabilityId := binding.capabilityId
    purpose := binding.purpose
    operation := target.operation
    mediaType := target.mediaType
    contractMajor := target.contractMajor
    optionsDigest := binding.optionsDigest
    issuedAt := now
    validUntil := validUntil }

end DeviceCapabilityAuthority

end Inari.Agent
