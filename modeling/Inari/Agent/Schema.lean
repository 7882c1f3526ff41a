import Inari.Lib.Table
import Inari.Contracts.Values

/-!
# The Agent database

The tables of `inari/db/schema.py` that spool admission and physical execution write, with their
indexes as the migrations create them. Timestamps have a fixed width, so their text order is the
order of their microseconds.
-/

namespace Inari.Agent

open Lib

/-- Microseconds since the epoch. -/
abbrev Time := Int

def second : Time := 1000000
def hour : Time := 3600 * second
def day : Time := 24 * hour

inductive PrintJobState
  | accepted | inProgress | outputConfirmed | failed | outcomeUnknown | expired | canceled
deriving DecidableEq

def PrintJobState.terminal : PrintJobState → Bool
  | .accepted | .inProgress => false
  | _ => true

inductive OutputEvidence
  | device | spooler | transport
deriving DecidableEq

inductive ScopeKind
  | pairedClient | deviceManager
deriving DecidableEq

inductive OriginKind
  | pos | preparation | report
deriving DecidableEq

/-- `ProblemCode` of `inari/core/failures.py` -/
inductive ProblemCode
  | requestMalformed | trustRequired | permissionDenied | resourceNotFound | methodNotAllowed
  | bindingRequired | requestConflict | transportLeaderActive | transportLeaderLost
  | scaleInUse | scaleLeaseRequired | idempotencyConflict | contractMismatch
  | capabilityChanged | deviceUnavailable | paperOut | coverOpen | queueFull
  | spoolQuotaExceeded | spoolStorageLow | payloadTooLarge | mediaTypeUnsupported
  | payloadInvalid | labelDataInvalid | documentPolicyRejected | documentProcessingFailed
  | certificationRequired | expired | recoveryFence | recoveryUncertain | outcomeUnknown
  | serviceUnavailable | internalError
deriving DecidableEq

def ProblemCode.value : ProblemCode → String
  | .requestMalformed => "request_malformed"
  | .trustRequired => "trust_required"
  | .permissionDenied => "permission_denied"
  | .resourceNotFound => "resource_not_found"
  | .methodNotAllowed => "method_not_allowed"
  | .bindingRequired => "binding_required"
  | .requestConflict => "request_conflict"
  | .transportLeaderActive => "transport_leader_active"
  | .transportLeaderLost => "transport_leader_lost"
  | .scaleInUse => "scale_in_use"
  | .scaleLeaseRequired => "scale_lease_required"
  | .idempotencyConflict => "idempotency_conflict"
  | .contractMismatch => "contract_mismatch"
  | .capabilityChanged => "capability_changed"
  | .deviceUnavailable => "device_unavailable"
  | .paperOut => "paper_out"
  | .coverOpen => "cover_open"
  | .queueFull => "queue_full"
  | .spoolQuotaExceeded => "spool_quota_exceeded"
  | .spoolStorageLow => "spool_storage_low"
  | .payloadTooLarge => "payload_too_large"
  | .mediaTypeUnsupported => "media_type_unsupported"
  | .payloadInvalid => "payload_invalid"
  | .labelDataInvalid => "label_data_invalid"
  | .documentPolicyRejected => "document_policy_rejected"
  | .documentProcessingFailed => "document_processing_failed"
  | .certificationRequired => "certification_required"
  | .expired => "expired"
  | .recoveryFence => "recovery_fence"
  | .recoveryUncertain => "recovery_uncertain"
  | .outcomeUnknown => "outcome_unknown"
  | .serviceUnavailable => "service_unavailable"
  | .internalError => "internal_error"

/-- `length(x) BETWEEN lo AND hi` -/
def lengthBetween (s : String) (lo hi : Nat) : Bool := lo ≤ s.length && s.length ≤ hi

/-! ## `public_print_jobs` -/

structure PrintJobRow where
  id : String
  admissionId : String
  authorityProofId : String
  intentId : String
  deviceId : String
  scopeKind : ScopeKind
  organizationId : String
  siteId : String
  posConfigurationId : Option String
  pairedClientId : Option String
  originKind : OriginKind
  originJson : String
  managedWorkId : Option String
  state : PrintJobState
  stateVersion : Nat
  acceptedAt : Time
  startedAt : Option Time
  terminalAt : Option Time
  expiresAt : Time
  retryable : Bool
  errorCode : Option String
  messageKey : Option String
  confirmationEvidence : Option OutputEvidence
  contractVersion : String
deriving DecidableEq

/-- `(scope_kind = 'paired_client' AND ...) OR (scope_kind = 'device_manager' AND ...)` -/
def scopeShape (kind : ScopeKind) (pos client : Option String) : Bool :=
  match kind with
  | .pairedClient => pos.isSome && client.isSome
  | .deviceManager => pos.isSome == client.isSome

/-- `ck_public_print_jobs_lifecycle` -/
def PrintJobRow.lifecycle (r : PrintJobRow) : Bool :=
  match r.state with
  | .accepted => r.startedAt.isNone && r.terminalAt.isNone && r.confirmationEvidence.isNone &&
      r.errorCode.isNone
  | .inProgress => r.startedAt.isSome && r.terminalAt.isNone &&
      r.confirmationEvidence.isNone && r.errorCode.isNone
  | .outputConfirmed => r.startedAt.isSome && r.terminalAt.isSome &&
      r.confirmationEvidence.isSome && r.errorCode.isNone
  | .failed => r.terminalAt.isSome && r.confirmationEvidence.isNone && r.errorCode.isSome
  | .outcomeUnknown => r.startedAt.isSome && r.terminalAt.isSome &&
      r.confirmationEvidence.isNone && r.errorCode.isSome
  | .expired | .canceled => r.startedAt.isNone && r.terminalAt.isSome &&
      r.confirmationEvidence.isNone && r.errorCode.isNone

/-- `a IS NULL OR b IS NULL OR b <= a` -/
def notBefore (a b : Option Time) : Bool :=
  match a, b with
  | some x, some y => y ≤ x
  | _, _ => true

def PrintJobRow.check (r : PrintJobRow) : Bool :=
  decide (0 < r.stateVersion) && decide (0 < r.organizationId.length) &&
  decide (0 < r.siteId.length) &&
  scopeShape r.scopeKind r.posConfigurationId r.pairedClientId &&
  decide (r.originJson.utf8ByteSize ≤ 16384) && decide (r.acceptedAt < r.expiresAt) &&
  notBefore r.startedAt (some r.acceptedAt) && notBefore r.terminalAt (some r.acceptedAt) &&
  notBefore r.terminalAt r.startedAt && r.lifecycle

namespace PrintJobRow

def primaryKey : UniqueIndex PrintJobRow := ⟨fun r => some r.id⟩
def uqIntentId : UniqueIndex PrintJobRow := ⟨fun r => some r.intentId⟩
def uqAdmissionId : UniqueIndex PrintJobRow := ⟨fun r => some r.admissionId⟩
def uqManagedWorkId : UniqueIndex PrintJobRow := ⟨fun r => r.managedWorkId⟩

def spec : TableSpec PrintJobRow where
  check := check
  uniques := [primaryKey, uqIntentId, uqAdmissionId, uqManagedWorkId]

end PrintJobRow

/-! ## `public_print_job_events` -/

/-- The content of `snapshot_json`; an absent member is `none`. -/
structure JobSnapshot where
  acceptedAt : Time
  contractVersion : String
  deviceId : String
  intentId : String
  jobId : String
  state : PrintJobState
  stateVersion : Nat
  startedAt : Option Time
  terminalAt : Option Time
  errorCode : Option String
  messageKey : Option String
  confirmationEvidence : Option OutputEvidence

structure PrintJobEventRow where
  sequence : Nat
  jobId : String
  stateVersion : Nat
  eventType : PrintJobState
  snapshot : JobSnapshot
  occurredAt : Time

namespace PrintJobEventRow

def primaryKey : UniqueIndex PrintJobEventRow := ⟨fun r => some r.sequence⟩
def uqJobVersion : UniqueIndex PrintJobEventRow := ⟨fun r => some (r.jobId, r.stateVersion)⟩

def spec : TableSpec PrintJobEventRow where
  check r := decide (0 < r.stateVersion)
  uniques := [primaryKey, uqJobVersion]

end PrintJobEventRow

/-! ## `device_work_admissions` -/

inductive AdmissionState
  | staging | finalizing | accepted | aborted
deriving DecidableEq

structure AdmissionRow where
  id : String
  plannedJobId : String
  database : String
  scopeKind : ScopeKind
  managedWorkId : Option String
  organizationId : String
  siteId : String
  posConfigurationId : Option String
  pairedClientId : Option String
  idempotencyKey : String
  fingerprint : Bytes
  state : AdmissionState
  jobId : Option String
  intentId : String
  deviceId : String
  deadlineAt : Time
  originalSizeBytes : Nat
  createdAt : Time
  updatedAt : Time
  acceptedAt : Option Time
  failedAt : Option Time
  failureCode : Option ProblemCode
  idempotencyExpiresAt : Time
  contentExpiresAt : Time
  actorId : String
  bindingRevisionId : String
  authorizationDigest : Bytes
  operation : String
  mediaType : String
  normalizedOptionsDigest : Bytes
  normalizedOptions : Bytes
  grantScopeDigest : Bytes
  grantId : Option String
  grantPairingId : Option String
  grantGeneration : Option Nat
  grantAuthorizationDigest : Option Bytes
  originSubmissionKey : String
  originKind : OriginKind
  originJson : String
  contractMajor : Nat
  copyOrdinal : Nat
deriving DecidableEq

namespace AdmissionRow

/-- `ck_device_work_admissions_lifecycle` -/
def lifecycle (r : AdmissionRow) : Bool :=
  match r.state with
  | .staging | .finalizing =>
    r.jobId.isNone && r.acceptedAt.isNone && r.failedAt.isNone && r.failureCode.isNone &&
    decide (r.createdAt < r.idempotencyExpiresAt)
  | .accepted =>
    r.jobId == some r.plannedJobId && r.failedAt.isNone && r.failureCode.isNone &&
    (match r.acceptedAt with
      | some t => decide (t < r.idempotencyExpiresAt) && decide (t < r.contentExpiresAt)
      | none => false)
  | .aborted =>
    r.jobId.isNone && r.acceptedAt.isNone &&
    (match r.failureCode with
      | some c => [ProblemCode.expired, .recoveryUncertain, .serviceUnavailable,
          .capabilityChanged, .certificationRequired].contains c
      | none => false) &&
    (match r.failedAt with
      | some t => decide (t < r.idempotencyExpiresAt)
      | none => false)

def check (r : AdmissionRow) : Bool :=
  lengthBetween r.organizationId 1 256 && lengthBetween r.siteId 1 256 &&
  lengthBetween r.idempotencyKey 1 512 && lengthBetween r.plannedJobId 1 128 &&
  lengthBetween r.database 1 256 && lengthBetween r.actorId 1 256 &&
  lengthBetween r.bindingRevisionId 1 256 && lengthBetween r.originSubmissionKey 1 512 &&
  r.fingerprint.length == 32 && r.authorizationDigest.length == 32 &&
  r.normalizedOptionsDigest.length == 32 && r.grantScopeDigest.length == 32 &&
  lengthBetween r.operation 1 64 && lengthBetween r.mediaType 1 128 &&
  decide (0 < r.deviceId.length) && decide (0 < r.intentId.length) &&
  decide (r.originJson.utf8ByteSize ≤ 16384) && decide (0 < r.contractMajor) &&
  decide (0 < r.originalSizeBytes) && decide (r.createdAt < r.deadlineAt) &&
  decide (r.createdAt < r.contentExpiresAt) &&
  scopeShape r.scopeKind r.posConfigurationId r.pairedClientId && r.lifecycle

def primaryKey : UniqueIndex AdmissionRow := ⟨fun r => some r.id⟩
def uqPlannedJobId : UniqueIndex AdmissionRow := ⟨fun r => some r.plannedJobId⟩

def uqPairedIdempotency : UniqueIndex AdmissionRow :=
  ⟨fun r => if r.scopeKind = .pairedClient then
    some (r.organizationId, r.siteId, r.posConfigurationId, r.pairedClientId, r.idempotencyKey)
    else none⟩

def uqManagerIdempotency : UniqueIndex AdmissionRow :=
  ⟨fun r => if r.scopeKind = .deviceManager ∧ r.posConfigurationId = none then
    some (r.organizationId, r.siteId, r.idempotencyKey) else none⟩

def uqManagerPosIdempotency : UniqueIndex AdmissionRow :=
  ⟨fun r => if r.scopeKind = .deviceManager ∧ r.posConfigurationId ≠ none then
    some (r.organizationId, r.siteId, r.posConfigurationId, r.pairedClientId, r.idempotencyKey)
    else none⟩

def uqManagedWorkId : UniqueIndex AdmissionRow := ⟨fun r => r.managedWorkId⟩

def uqOriginSubmission : UniqueIndex AdmissionRow :=
  ⟨fun r => if r.posConfigurationId ≠ none then
    some (r.scopeKind, r.organizationId, r.siteId, r.posConfigurationId, r.pairedClientId,
      r.originSubmissionKey)
    else none⟩

def uqJobId : UniqueIndex AdmissionRow := ⟨fun r => r.jobId⟩

def spec : TableSpec AdmissionRow where
  check := check
  uniques := [primaryKey, uqPlannedJobId, uqPairedIdempotency, uqManagerIdempotency,
    uqManagerPosIdempotency, uqManagedWorkId, uqOriginSubmission, uqJobId]

end AdmissionRow

/-! ## `device_work_authority_proofs` -/

structure AuthorityProof where
  proofId : String
  authorityRevisionId : String
  authorityRevisionNumber : Nat
  authorityRevisionDigest : Bytes
  snapshotDigest : Bytes
  graphDigest : Bytes
  scopeDigest : Bytes
  observationDigest : Bytes
  bindingRevisionId : String
  bindingRevisionDigest : Bytes
  driverProfileId : String
  driverProfileDigest : Bytes
  matrixRowId : String
  matrixRowDigest : Bytes
  testEvidenceId : String
  testEvidenceDigest : Bytes
  deviceId : String
  deviceIdentityDigest : Bytes
  capabilityId : String
  purpose : String
  operation : String
  mediaType : String
  contractMajor : Nat
  optionsDigest : Bytes
  issuedAt : Time
  validUntil : Time
deriving DecidableEq

structure AuthorityProofRow where
  admissionId : String
  proof : AuthorityProof
  grantId : Option String
  grantPairingId : Option String
  grantGeneration : Option Nat
  grantAuthorizationDigest : Option Bytes
deriving DecidableEq

namespace AuthorityProofRow

def check (r : AuthorityProofRow) : Bool :=
  lengthBetween r.proof.proofId 1 256 && decide (0 < r.proof.authorityRevisionNumber) &&
  [r.proof.authorityRevisionDigest, r.proof.snapshotDigest, r.proof.graphDigest,
    r.proof.scopeDigest, r.proof.observationDigest, r.proof.bindingRevisionDigest,
    r.proof.driverProfileDigest, r.proof.matrixRowDigest, r.proof.testEvidenceDigest,
    r.proof.deviceIdentityDigest, r.proof.optionsDigest].all (fun d => d.length == 32) &&
  lengthBetween r.proof.capabilityId 1 256 && lengthBetween r.proof.purpose 1 256 &&
  lengthBetween r.proof.operation 1 256 && lengthBetween r.proof.mediaType 1 256 &&
  decide (0 < r.proof.contractMajor) && decide (r.proof.issuedAt < r.proof.validUntil)

def primaryKey : UniqueIndex AuthorityProofRow := ⟨fun r => some r.proof.proofId⟩
def uqAdmission : UniqueIndex AuthorityProofRow := ⟨fun r => some r.admissionId⟩

def spec : TableSpec AuthorityProofRow where
  check := check
  uniques := [primaryKey, uqAdmission]

end AuthorityProofRow

structure AdmissionKeyRow where
  admissionId : String
  plannedJobId : String
  rootVersion : Nat
  intentId : String
  formatVersion : Nat
  wrapNonce : Bytes
  wrappedKey : Bytes
  createdAt : Time

namespace AdmissionKeyRow

def check (r : AdmissionKeyRow) : Bool :=
  lengthBetween r.plannedJobId 1 128 && decide (0 < r.intentId.length) &&
  r.formatVersion == 1 && r.wrapNonce.length == 12 && r.wrappedKey.length == 48

def primaryKey : UniqueIndex AdmissionKeyRow := ⟨fun r => some r.admissionId⟩
def uqPlannedJobId : UniqueIndex AdmissionKeyRow := ⟨fun r => some r.plannedJobId⟩
def uqRootNonce : UniqueIndex AdmissionKeyRow := ⟨fun r => some (r.rootVersion, r.wrapNonce)⟩

def spec : TableSpec AdmissionKeyRow where
  check := check
  uniques := [primaryKey, uqPlannedJobId, uqRootNonce]

end AdmissionKeyRow

structure JobKeyRow where
  jobId : String
  rootVersion : Nat
  intentId : String
  formatVersion : Nat
  wrapNonce : Bytes
  wrappedKey : Bytes
  createdAt : Time
  keyDeletedAt : Option Time

namespace JobKeyRow

def check (r : JobKeyRow) : Bool :=
  r.formatVersion == 1 && decide (0 < r.intentId.length) && r.wrapNonce.length == 12 &&
  notBefore r.keyDeletedAt (some r.createdAt) &&
  r.wrappedKey.length == (if r.keyDeletedAt.isNone then 48 else 0)

def primaryKey : UniqueIndex JobKeyRow := ⟨fun r => some r.jobId⟩
def uqRootNonce : UniqueIndex JobKeyRow := ⟨fun r => some (r.rootVersion, r.wrapNonce)⟩

def spec : TableSpec JobKeyRow where
  check := check
  uniques := [primaryKey, uqRootNonce]

end JobKeyRow

/-! ## `spool_reservations` -/

inductive ReservationKind
  | admission | executionTemp
deriving DecidableEq

inductive ReservationState
  | held | committed | released | expired
deriving DecidableEq

/-- `state IN ('held', 'committed')` -/
def ReservationState.active : ReservationState → Bool
  | .held | .committed => true
  | .released | .expired => false

structure ReservationRow where
  id : String
  reservationKind : ReservationKind
  admissionId : Option String
  jobId : Option String
  deviceId : String
  ownerId : String
  ownerGeneration : Nat
  queueSlots : Nat
  originalBytes : Nat
  persistentBytes : Nat
  temporaryBytes : Nat
  state : ReservationState
  createdAt : Time
  expiresAt : Time
  releasedAt : Option Time

namespace ReservationRow

/-- `ck_spool_reservations_dimensions` -/
def dimensions (r : ReservationRow) : Bool :=
  match r.reservationKind with
  | .admission =>
    r.admissionId.isSome && r.queueSlots == 1 && decide (0 < r.originalBytes) &&
    decide (r.originalBytes + 65536 ≤ r.persistentBytes) && r.temporaryBytes == 0 &&
    (match r.state with
      | .held => r.jobId.isNone
      | .committed => r.jobId.isSome
      | .released | .expired => true)
  | .executionTemp =>
    r.admissionId.isNone && r.jobId.isSome && r.queueSlots == 0 && r.originalBytes == 0 &&
    r.persistentBytes == 0 && decide (0 < r.temporaryBytes) && r.state != .committed

def check (r : ReservationRow) : Bool :=
  decide (0 < r.deviceId.length) && decide (0 < r.ownerId.length) &&
  decide (0 < r.ownerGeneration) && decide (r.createdAt < r.expiresAt) &&
  r.state.active == r.releasedAt.isNone && r.dimensions

def primaryKey : UniqueIndex ReservationRow := ⟨fun r => some r.id⟩

def uqAdmissionActive : UniqueIndex ReservationRow :=
  ⟨fun r => if r.state.active then r.admissionId else none⟩

/-- As migration `20260830_0009` has it; in `schema.py` the condition compares a conjunction with
`held`. -/
def uqExecutionDeviceActive : UniqueIndex ReservationRow :=
  ⟨fun r => if r.reservationKind = .executionTemp ∧ r.state = .held then some r.deviceId
    else none⟩

def spec : TableSpec ReservationRow where
  check := check
  uniques := [primaryKey, uqAdmissionActive, uqExecutionDeviceActive]

end ReservationRow

/-! ## `spool_artifacts` -/

inductive ArtifactKind
  | original | derivedRaster
deriving DecidableEq

inductive ArtifactState
  | staging | committed | deletePending | deleted
deriving DecidableEq

inductive RetentionPolicy
  | active | successImmediate | integrityImmediate | failure24h
deriving DecidableEq

structure ArtifactRow where
  id : String
  admissionId : String
  reservationId : String
  jobId : Option String
  aadJobId : String
  intentId : String
  formatVersion : Nat
  artifactKind : ArtifactKind
  storageRef : String
  nonce : Bytes
  plaintextSizeBytes : Nat
  ciphertextSizeBytes : Nat
  plaintextSha256 : Bytes
  state : ArtifactState
  retentionPolicy : RetentionPolicy
  createdAt : Time
  committedAt : Option Time
  deleteAfter : Option Time
  deletedAt : Option Time
  deleteAttempts : Nat
  lastDeleteErrorCode : Option String
deriving DecidableEq

namespace ArtifactRow

/-- `ck_spool_artifacts_lifecycle` -/
def lifecycle (r : ArtifactRow) : Bool :=
  match r.state with
  | .staging =>
    r.jobId.isNone && r.committedAt.isNone && r.retentionPolicy == .active &&
    r.deleteAfter.isNone && r.deletedAt.isNone && r.deleteAttempts == 0
  | .committed =>
    r.jobId.isSome && r.committedAt.isSome && r.retentionPolicy == .active &&
    r.deleteAfter.isNone && r.deletedAt.isNone
  | .deletePending =>
    r.jobId.isSome && r.committedAt.isSome && r.retentionPolicy != .active &&
    r.deleteAfter.isSome && r.deletedAt.isNone
  | .deleted =>
    r.jobId.isSome && r.committedAt.isSome && r.retentionPolicy != .active &&
    r.deleteAfter.isSome && r.deletedAt.isSome

def check (r : ArtifactRow) : Bool :=
  decide (0 < r.aadJobId.length) && decide (0 < r.intentId.length) &&
  decide (0 < r.storageRef.length) && r.formatVersion == 1 && r.nonce.length == 12 &&
  r.plaintextSha256.length == 32 && decide (0 < r.plaintextSizeBytes) &&
  decide (r.plaintextSizeBytes + 16 ≤ r.ciphertextSizeBytes) &&
  (r.jobId.isNone || r.jobId == some r.aadJobId) &&
  (r.lastDeleteErrorCode.isNone || decide (0 < r.deleteAttempts)) && r.lifecycle

def primaryKey : UniqueIndex ArtifactRow := ⟨fun r => some r.id⟩
def uqStorageRef : UniqueIndex ArtifactRow := ⟨fun r => some r.storageRef⟩
def uqAadNonce : UniqueIndex ArtifactRow := ⟨fun r => some (r.aadJobId, r.nonce)⟩
def uqAdmissionKind : UniqueIndex ArtifactRow := ⟨fun r => some (r.admissionId, r.artifactKind)⟩

def spec : TableSpec ArtifactRow where
  check := check
  uniques := [primaryKey, uqStorageRef, uqAadNonce, uqAdmissionKind]

end ArtifactRow

/-! ## `physical_execution_attempts` -/

inductive AttemptPhase
  | claimed | prepared | markerCommitted | permissionDelivered | finished | retryable | recovered
deriving DecidableEq

/-- `_ACTIVE_PHASES` -/
def AttemptPhase.active : AttemptPhase → Bool
  | .claimed | .prepared | .markerCommitted | .permissionDelivered => true
  | .finished | .retryable | .recovered => false

inductive DriverOutcome
  | confirmed | failed | unknown
deriving DecidableEq

structure AttemptRow where
  attemptId : String
  jobId : String
  leaseId : String
  ownerId : String
  ownerGeneration : Nat
  attemptNumber : Nat
  stateVersion : Nat
  phase : AttemptPhase
  leaseExpiresAt : Time
  markerId : Option String
  markerAt : Option Time
  markerSequence : Option Nat
  ioPermissionIssued : Bool
  executionId : String
  platformJobId : Option String
  resultJson : Option (Option OutputEvidence × DriverOutcome)
  errorCode : Option String
  createdAt : Time
  updatedAt : Time
  finishedAt : Option Time
deriving DecidableEq

namespace AttemptRow

def check (r : AttemptRow) : Bool :=
  lengthBetween r.attemptId 1 128 && lengthBetween r.jobId 1 128 &&
  lengthBetween r.leaseId 1 128 && lengthBetween r.ownerId 1 256 &&
  decide (0 < r.ownerGeneration) && decide (0 < r.attemptNumber) &&
  decide (0 < r.stateVersion) && lengthBetween r.executionId 1 128 &&
  (match r.markerId, r.markerAt, r.markerSequence with
    | none, none, none => true
    | some _, some _, some n => decide (0 < n)
    | _, _, _ => false)

def primaryKey : UniqueIndex AttemptRow := ⟨fun r => some r.attemptId⟩
def uqLeaseId : UniqueIndex AttemptRow := ⟨fun r => some r.leaseId⟩

def uqActiveJob : UniqueIndex AttemptRow :=
  ⟨fun r => if r.phase.active then some r.jobId else none⟩

def spec : TableSpec AttemptRow where
  check := check
  uniques := [primaryKey, uqLeaseId, uqActiveJob]

end AttemptRow

structure Db where
  admissions : Table AdmissionRow.spec := .empty
  proofs : Table AuthorityProofRow.spec := .empty
  admissionKeys : Table AdmissionKeyRow.spec := .empty
  jobKeys : Table JobKeyRow.spec := .empty
  reservations : Table ReservationRow.spec := .empty
  artifacts : Table ArtifactRow.spec := .empty
  jobs : Table PrintJobRow.spec := .empty
  events : Table PrintJobEventRow.spec := .empty
  attempts : Table AttemptRow.spec := .empty

end Inari.Agent
