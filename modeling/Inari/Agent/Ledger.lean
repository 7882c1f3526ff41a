import Inari.Agent.Schema
import Inari.Lib.Except

/-!
# The physical execution ledger

`SqliteExecutionLedger` of `inari/physical_execution/_ledger.py`, one immediate transaction for
each operation. Rows of other components and the authority guard are read through `LedgerEnv`.
-/

namespace Inari.Agent

open Lib

inductive LedgerError
  | leaseLost (message : String)
  | executionRejected (errorCode messageKey : String)
  | spoolAdmissionError (code : ProblemCode)
  | integrityError
  | noResultFound
  | databaseCommitUncertain
deriving DecidableEq

instance : SqlError LedgerError := ⟨.integrityError, .noResultFound⟩

structure ExecutionOwner where
  ownerId : String
  generation : Nat
  ownerId_ne : ownerId ≠ ""
  generation_pos : 0 < generation
deriving DecidableEq

structure ArtifactRef where
  artifactId : String
  storageRef : String
  kind : ArtifactKind
  formatVersion : Nat
  nonce : Bytes
  plaintextSizeBytes : Nat
  ciphertextSizeBytes : Nat
  plaintextSha256 : Bytes
deriving DecidableEq

structure WrappedJobKey where
  rootVersion : Nat
  formatVersion : Nat
  wrapNonce : Bytes
  wrappedKey : Bytes
deriving DecidableEq

structure ExecutionClaim where
  attemptId : String
  leaseId : String
  executionId : String
  owner : ExecutionOwner
  attemptNumber : Nat
  stateVersion : Nat
  leaseExpiresAt : Time
  jobId : String
  intentId : String
  admissionId : String
  deviceId : String
  driverKey : String
  deviceName : String
  capabilityId : String
  operation : String
  mediaType : String
  normalizedOptionsDigest : Bytes
  normalizedOptions : Bytes
  bindingRevisionId : String
  scopeKind : ScopeKind
  managedWorkId : Option String
  grantId : Option String
  grantPairingId : Option String
  grantGeneration : Option Nat
  grantAuthorizationDigest : Option Bytes
  expiresAt : Time
  original : ArtifactRef
  key : WrappedJobKey
deriving DecidableEq

structure IoPermit where
  attemptId : String
  leaseId : String
  executionId : String
  jobId : String
  deviceId : String
  markerId : String
  markerSequence : Nat
  committedAt : Time
deriving DecidableEq

structure DriverExecutionResult where
  outcome : DriverOutcome
  evidence : Option OutputEvidence
  platformJobId : Option String
  errorCode : Option String
  messageKey : Option String

structure ExecutionReceipt where
  jobId : String
  state : PrintJobState
  stateVersion : Nat
deriving DecidableEq

structure RecoveryReport where
  returnedToAccepted : Nat
  expired : Nat
  outcomeUnknown : Nat
deriving DecidableEq

structure DeviceRow where
  id : String
  driverKey : String
  name : String

inductive DeviceTestState
  | accepted | inProgress | awaitingChecks | outcomeUnknown | failedEnvironment | completed
deriving DecidableEq

structure DeviceTestRow where
  recordId : String
  deviceId : String
  state : DeviceTestState
  ioDeadline : Time
  workerClaimId : Option String
  errorCode : Option String

inductive TrustLifecycle
  | active | revoked | expired
deriving DecidableEq

structure ClientGrantRow where
  grantId : String
  pairingId : String
  database : String
  organizationId : String
  siteId : String
  posConfigurationId : Option String
  actorId : String
  permissions : List String
  authorizationDigest : String
  generation : Nat
  expiresAt : Time
  lifecycle : TrustLifecycle

structure ClientPairingRow where
  pairingId : String
  expiresAt : Option Time
  lifecycle : TrustLifecycle

structure LedgerEnv where
  devices : List DeviceRow
  deviceTests : List DeviceTestRow
  grants : List ClientGrantRow
  pairings : List ClientPairingRow
  guardCheck : AuthorityProof → Time → Except ProblemCode Unit
  outputEvidenceMeetsContract : AuthorityProof → OutputEvidence → Bool
  sha256 : String → Bytes
  leaseDuration : Time

def executionTempBytes : Nat := 8 * 1024 * 1024

section Statements

variable {ε : Type} [SqlError ε]

/-- `sequence` is an autoincrement column and no event is ever deleted. -/
def nextSequence (events : Table PrintJobEventRow.spec) : Nat :=
  events.rows.foldl (fun n e => max n e.sequence) 0 + 1

def insertEvent (db : Db) (jobId : String) (stateVersion : Nat) (eventType : PrintJobState)
    (snapshot : JobSnapshot) (now : Time) : Except ε (Db × Nat) := do
  let sequence := nextSequence db.events
  let events ← db.events.insert ⟨sequence, jobId, stateVersion, eventType, snapshot, now⟩
  pure ({ db with events := events }, sequence)

/-- `_snapshot`: `started_at` falls back to the row, the other members do not. -/
def snapshot (job : PrintJobRow) (state : PrintJobState) (stateVersion : Nat)
    (startedAt terminalAt : Option Time) (errorCode messageKey : Option String)
    (confirmationEvidence : Option OutputEvidence) : JobSnapshot where
  acceptedAt := job.acceptedAt
  contractVersion := job.contractVersion
  deviceId := job.deviceId
  intentId := job.intentId
  jobId := job.id
  state := state
  stateVersion := stateVersion
  startedAt := startedAt <|> job.startedAt
  terminalAt := terminalAt
  errorCode := errorCode
  messageKey := messageKey
  confirmationEvidence := confirmationEvidence

def scheduleArtifactReleaseForJob (db : Db) (jobId : String) (state : PrintJobState)
    (now : Time) : Except ε Db := do
  let immediate := state == .outputConfirmed
  let deleteAfter := if immediate then now else now + 24 * hour
  let artifacts ← db.artifacts.update
    (fun a => a.jobId == some jobId && a.state == .committed)
    (fun a => { a with
      state := .deletePending
      retentionPolicy := if immediate then .successImmediate else .failure24h
      deleteAfter := some deleteAfter })
  if immediate then
    let jobKeys ← db.jobKeys.update
      (fun k => k.jobId == jobId && k.keyDeletedAt.isNone)
      (fun k => { k with wrappedKey := [], keyDeletedAt := some now })
    pure { db with artifacts := artifacts, jobKeys := jobKeys }
  else
    pure { db with artifacts := artifacts }

def readAuthorityProof (db : Db) (admissionId : String) : Except ProblemCode AuthorityProof :=
  match db.proofs.first (fun r => r.admissionId == admissionId) with
  | some r => .ok r.proof
  | none => .error .recoveryUncertain

end Statements

namespace SqliteExecutionLedger

def raiseSpool {α : Type} : Except ProblemCode α → Except LedgerError α
  | .ok a => .ok a
  | .error code => .error (.spoolAdmissionError code)

variable (env : LedgerEnv) (db : Db)

def recoverUnknown (job : PrintJobRow) (now : Time) : Except LedgerError Db := do
  let nextVersion := job.stateVersion + 1
  let jobs ← db.jobs.update (fun r => r.id == job.id && r.state == .inProgress)
    (fun r => { r with
      state := .outcomeUnknown
      stateVersion := nextVersion
      terminalAt := some now
      retryable := false
      errorCode := some "outcome_unknown"
      messageKey := some "print.outcome_unknown" })
  let (db, _) ← insertEvent { db with jobs := jobs } job.id nextVersion .outcomeUnknown
    (snapshot job .outcomeUnknown nextVersion none (some now) (some "outcome_unknown")
      (some "print.outcome_unknown") none) now
  scheduleArtifactReleaseForJob db job.id .outcomeUnknown now

def expireAccepted (job : PrintJobRow) (now : Time) : Except LedgerError Db := do
  let nextVersion := job.stateVersion + 1
  let jobs ← db.jobs.update (fun r => r.id == job.id && r.state == .accepted)
    (fun r => { r with
      state := .expired
      stateVersion := nextVersion
      terminalAt := some now
      retryable := false })
  let (db, _) ← insertEvent { db with jobs := jobs } job.id nextVersion .expired
    (snapshot job .expired nextVersion none (some now) none none none) now
  scheduleArtifactReleaseForJob db job.id .expired now

def deviceIsBusy (deviceId : String) (now : Time) : Bool :=
  env.deviceTests.any (fun t => t.deviceId == deviceId &&
    (t.state == .inProgress ||
      (t.state == .accepted && (decide (now < t.ioDeadline) || t.workerClaimId.isSome ||
        t.errorCode == some "worker_stop_failed")))) ||
  (db.reservations.first (fun r => r.deviceId == deviceId &&
    r.reservationKind == .executionTemp && r.state == .held)).isSome

def releaseReservation (claim : ExecutionClaim) (now : Time) : Except LedgerError Db := do
  let reservations ← db.reservations.update
    (fun r => r.jobId == some claim.jobId && r.ownerId == claim.owner.ownerId &&
      r.ownerGeneration == claim.owner.generation && r.reservationKind == .executionTemp &&
      r.state == .held)
    (fun r => { r with state := .released, releasedAt := some now })
  pure { db with reservations := reservations }

/-- `_fence`; without a phase every active phase passes. -/
def fence (claim : ExecutionClaim) (phase : Option AttemptPhase) (now : Time)
    (a : AttemptRow) : Bool :=
  a.attemptId == claim.attemptId && a.leaseId == claim.leaseId &&
  a.ownerId == claim.owner.ownerId && a.ownerGeneration == claim.owner.generation &&
  decide (now < a.leaseExpiresAt) &&
  (match phase with
    | some p => a.phase == p
    | none => a.phase.active)

def attemptOf (claim : ExecutionClaim) (phase : Option AttemptPhase) (now : Time) :
    Except LedgerError AttemptRow :=
  orRaise (db.attempts.first (fence claim phase now))
    (.leaseLost "The execution lease is no longer active.")

def jobOf (jobId : String) : Except LedgerError PrintJobRow :=
  orRaise (db.jobs.first (fun r => r.id == jobId))
    (.leaseLost "The Print Job is no longer available.")

structure ClaimIds where
  attemptId : String
  leaseId : String
  executionId : String
  reservationId : String

/-- The admitted authorization must be complete for its scope. -/
def checkAdmittedScope (admission : AdmissionRow) : Except LedgerError Unit :=
  match admission.scopeKind with
  | .pairedClient =>
    require (admission.grantId.isSome && admission.grantPairingId.isSome &&
        admission.grantGeneration.isSome && admission.grantAuthorizationDigest.isSome)
      (.leaseLost "The admitted Client Grant reference is incomplete.")
  | .deviceManager =>
    require (admission.managedWorkId.isSome && admission.grantId.isNone &&
        admission.grantPairingId.isNone && admission.grantGeneration.isNone &&
        admission.grantAuthorizationDigest.isNone)
      (.leaseLost "The admitted managed authorization is incomplete.")

def claim (job : PrintJobRow) (owner : ExecutionOwner) (now : Time) (leaseExpiresAt : Time)
    (ids : ClaimIds) : Except LedgerError (Db × ExecutionClaim) := do
  let admission ← db.admissions.one (fun r => r.id == job.admissionId)
  let artifact ← db.artifacts.one (fun a => a.jobId == some job.id &&
    a.artifactKind == .original && a.state == .committed)
  let key ← db.jobKeys.one (fun k => k.jobId == job.id && k.keyDeletedAt.isNone)
  let device ← selectOne env.devices (fun d => d.id == job.deviceId)
  let proof ← raiseSpool (readAuthorityProof db job.admissionId)
  checkAdmittedScope admission
  let attemptNumber := db.attempts.rows.countP (fun a => a.jobId == job.id) + 1
  let reservations ← db.reservations.insert {
    id := ids.reservationId
    reservationKind := .executionTemp
    admissionId := none
    jobId := some job.id
    deviceId := job.deviceId
    ownerId := owner.ownerId
    ownerGeneration := owner.generation
    queueSlots := 0
    originalBytes := 0
    persistentBytes := 0
    temporaryBytes := executionTempBytes
    state := .held
    createdAt := now
    expiresAt := leaseExpiresAt
    releasedAt := none }
  let attempts ← db.attempts.insert {
    attemptId := ids.attemptId
    jobId := job.id
    leaseId := ids.leaseId
    ownerId := owner.ownerId
    ownerGeneration := owner.generation
    attemptNumber := attemptNumber
    stateVersion := job.stateVersion
    phase := .claimed
    leaseExpiresAt := leaseExpiresAt
    markerId := none
    markerAt := none
    markerSequence := none
    ioPermissionIssued := false
    executionId := ids.executionId
    platformJobId := none
    resultJson := none
    errorCode := none
    createdAt := now
    updatedAt := now
    finishedAt := none }
  pure ({ db with reservations := reservations, attempts := attempts }, {
    attemptId := ids.attemptId
    leaseId := ids.leaseId
    executionId := ids.executionId
    owner := owner
    attemptNumber := attemptNumber
    stateVersion := job.stateVersion
    leaseExpiresAt := leaseExpiresAt
    jobId := job.id
    intentId := job.intentId
    admissionId := job.admissionId
    deviceId := job.deviceId
    driverKey := device.driverKey
    deviceName := device.name
    capabilityId := proof.capabilityId
    operation := admission.operation
    mediaType := admission.mediaType
    normalizedOptionsDigest := admission.normalizedOptionsDigest
    normalizedOptions := admission.normalizedOptions
    bindingRevisionId := admission.bindingRevisionId
    scopeKind := admission.scopeKind
    managedWorkId := admission.managedWorkId
    grantId := admission.grantId
    grantPairingId := admission.grantPairingId
    grantGeneration := admission.grantGeneration
    grantAuthorizationDigest := admission.grantAuthorizationDigest
    expiresAt := job.expiresAt
    original := {
      artifactId := artifact.id
      storageRef := artifact.storageRef
      kind := artifact.artifactKind
      formatVersion := artifact.formatVersion
      nonce := artifact.nonce
      plaintextSizeBytes := artifact.plaintextSizeBytes
      ciphertextSizeBytes := artifact.ciphertextSizeBytes
      plaintextSha256 := artifact.plaintextSha256 }
    key := {
      rootVersion := key.rootVersion
      formatVersion := key.formatVersion
      wrapNonce := key.wrapNonce
      wrappedKey := key.wrappedKey } })

/-- `ORDER BY accepted_at, id` -/
def claimOrder (a b : PrintJobRow) : Prop :=
  a.acceptedAt < b.acceptedAt ∨ (a.acceptedAt = b.acceptedAt ∧ a.id ≤ b.id)

instance : DecidableRel claimOrder := fun _ _ => inferInstanceAs (Decidable (_ ∨ _))

/-- The loop of `claim_next` over the accepted rows it read. -/
def claimLoop (env : LedgerEnv) (owner : ExecutionOwner) (deviceId : Option String) (now : Time)
    (ids : ClaimIds) : Db → List PrintJobRow → Except LedgerError (Db × Option ExecutionClaim)
  | db, [] => .ok (db, none)
  | db, job :: rest =>
    if deviceId.isSome && deviceId != some job.deviceId then
      claimLoop env owner deviceId now ids db rest
    else if job.expiresAt ≤ now then do
      let db ← expireAccepted db job now
      claimLoop env owner deviceId now ids db rest
    else if deviceIsBusy env db job.deviceId now then
      claimLoop env owner deviceId now ids db rest
    else do
      let (db, c) ← claim env db job owner now (now + env.leaseDuration) ids
      pure (db, some c)

def claimNext (owner : ExecutionOwner) (deviceId : Option String) (now : Time) (ids : ClaimIds) :
    Except LedgerError (Db × Option ExecutionClaim) :=
  claimLoop env owner deviceId now ids db
    ((db.jobs.select (fun r => r.state == .accepted)).insertionSort claimOrder)

def markPrepared (claim : ExecutionClaim) (now : Time) : Except LedgerError Db := do
  let matched := fence claim (some .claimed) now
  let attempts ← db.attempts.update matched
    (fun a => { a with phase := .prepared, updatedAt := now })
  require (db.attempts.rowcount matched == 1)
    (.leaseLost "The execution claim is no longer active.")
  pure { db with attempts := attempts }

def renew (claim : ExecutionClaim) (now : Time) : Except LedgerError (Db × ExecutionClaim) := do
  let leaseExpiresAt := now + env.leaseDuration
  let matched := fence claim none now
  let attempts ← db.attempts.update matched
    (fun a => { a with leaseExpiresAt := leaseExpiresAt, updatedAt := now })
  require (db.attempts.rowcount matched == 1)
    (.leaseLost "The execution lease is no longer active.")
  let reservations ← db.reservations.update
    (fun r => r.jobId == some claim.jobId && r.ownerId == claim.owner.ownerId &&
      r.ownerGeneration == claim.owner.generation && r.reservationKind == .executionTemp &&
      r.state == .held)
    (fun r => { r with expiresAt := leaseExpiresAt })
  pure ({ db with attempts := attempts, reservations := reservations },
    { claim with leaseExpiresAt := leaseExpiresAt })

def permissionDenied : LedgerError :=
  .executionRejected "permission_denied" "print.permission_denied"

/-- `Permission.RECEIPT_IMAGE` -/
def receiptImagePermission : String := "device_work:receipt_image"

def checkClientGrant (claim : ExecutionClaim) (now : Time) : Except LedgerError Unit := do
  require (claim.grantId.isSome && claim.grantPairingId.isSome && claim.grantGeneration.isSome &&
    claim.grantAuthorizationDigest.isSome) permissionDenied
  let grant ← orRaise (env.grants.find? (fun g => some g.grantId == claim.grantId))
    permissionDenied
  let pairing ← orRaise (env.pairings.find? (fun p => some p.pairingId == claim.grantPairingId))
    permissionDenied
  let admission ← db.admissions.one (fun r => r.id == claim.admissionId)
  -- `str()` writes a missing POS configuration of the grant as `None`
  require (grant.lifecycle == .active && pairing.lifecycle == .active &&
      some grant.pairingId == claim.grantPairingId &&
      some grant.generation == claim.grantGeneration && decide (now < grant.expiresAt) &&
      (match pairing.expiresAt with
        | some t => decide (now < t)
        | none => true) &&
      some (env.sha256 grant.authorizationDigest) == claim.grantAuthorizationDigest &&
      grant.permissions.contains receiptImagePermission &&
      claim.grantPairingId == admission.grantPairingId &&
      claim.grantGeneration == admission.grantGeneration &&
      grant.database == admission.database &&
      grant.organizationId == admission.organizationId &&
      grant.siteId == admission.siteId &&
      some (grant.posConfigurationId.getD "None") == admission.posConfigurationId &&
      grant.actorId == admission.actorId)
    permissionDenied

/-- Only work of a paired client has a grant to check again. -/
def checkPairedGrant (claim : ExecutionClaim) (now : Time) : Except LedgerError Unit :=
  if claim.scopeKind = .pairedClient then checkClientGrant env db claim now else .ok ()

def checkDeviceAuthority (claim : ExecutionClaim) (now : Time) : Except LedgerError Unit :=
  match (readAuthorityProof db claim.admissionId >>= fun proof => env.guardCheck proof now) with
  | .ok () => .ok ()
  | .error code => .error (.executionRejected code.value ("print." ++ code.value))

def markIoStarted (claim : ExecutionClaim) (now : Time) (markerId : String) :
    Except LedgerError (Db × IoPermit) := do
  let attempt ← attemptOf db claim (some .prepared) now
  let job ← jobOf db claim.jobId
  require (job.state == .accepted && job.stateVersion == claim.stateVersion)
    (.leaseLost "The Print Job changed before Device I/O.")
  require (decide (now < job.expiresAt)) (.executionRejected "expired" "print.expired")
  checkPairedGrant env db claim now
  checkDeviceAuthority env db claim now
  let nextVersion := job.stateVersion + 1
  let matched := fun (r : PrintJobRow) =>
    r.id == claim.jobId && r.state == .accepted && r.stateVersion == claim.stateVersion
  let jobs ← db.jobs.update matched
    (fun r => { r with state := .inProgress, stateVersion := nextVersion, startedAt := some now })
  require (db.jobs.rowcount matched == 1)
    (.leaseLost "The Print Job changed before Device I/O.")
  let (db, sequence) ← insertEvent { db with jobs := jobs } claim.jobId nextVersion .inProgress
    (snapshot job .inProgress nextVersion (some now) none none none none) now
  let marked := fun (a : AttemptRow) => a.attemptId == attempt.attemptId && a.phase == .prepared
  let attempts ← db.attempts.update marked
    (fun a => { a with
      phase := .markerCommitted
      stateVersion := nextVersion
      markerId := some markerId
      markerAt := some now
      markerSequence := some sequence
      updatedAt := now })
  require (db.attempts.rowcount marked == 1)
    (.leaseLost "The execution marker lost its lease.")
  pure ({ db with attempts := attempts }, {
    attemptId := claim.attemptId
    leaseId := claim.leaseId
    executionId := claim.executionId
    jobId := claim.jobId
    deviceId := claim.deviceId
    markerId := markerId
    markerSequence := sequence
    committedAt := now })

def notePermissionDelivered (claim : ExecutionClaim) (permit : IoPermit) (now : Time) :
    Except LedgerError Db := do
  let matched := fun a => fence claim (some .markerCommitted) now a &&
    a.markerId == some permit.markerId
  let attempts ← db.attempts.update matched
    (fun a => { a with phase := .permissionDelivered, ioPermissionIssued := true,
                       updatedAt := now })
  require (db.attempts.rowcount matched == 1)
    (.leaseLost "The Device I/O permit lost its lease.")
  pure { db with attempts := attempts }

/-- Python's `a or b` on optional text: an empty text counts as absent. -/
def orText (a : Option String) (b : String) : String :=
  match a with
  | some t => if t = "" then b else t
  | none => b

def resultState (result : DriverExecutionResult) :
    PrintJobState × Option OutputEvidence × Option String × Option String :=
  match result.outcome, result.evidence with
  | .confirmed, some evidence => (.outputConfirmed, some evidence, none, none)
  | .failed, _ => (.failed, none, some (orText result.errorCode "device_failed"),
      some (orText result.messageKey "print.device_failed"))
  | _, _ => (.outcomeUnknown, none, some (orText result.errorCode "outcome_unknown"),
      some (orText result.messageKey "print.outcome_unknown"))

/-- Confirmed output whose evidence does not meet the contract has an unknown outcome. -/
def assessEvidence (claim : ExecutionClaim) (result : DriverExecutionResult) :
    Except LedgerError DriverExecutionResult :=
  match result.outcome, result.evidence with
  | .confirmed, some evidence => do
    let proof ← raiseSpool (readAuthorityProof db claim.admissionId)
    if env.outputEvidenceMeetsContract proof evidence then pure result
    else pure { result with
      outcome := .unknown
      evidence := none
      errorCode := some "output_evidence_insufficient"
      messageKey := some "print.output_evidence_insufficient" }
  | _, _ => pure result

def finish (env : LedgerEnv) (db : Db) (claim : ExecutionClaim) (result : DriverExecutionResult)
    (now : Time) : Except LedgerError (Db × ExecutionReceipt) := do
  let attempt ← attemptOf db claim (some .permissionDelivered) now
  let job ← jobOf db claim.jobId
  let result ← assessEvidence env db claim result
  let (state, evidence, errorCode, messageKey) := resultState result
  let nextVersion := job.stateVersion + 1
  let matched := fun (r : PrintJobRow) =>
    r.id == claim.jobId && r.state == .inProgress && r.stateVersion == attempt.stateVersion
  let jobs ← db.jobs.update matched
    (fun r => { r with
      state := state
      stateVersion := nextVersion
      terminalAt := some now
      retryable := false
      errorCode := errorCode
      messageKey := messageKey
      confirmationEvidence := evidence })
  require (db.jobs.rowcount matched == 1)
    (.leaseLost "A stale worker cannot finish this Print Job.")
  let (db, _) ← insertEvent { db with jobs := jobs } claim.jobId nextVersion state
    (snapshot job state nextVersion none (some now) errorCode messageKey evidence) now
  let attempts ← db.attempts.update (fun a => a.attemptId == claim.attemptId)
    (fun a => { a with
      phase := .finished
      platformJobId := result.platformJobId
      resultJson := some (evidence, result.outcome)
      errorCode := errorCode
      updatedAt := now
      finishedAt := some now })
  let db ← releaseReservation { db with attempts := attempts } claim now
  let db ← scheduleArtifactReleaseForJob db claim.jobId state now
  pure (db, ⟨claim.jobId, state, nextVersion⟩)

def failBeforeIo (claim : ExecutionClaim) (errorCode messageKey : String) (now : Time) :
    Except LedgerError (Db × ExecutionReceipt) := do
  let attempt ← attemptOf db claim none now
  require (attempt.phase == .claimed || attempt.phase == .prepared)
    (.leaseLost "Device I/O can no longer be ruled out.")
  let job ← jobOf db claim.jobId
  let state : PrintJobState := if job.expiresAt ≤ now then .expired else .failed
  let nextVersion := job.stateVersion + 1
  let finalError := if state = .expired then none else some errorCode
  let finalMessage := if state = .expired then none else some messageKey
  let matched := fun (r : PrintJobRow) =>
    r.id == claim.jobId && r.state == .accepted && r.stateVersion == claim.stateVersion
  let jobs ← db.jobs.update matched
    (fun r => { r with
      state := state
      stateVersion := nextVersion
      terminalAt := some now
      retryable := false
      errorCode := finalError
      messageKey := finalMessage })
  require (db.jobs.rowcount matched == 1)
    (.leaseLost "A stale worker cannot fail this Print Job.")
  let (db, _) ← insertEvent { db with jobs := jobs } claim.jobId nextVersion state
    (snapshot job state nextVersion none (some now) finalError finalMessage none) now
  let attempts ← db.attempts.update (fun a => a.attemptId == claim.attemptId)
    (fun a => { a with
      phase := .finished
      errorCode := finalError
      updatedAt := now
      finishedAt := some now })
  let db ← releaseReservation { db with attempts := attempts } claim now
  let db ← scheduleArtifactReleaseForJob db claim.jobId state now
  pure (db, ⟨claim.jobId, state, nextVersion⟩)

/-- The lease may have passed: only the marker and the owner are checked. -/
def abandonAfterMarker (claim : ExecutionClaim) (now : Time) :
    Except LedgerError (Db × ExecutionReceipt) := do
  let _ ← orRaise (db.attempts.first (fun a => a.attemptId == claim.attemptId &&
      a.leaseId == claim.leaseId && a.ownerId == claim.owner.ownerId &&
      a.ownerGeneration == claim.owner.generation &&
      (a.phase == .markerCommitted || a.phase == .permissionDelivered) && a.markerId.isSome))
    (.leaseLost "The marked execution attempt is no longer active.")
  let job ← jobOf db claim.jobId
  require (job.state == .inProgress)
    (.leaseLost "The marked Print Job is no longer in progress.")
  let db ← recoverUnknown db job now
  let attempts ← db.attempts.update (fun a => a.attemptId == claim.attemptId)
    (fun a => { a with
      phase := .recovered
      errorCode := some "outcome_unknown"
      updatedAt := now
      finishedAt := some now })
  let db ← releaseReservation { db with attempts := attempts } claim now
  pure (db, ⟨claim.jobId, .outcomeUnknown, job.stateVersion + 1⟩)

/-- The job's part of one recovered attempt, with the counter it adds to. -/
def recoverJob (attempt : AttemptRow) (job : PrintJobRow) (now : Time) (report : RecoveryReport) :
    Except LedgerError (Db × RecoveryReport) :=
  if attempt.markerId.isNone then
    if job.state = .accepted ∧ job.expiresAt ≤ now then do
      let db ← expireAccepted db job now
      pure (db, { report with expired := report.expired + 1 })
    else pure (db, { report with returnedToAccepted := report.returnedToAccepted + 1 })
  else if job.state = .inProgress then do
    let db ← recoverUnknown db job now
    pure (db, { report with outcomeUnknown := report.outcomeUnknown + 1 })
  else pure (db, report)

def recoverAttempt (attempt : AttemptRow) (now : Time) (report : RecoveryReport) :
    Except LedgerError (Db × RecoveryReport) := do
  let job ← jobOf db attempt.jobId
  let (db, report) ← recoverJob db attempt job now report
  let attempts ← db.attempts.update (fun a => a.attemptId == attempt.attemptId)
    (fun a => { a with phase := .recovered, updatedAt := now, finishedAt := some now })
  let reservations ← db.reservations.update
    (fun r => r.jobId == some attempt.jobId && r.reservationKind == .executionTemp &&
      r.state == .held)
    (fun r => { r with state := .released, releasedAt := some now })
  pure ({ db with attempts := attempts, reservations := reservations }, report)

def recoverLoop (now : Time) :
    Db → RecoveryReport → List AttemptRow → Except LedgerError (Db × RecoveryReport)
  | db, report, [] => .ok (db, report)
  | db, report, attempt :: rest => do
    let (db, report) ← recoverAttempt db attempt now report
    recoverLoop now db report rest

def recoverable (owner : ExecutionOwner) (now : Time) (a : AttemptRow) : Bool :=
  a.phase.active && (decide (a.leaseExpiresAt ≤ now) ||
    (a.ownerId == owner.ownerId && decide (a.ownerGeneration < owner.generation)))

def recover (owner : ExecutionOwner) (now : Time) : Except LedgerError (Db × RecoveryReport) :=
  recoverLoop now db ⟨0, 0, 0⟩ (db.attempts.select (recoverable owner now))

end SqliteExecutionLedger

end Inari.Agent
