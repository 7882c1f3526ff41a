import Inari.Agent.Ledger

/-!
# The spool admission ledger

The transactions of `inari/spool/ledger.py` and `admission.py`, with the capacity policy of
`limits.py` and the replay comparison of `manifest.py`.
-/

namespace Inari.Agent

open Lib

structure ProblemDetails where
  deviceId : Option String
  jobId : Option String
deriving DecidableEq

/-- What `_accept` and the functions it calls can raise. -/
inductive SpoolError
  | admission (code : ProblemCode) (details : ProblemDetails)
  | integrityError
  | noResultFound
  | spoolCommitUncertain
  | databaseCommitUncertain
  | nonceReservationUncertain
  | rootKeyUnavailable
  | storageError
  | cryptoError
  | restartAdmission
deriving DecidableEq

instance : SqlError SpoolError := ⟨.integrityError, .noResultFound⟩

/-- `SpoolAdmissionError(code)` without details. -/
def SpoolError.plain (code : ProblemCode) : SpoolError := .admission code ⟨none, none⟩

structure AdmissionManifest where
  scopeKind : ScopeKind
  managedWorkId : Option String
  grantId : Option String
  grantPairingId : Option String
  grantGeneration : Option Nat
  idempotencyKey : String
  database : String
  organizationId : String
  siteId : String
  posConfigurationId : Option String
  pairedClientId : Option String
  actorId : String
  deviceId : String
  bindingRevisionId : String
  authorizationDigest : Bytes
  operation : String
  mediaType : String
  normalizedOptionsDigest : Bytes
  normalizedOptions : Bytes
  grantScopeDigest : Bytes
  originSubmissionKey : String
  originKind : OriginKind
  originJson : String
  contractMajor : Nat
  copyOrdinal : Nat
  intentId : String
  fingerprint : Bytes
  deadlineAt : Time
  originalSizeBytes : Nat
  authorityProof : AuthorityProof
deriving DecidableEq

structure AdmissionPlan where
  admissionId : String
  jobId : String
  reservationId : String
  artifactId : String
  manifest : AdmissionManifest
deriving DecidableEq

structure AdmissionAccepted where
  printIntentId : String
  printJobId : String
  deviceId : String
  acceptedAt : Time
  stateVersion : Nat
  replayed : Bool
deriving DecidableEq

/-- The process generation that owns recoverable reservations. -/
structure SpoolOwner where
  ownerId : String
  generation : Nat
  ownerId_ne : ownerId ≠ ""
  generation_pos : 0 < generation

structure OriginComparison where
  scopeKind : ScopeKind
  managedWorkId : Option String
  grantId : Option String
  grantPairingId : Option String
  grantGeneration : Option Nat
  actorId : String
  authorizationDigest : Bytes
  bindingRevisionId : String
  contractMajor : Nat
  copyOrdinal : Nat
  database : String
  deviceId : String
  fingerprint : Bytes
  grantScopeDigest : Bytes
  mediaType : String
  normalizedOptionsDigest : Bytes
  operation : String
  organizationId : String
  originJson : String
  originKind : OriginKind
  originSubmissionKey : String
  originalSizeBytes : Nat
  pairedClientId : Option String
  posConfigurationId : Option String
  siteId : String
deriving DecidableEq

structure ManifestComparison extends OriginComparison where
  deadlineAt : Time
  intentId : String
deriving DecidableEq

def AdmissionManifest.comparison (m : AdmissionManifest) : ManifestComparison where
  scopeKind := m.scopeKind
  managedWorkId := m.managedWorkId
  grantId := m.grantId
  grantPairingId := m.grantPairingId
  grantGeneration := m.grantGeneration
  actorId := m.actorId
  authorizationDigest := m.authorizationDigest
  bindingRevisionId := m.bindingRevisionId
  contractMajor := m.contractMajor
  copyOrdinal := m.copyOrdinal
  database := m.database
  deviceId := m.deviceId
  fingerprint := m.fingerprint
  grantScopeDigest := m.grantScopeDigest
  mediaType := m.mediaType
  normalizedOptionsDigest := m.normalizedOptionsDigest
  operation := m.operation
  organizationId := m.organizationId
  originJson := m.originJson
  originKind := m.originKind
  originSubmissionKey := m.originSubmissionKey
  originalSizeBytes := m.originalSizeBytes
  pairedClientId := m.pairedClientId
  posConfigurationId := m.posConfigurationId
  siteId := m.siteId
  deadlineAt := m.deadlineAt
  intentId := m.intentId

/-- The same columns of a stored row. -/
def AdmissionRow.comparison (r : AdmissionRow) : ManifestComparison where
  scopeKind := r.scopeKind
  managedWorkId := r.managedWorkId
  grantId := r.grantId
  grantPairingId := r.grantPairingId
  grantGeneration := r.grantGeneration
  actorId := r.actorId
  authorizationDigest := r.authorizationDigest
  bindingRevisionId := r.bindingRevisionId
  contractMajor := r.contractMajor
  copyOrdinal := r.copyOrdinal
  database := r.database
  deviceId := r.deviceId
  fingerprint := r.fingerprint
  grantScopeDigest := r.grantScopeDigest
  mediaType := r.mediaType
  normalizedOptionsDigest := r.normalizedOptionsDigest
  operation := r.operation
  organizationId := r.organizationId
  originJson := r.originJson
  originKind := r.originKind
  originSubmissionKey := r.originSubmissionKey
  originalSizeBytes := r.originalSizeBytes
  pairedClientId := r.pairedClientId
  posConfigurationId := r.posConfigurationId
  siteId := r.siteId
  deadlineAt := r.deadlineAt
  intentId := r.intentId

def assertExactReplay (row : AdmissionRow) (m : AdmissionManifest) : Except SpoolError Unit :=
  require (row.comparison == m.comparison) (.plain .idempotencyConflict)

def raiseIfAborted (row : AdmissionRow) : Except SpoolError Unit :=
  if row.state = .aborted then
    match row.failureCode with
    | some code => .error (.admission code ⟨some row.deviceId, some row.plannedJobId⟩)
    | none => .error (.plain .internalError)
  else .ok ()

def sameOriginSubmission (row : AdmissionRow) (m : AdmissionManifest) : Bool :=
  row.comparison.toOriginComparison == m.comparison.toOriginComparison

/-- `manifest_from_row` -/
def AdmissionRow.manifest (r : AdmissionRow) (proof : AuthorityProof) : AdmissionManifest where
  scopeKind := r.scopeKind
  managedWorkId := r.managedWorkId
  grantId := r.grantId
  grantPairingId := r.grantPairingId
  grantGeneration := r.grantGeneration
  idempotencyKey := r.idempotencyKey
  database := r.database
  organizationId := r.organizationId
  siteId := r.siteId
  posConfigurationId := r.posConfigurationId
  pairedClientId := r.pairedClientId
  actorId := r.actorId
  deviceId := r.deviceId
  bindingRevisionId := r.bindingRevisionId
  authorizationDigest := r.authorizationDigest
  operation := r.operation
  mediaType := r.mediaType
  normalizedOptionsDigest := r.normalizedOptionsDigest
  normalizedOptions := r.normalizedOptions
  grantScopeDigest := r.grantScopeDigest
  originSubmissionKey := r.originSubmissionKey
  originKind := r.originKind
  originJson := r.originJson
  contractMajor := r.contractMajor
  copyOrdinal := r.copyOrdinal
  intentId := r.intentId
  fingerprint := r.fingerprint
  deadlineAt := r.deadlineAt
  originalSizeBytes := r.originalSizeBytes
  authorityProof := proof

structure SpoolCapacityPolicy where
  deviceQueueLimit : Nat := 32
  agentQueueLimit : Nat := 256
  deviceOriginalLimit : Nat := 64 * 1024 * 1024
  agentOriginalLimit : Nat := 512 * 1024 * 1024
  devicePersistentLimit : Nat := 128 * 1024 * 1024
  agentPersistentLimit : Nat := 512 * 1024 * 1024
deriving DecidableEq

def receiptDerivedReserve : Nat := 16 * 1024 * 1024
def persistentOverhead : Nat := 64 * 1024

def persistentBytes (m : AdmissionManifest) : Nat :=
  m.originalSizeBytes + (if m.operation = "receipt_image" then receiptDerivedReserve else 0) +
    persistentOverhead

def activeTotal (rows : List ReservationRow) (column : ReservationRow → Nat) : Nat :=
  ((rows.filter (fun r => r.state.active)).map column).sum

def ofDevice (rows : List ReservationRow) (deviceId : String) : List ReservationRow :=
  rows.filter (fun r => r.deviceId == deviceId)

def assertQuota (policy : SpoolCapacityPolicy) (db : Db) (deviceId : String)
    (originalBytes persistentBytes : Nat) : Except SpoolError Unit := do
  let agent := db.reservations.rows
  let device := ofDevice db.reservations.rows deviceId
  require (decide (activeTotal device (·.queueSlots) + 1 ≤ policy.deviceQueueLimit) &&
      decide (activeTotal agent (·.queueSlots) + 1 ≤ policy.agentQueueLimit))
    (.admission .queueFull ⟨some deviceId, none⟩)
  require (decide (activeTotal device (·.originalBytes) + originalBytes
        ≤ policy.deviceOriginalLimit) &&
      decide (activeTotal agent (·.originalBytes) + originalBytes ≤ policy.agentOriginalLimit) &&
      decide (activeTotal device (·.persistentBytes) + persistentBytes
        ≤ policy.devicePersistentLimit) &&
      decide (activeTotal agent (·.persistentBytes) + persistentBytes
        ≤ policy.agentPersistentLimit))
    (.admission .spoolQuotaExceeded ⟨some deviceId, none⟩)

namespace SpoolAdmissionLedger

variable (policy : SpoolCapacityPolicy) (owner : SpoolOwner) (db : Db) (admissionId : String)
  (m : AdmissionManifest)

/-- `_scope_predicates` -/
def inScope (r : AdmissionRow) : Bool :=
  r.scopeKind == m.scopeKind && r.organizationId == m.organizationId && r.siteId == m.siteId &&
  (match m.scopeKind with
    | .pairedClient =>
      r.posConfigurationId == m.posConfigurationId && r.pairedClientId == m.pairedClientId
    | .deviceManager => r.posConfigurationId.isNone && r.pairedClientId.isNone)

def findIdempotency : Option AdmissionRow :=
  db.admissions.first (fun r => inScope m r && r.idempotencyKey == m.idempotencyKey)

def findOrigin : Option AdmissionRow :=
  db.admissions.first (fun r => inScope m r && r.originSubmissionKey == m.originSubmissionKey)

def acceptedFromRow (row : AdmissionRow) (replayed : Bool) : Except SpoolError AdmissionAccepted :=
  match row.jobId, row.acceptedAt with
  | some jobId, some acceptedAt =>
    .ok ⟨row.intentId, jobId, row.deviceId, acceptedAt, 1, replayed⟩
  | _, _ => .error (.plain .internalError)

def replay : Except SpoolError (Option AdmissionAccepted) :=
  match findIdempotency db m with
  | some existing => do
    assertExactReplay existing m
    raiseIfAborted existing
    if existing.state = .accepted then
      let accepted ← acceptedFromRow existing true
      pure (some accepted)
    else pure none
  | none =>
    match findOrigin db m with
    | none => .ok none
    | some origin => do
      require (sameOriginSubmission origin m) (.plain .requestConflict)
      raiseIfAborted origin
      if origin.state = .accepted then
        let accepted ← acceptedFromRow origin true
        pure (some accepted)
      else pure none

/-- The identifiers `prepare` may draw, in the order it draws them. -/
structure PlanIds where
  admissionId : String
  jobId : String
  reservationId : String
  artifactId : String

/-- `new_id` refuses a factory value that is empty or longer than 128 characters. -/
def newId (value : String) : Except SpoolError String :=
  if value ≠ "" ∧ value.length ≤ 128 then .ok value else .error (.plain .internalError)

def contentRetention : Time := 24 * hour
def idempotencyRetention : Time := 90 * day

def holdReservation (plan : AdmissionPlan) (persistentBytes : Nat) (now : Time) :
    Except SpoolError Db := do
  let reservations ← db.reservations.insert {
    id := plan.reservationId
    reservationKind := .admission
    admissionId := some plan.admissionId
    jobId := none
    deviceId := plan.manifest.deviceId
    ownerId := owner.ownerId
    ownerGeneration := owner.generation
    queueSlots := 1
    originalBytes := plan.manifest.originalSizeBytes
    persistentBytes := persistentBytes
    temporaryBytes := 0
    state := .held
    createdAt := now
    expiresAt := now + contentRetention
    releasedAt := none }
  pure { db with reservations := reservations }

def originalArtifact : Option ArtifactRow :=
  db.artifacts.first (fun a => a.admissionId == admissionId && a.artifactKind == .original)

def activeReservation : Option ReservationRow :=
  db.reservations.first (fun r => r.admissionId == some admissionId && r.state.active)

def readProof : Except SpoolError AuthorityProof :=
  match readAuthorityProof db admissionId with
  | .ok proof => .ok proof
  | .error code => .error (.plain code)

/-- The artifact of a resumed plan: the one already staged, or a new one. -/
def resumedArtifactId (ids : PlanIds) : Except SpoolError String :=
  match originalArtifact db admissionId with
  | some artifact => .ok artifact.id
  | none => newId ids.artifactId

def resumePlan (row : AdmissionRow) (now : Time) (ids : PlanIds) :
    Except SpoolError (Db × AdmissionPlan) := do
  let proof ← readProof db row.id
  let manifest := row.manifest proof
  match activeReservation db row.id with
  | none => do
    assertQuota policy db manifest.deviceId manifest.originalSizeBytes (persistentBytes manifest)
    let reservationId ← newId ids.reservationId
    let artifactId ← newId ids.artifactId
    let plan : AdmissionPlan := ⟨row.id, row.plannedJobId, reservationId, artifactId, manifest⟩
    let db ← holdReservation owner db plan (persistentBytes manifest) now
    pure (db, plan)
  | some active => do
    let artifactId ← resumedArtifactId db row.id ids
    pure (db, ⟨row.id, row.plannedJobId, active.id, artifactId, manifest⟩)

/-- The row `prepare` inserts for a new admission. -/
def stagingRow (jobId : String) (m : AdmissionManifest) (now : Time) : AdmissionRow where
  id := admissionId
  plannedJobId := jobId
  database := m.database
  scopeKind := m.scopeKind
  managedWorkId := m.managedWorkId
  organizationId := m.organizationId
  siteId := m.siteId
  posConfigurationId := m.posConfigurationId
  pairedClientId := m.pairedClientId
  idempotencyKey := m.idempotencyKey
  fingerprint := m.fingerprint
  state := .staging
  jobId := none
  intentId := m.intentId
  deviceId := m.deviceId
  deadlineAt := m.deadlineAt
  originalSizeBytes := m.originalSizeBytes
  createdAt := now
  updatedAt := now
  acceptedAt := none
  failedAt := none
  failureCode := none
  idempotencyExpiresAt := now + idempotencyRetention
  contentExpiresAt := now + contentRetention
  actorId := m.actorId
  bindingRevisionId := m.bindingRevisionId
  authorizationDigest := m.authorizationDigest
  operation := m.operation
  mediaType := m.mediaType
  normalizedOptionsDigest := m.normalizedOptionsDigest
  normalizedOptions := m.normalizedOptions
  grantScopeDigest := m.grantScopeDigest
  grantId := m.grantId
  grantPairingId := m.grantPairingId
  grantGeneration := m.grantGeneration
  grantAuthorizationDigest := if m.grantId.isSome then some m.authorizationDigest else none
  originSubmissionKey := m.originSubmissionKey
  originKind := m.originKind
  originJson := m.originJson
  contractMajor := m.contractMajor
  copyOrdinal := m.copyOrdinal

/-- `insert_authority_proof`; `graphOk` is the verdict of the table's graph trigger. -/
def insertAuthorityProof (graphOk : Bool) : Except SpoolError Db := do
  let row : AuthorityProofRow := {
    admissionId := admissionId
    proof := m.authorityProof
    grantId := m.grantId
    grantPairingId := m.grantPairingId
    grantGeneration := m.grantGeneration
    grantAuthorizationDigest := if m.grantId.isSome then some m.authorizationDigest else none }
  match db.proofs.first (fun r => r.admissionId == admissionId) with
  | some existing => do
    require (existing == row) (.plain .idempotencyConflict)
    pure db
  | none => do
    require graphOk .integrityError
    let proofs ← db.proofs.insert row
    pure { db with proofs := proofs }

/-- The part of `prepare` that creates a new admission. -/
def createAdmission (now : Time) (ids : PlanIds) (graphOk : Bool) :
    Except SpoolError (Db × AdmissionPlan) := do
  assertQuota policy db m.deviceId m.originalSizeBytes (persistentBytes m)
  let admissionId ← newId ids.admissionId
  let jobId ← newId ids.jobId
  let reservationId ← newId ids.reservationId
  let artifactId ← newId ids.artifactId
  let plan : AdmissionPlan := ⟨admissionId, jobId, reservationId, artifactId, m⟩
  let admissions ← db.admissions.insert (stagingRow admissionId jobId m now)
  let db ← insertAuthorityProof { db with admissions := admissions } admissionId m graphOk
  let db ← holdReservation owner db plan (persistentBytes m) now
  pure (db, plan)

inductive Prepared
  | accepted (a : AdmissionAccepted)
  | plan (p : AdmissionPlan)

def resumeOrReplay (row : AdmissionRow) (now : Time) (ids : PlanIds) :
    Except SpoolError (Db × Prepared) := do
  raiseIfAborted row
  if row.state = .accepted then
    let accepted ← acceptedFromRow row true
    pure (db, .accepted accepted)
  else
    let (db, plan) ← resumePlan policy owner db row now ids
    pure (db, .plan plan)

def prepare (now : Time) (ids : PlanIds) (graphOk : Bool) : Except SpoolError (Db × Prepared) :=
  match findIdempotency db m with
  | some existing => do
    assertExactReplay existing m
    resumeOrReplay policy owner db existing now ids
  | none =>
    match findOrigin db m with
    | some origin => do
      require (sameOriginSubmission origin m) (.plain .requestConflict)
      resumeOrReplay policy owner db origin now ids
    | none => do
      let (db, plan) ← createAdmission policy owner db m now ids graphOk
      pure (db, .plan plan)

/-- What `encrypt_artifact` and `stage_bytes` produced for the original document. -/
structure StagedDocument where
  storageRef : String
  formatVersion : Nat
  nonce : Bytes
  ciphertextSizeBytes : Nat
  plaintextSha256 : Bytes
deriving DecidableEq

def recordStagedArtifact (plan : AdmissionPlan) (staged : StagedDocument) (now : Time) :
    Except SpoolError Db :=
  match originalArtifact db plan.admissionId with
  | some prior =>
    if prior.storageRef = staged.storageRef then .ok db
    else .error (.plain .recoveryUncertain)
  | none => do
    let artifacts ← db.artifacts.insert {
      id := plan.artifactId
      admissionId := plan.admissionId
      reservationId := plan.reservationId
      jobId := none
      aadJobId := plan.jobId
      intentId := plan.manifest.intentId
      formatVersion := staged.formatVersion
      artifactKind := .original
      storageRef := staged.storageRef
      nonce := staged.nonce
      plaintextSizeBytes := plan.manifest.originalSizeBytes
      ciphertextSizeBytes := staged.ciphertextSizeBytes
      plaintextSha256 := staged.plaintextSha256
      state := .staging
      retentionPolicy := .active
      createdAt := now
      committedAt := none
      deleteAfter := none
      deletedAt := none
      deleteAttempts := 0
      lastDeleteErrorCode := none }
    pure { db with artifacts := artifacts }

def planFromRows (admission : AdmissionRow) (artifact : ArtifactRow) :
    Except SpoolError AdmissionPlan := do
  let reservation := activeReservation db admission.id
  let proof ← readProof db admission.id
  let reservation ← orRaise reservation (.plain .recoveryUncertain)
  pure ⟨admission.id, admission.plannedJobId, reservation.id, artifact.id,
    admission.manifest proof⟩

def stagingAdmissions : List AdmissionRow :=
  db.admissions.select (fun r => r.state == .staging || r.state == .finalizing)

def hasStagingArtifact : Bool :=
  (db.artifacts.first (fun a => a.admissionId == admissionId && a.state == .staging)).isSome

/-- `update(spool_reservations).where(p, state active).values(state="released")` -/
def releaseWhere (p : ReservationRow → Bool) (now : Time) : Except SpoolError Db := do
  let reservations ← db.reservations.update (fun r => p r && r.state.active)
    (fun r => { r with state := .released, releasedAt := some now })
  pure { db with reservations := reservations }

def removeMissingArtifact (plan : AdmissionPlan) (storageRef : String) (now : Time) :
    Except SpoolError Db :=
  releaseWhere { db with artifacts := db.artifacts.delete (fun a =>
      a.admissionId == plan.admissionId && a.storageRef == storageRef && a.state == .staging) }
    (fun r => r.id == plan.reservationId) now

def releaseReservation (reservationId : String) (now : Time) : Except SpoolError Db :=
  releaseWhere db (fun r => r.id == reservationId) now

def releaseAdmissionReservations (now : Time) : Except SpoolError Db :=
  releaseWhere db (fun r => r.admissionId == some admissionId) now

inductive AbortCode
  | expired | capabilityChanged | certificationRequired | recoveryUncertain | serviceUnavailable
deriving DecidableEq

def AbortCode.problem : AbortCode → ProblemCode
  | .expired => .expired
  | .capabilityChanged => .capabilityChanged
  | .certificationRequired => .certificationRequired
  | .recoveryUncertain => .recoveryUncertain
  | .serviceUnavailable => .serviceUnavailable

def abortPreaccept (code : AbortCode) (now : Time) : Except SpoolError Db := do
  let db := { db with
    artifacts := db.artifacts.delete (fun a =>
      a.admissionId == admissionId && a.state == .staging)
    admissionKeys := db.admissionKeys.delete (fun k => k.admissionId == admissionId) }
  let db ← releaseWhere db (fun r => r.admissionId == some admissionId) now
  let admissions ← db.admissions.update
    (fun r => r.id == admissionId && (r.state == .staging || r.state == .finalizing))
    (fun r => { r with
      state := .aborted
      failedAt := some now
      failureCode := some code.problem
      updatedAt := now })
  pure { db with admissions := admissions }

end SpoolAdmissionLedger

end Inari.Agent
