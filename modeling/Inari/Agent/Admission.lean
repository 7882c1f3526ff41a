import Inari.Agent.Spool

/-!
# Durable spool admission

`DurableSpoolAdmissionStore` of `inari/spool/admission.py`. A step of a call makes at most one
transaction or one use of files and keys; the process may stop between any two.
-/

namespace Inari.Agent

open Lib

/-- The collaborators of the store, as they answer during one step. -/
structure AdmissionEnv where
  policy : SpoolCapacityPolicy
  owner : SpoolOwner
  managedDeviceIsShared : String → Bool
  guardCheck : AuthorityProof → Time → Except ProblemCode Unit
  fileExists : String → Except SpoolError Bool

namespace DurableSpoolAdmissionStore

open SpoolAdmissionLedger

def checkManagedDeviceSharing (env : AdmissionEnv) (m : AdmissionManifest) (code : ProblemCode) :
    Except SpoolError Unit :=
  require (m.managedWorkId.isNone || env.managedDeviceIsShared m.deviceId)
    (.admission code ⟨some m.deviceId, none⟩)

def guardAuthority (env : AdmissionEnv) (proof : AuthorityProof) (now : Time) :
    Except SpoolError Unit :=
  match env.guardCheck proof now with
  | .ok () => .ok ()
  | .error code => .error (.plain code)

def publishedRow (plan : AdmissionPlan) (row : AdmissionRow) (now : Time) : PrintJobRow where
  id := plan.jobId
  admissionId := plan.admissionId
  authorityProofId := plan.manifest.authorityProof.proofId
  intentId := row.intentId
  deviceId := row.deviceId
  scopeKind := row.scopeKind
  organizationId := row.organizationId
  siteId := row.siteId
  posConfigurationId := row.posConfigurationId
  pairedClientId := row.pairedClientId
  originKind := row.originKind
  originJson := row.originJson
  managedWorkId := row.managedWorkId
  state := .accepted
  stateVersion := 1
  acceptedAt := now
  startedAt := none
  terminalAt := none
  expiresAt := row.deadlineAt
  retryable := false
  errorCode := none
  messageKey := none
  confirmationEvidence := none
  contractVersion := "v" ++ toString row.contractMajor

variable (inp : StepInput) (db : Db)

/-- The writes of `_finalize`, after its checks. -/
def publish (plan : AdmissionPlan) (row : AdmissionRow) (artifact : ArtifactRow)
    (stagingKey : AdmissionKeyRow) (now : Time) : Except SpoolError Db := do
  let admissions ← db.admissions.update
    (fun r => r.id == plan.admissionId && r.state == .staging)
    (fun r => { r with state := .finalizing, updatedAt := now })
  let job := publishedRow plan row now
  let jobs ← db.jobs.insert job
  let jobKeys ← db.jobKeys.insert {
    jobId := plan.jobId
    rootVersion := stagingKey.rootVersion
    intentId := stagingKey.intentId
    formatVersion := stagingKey.formatVersion
    wrapNonce := stagingKey.wrapNonce
    wrappedKey := stagingKey.wrappedKey
    createdAt := stagingKey.createdAt
    keyDeletedAt := none }
  let reservations ← db.reservations.update (fun r => r.id == plan.reservationId)
    (fun r => { r with jobId := some plan.jobId, state := .committed })
  let artifacts ← db.artifacts.update (fun a => a.id == artifact.id)
    (fun a => { a with jobId := some plan.jobId, state := .committed, committedAt := some now })
  let admissions ← admissions.update (fun r => r.id == plan.admissionId)
    (fun r => { r with
      state := .accepted
      jobId := some plan.jobId
      acceptedAt := some now
      updatedAt := now })
  let (db, _) ← insertEvent { db with
      admissions := admissions, jobs := jobs, jobKeys := jobKeys, reservations := reservations,
      artifacts := artifacts } plan.jobId 1 .accepted
    (snapshot job .accepted 1 none none none none none) now
  pure { db with
    admissionKeys := db.admissionKeys.delete (fun k => k.admissionId == plan.admissionId) }

def finalize (env : AdmissionEnv) (db : Db) (plan : AdmissionPlan) (now : Time) :
    Except SpoolError (Db × AdmissionAccepted) := do
  let row ← db.admissions.one (fun r => r.id == plan.admissionId)
  if row.state = .accepted then
    let accepted ← acceptedFromRow row true
    pure (db, accepted)
  else
    checkManagedDeviceSharing env plan.manifest .capabilityChanged
    require (decide (now < row.deadlineAt)) (.plain .expired)
    let artifact ← db.artifacts.one (fun a => a.admissionId == plan.admissionId &&
      a.artifactKind == .original)
    let present ← env.fileExists artifact.storageRef
    require present (.plain .recoveryUncertain)
    let stagingKey ← db.admissionKeys.one (fun k => k.admissionId == plan.admissionId)
    guardAuthority env plan.manifest.authorityProof now
    let db ← publish db plan row artifact stagingKey now
    pure (db, ⟨plan.manifest.intentId, plan.jobId, plan.manifest.deviceId, now, 1, false⟩)

/-- Mark the artifact whose file is missing as deleted, if there is one. -/
def dropArtifact (artifact : Option ArtifactRow) (now : Time) :
    Except SpoolError (Table ArtifactRow.spec) :=
  match artifact with
  | none => .ok db.artifacts
  | some missing =>
    db.artifacts.update (fun a => a.id == missing.id && a.state == .committed)
      (fun a => { a with
        state := .deleted
        retentionPolicy := .integrityImmediate
        deleteAfter := some now
        deletedAt := some now
        lastDeleteErrorCode := none })

/-- `_fail_accepted_job_without_content`: the job row as it was read before the transaction. -/
def failAcceptedJobWithoutContent (job : PrintJobRow) (artifact : Option ArtifactRow) (now : Time) :
    Except SpoolError Db := do
  let nextVersion := job.stateVersion + 1
  let matched := fun (r : PrintJobRow) =>
    r.id == job.id && r.state == .accepted && r.stateVersion == job.stateVersion
  let jobs ← db.jobs.update matched
    (fun r => { r with
      state := .failed
      stateVersion := nextVersion
      terminalAt := some now
      retryable := false
      errorCode := some ProblemCode.serviceUnavailable.value
      messageKey := some "print.service_unavailable" })
  if db.jobs.rowcount matched = 0 then pure db
  else
    let (db, _) ← insertEvent { db with jobs := jobs } job.id nextVersion .failed
      { acceptedAt := job.acceptedAt
        contractVersion := job.contractVersion
        deviceId := job.deviceId
        intentId := job.intentId
        jobId := job.id
        state := .failed
        stateVersion := nextVersion
        startedAt := none
        terminalAt := some now
        errorCode := some ProblemCode.serviceUnavailable.value
        messageKey := some "print.service_unavailable"
        confirmationEvidence := none } now
    let artifacts ← dropArtifact db artifact now
    let jobKeys ← db.jobKeys.update (fun k => k.jobId == job.id && k.keyDeletedAt.isNone)
      (fun k => { k with wrappedKey := [], keyDeletedAt := some now })
    let reservations ← db.reservations.update
      (fun r => r.jobId == some job.id && r.state == .committed)
      (fun r => { r with state := .released, releasedAt := some now })
    pure { db with artifacts := artifacts, jobKeys := jobKeys, reservations := reservations }

/-- How the commit of a transaction ended. When its result is uncertain the caller gets
`DatabaseCommitUncertainError`, whether or not the writes were applied. -/
inductive Commit
  | done
  | uncertain (applied : Bool)

def transact {α : Type} (commit : Commit) (db : Db) (result : Except SpoolError (Db × α)) :
    Db × Except SpoolError α :=
  match result with
  | .error e => (db, .error e)
  | .ok (db', a) =>
    match commit with
    | .done => (db', .ok a)
    | .uncertain applied => (if applied then db' else db, .error .databaseCommitUncertain)

structure WrappedAdmissionKey where
  rootVersion : Nat
  formatVersion : Nat
  wrapNonce : Bytes
  wrappedKey : Bytes

structure StepInput where
  env : AdmissionEnv
  clock : Time
  ids : PlanIds
  graphOk : Bool
  volumeReserve : Except SpoolError Unit
  completePublication : Except SpoolError Bool
  storedKey : Except SpoolError Unit
  newKey : Except SpoolError WrappedAdmissionKey
  stagedDocument : Except SpoolError StagedDocument
  publishFile : Except SpoolError Unit
  verifyFile : Except SpoolError Unit
  removeFiles : Except SpoolError Unit
  commit : Commit

/-- Where a call stands inside the `try` block, with what it still has to do. -/
inductive Stage
  | resumePromoted
  | dataKey (resumed : Bool)
  | stageDocument
  | recordStaged (staged : StagedDocument)
  | publishFile
  | verify (resumed : Bool)
  | finalize (resumed : Bool)
  | removeMissing (storageRef : String)
  | abort (code : AbortCode) (raised : SpoolError)
  | release (raised : SpoolError)
deriving DecidableEq

inductive Call
  | accept (m : AdmissionManifest)
  | acceptLoop (m : AdmissionManifest) (now : Time)
  | accepting (m : AdmissionManifest) (now : Time) (plan : AdmissionPlan) (stage : Stage)
  | reconcile
  | reconcileNext (now : Time) (todo : List AdmissionRow)
  | reconciling (now : Time) (todo : List AdmissionRow) (plan : AdmissionPlan) (stage : Stage)
  | reconcileAbort (now : Time) (todo : List AdmissionRow) (admissionId : String)
      (code : AbortCode)
  | reconcileJobs (now : Time)
  | reconcileJob (now : Time) (todo : List PrintJobRow)
  | failJob (now : Time) (todo : List PrintJobRow) (job : PrintJobRow)
      (artifact : Option ArtifactRow)
deriving DecidableEq

inductive Outcome
  | accepted (a : AdmissionAccepted)
  | raised (e : SpoolError)
  | reconciled
deriving DecidableEq

/-- What a step leaves: the database, and the call's next position or its outcome. -/
abbrev Next := Db × (Call ⊕ Outcome)

def ended (o : Outcome) : Next := (db, .inr o)

def abortCode : ProblemCode → Option AbortCode
  | .expired => some .expired
  | .capabilityChanged => some .capabilityChanged
  | .certificationRequired => some .certificationRequired
  | _ => none

/-- The `except` clauses of `_accept`. -/
def acceptExcept (m : AdmissionManifest) (now : Time) (plan : AdmissionPlan) (e : SpoolError) :
    Next :=
  let uncertain : SpoolError := .admission .recoveryUncertain ⟨some m.deviceId, some plan.jobId⟩
  match e with
  | .restartAdmission => (db, .inl (.acceptLoop m now))
  | .admission code _ =>
    match abortCode code with
    | some c => (db, .inl (.accepting m now plan (.abort c e)))
    | none => ended db (.raised e)
  | .spoolCommitUncertain | .databaseCommitUncertain | .nonceReservationUncertain =>
    ended db (.raised uncertain)
  | .rootKeyUnavailable =>
    (db, .inl (.accepting m now plan (.release (.plain .serviceUnavailable))))
  | .storageError =>
    if hasStagingArtifact db plan.admissionId then ended db (.raised uncertain)
    else (db, .inl (.accepting m now plan (.release (.plain .spoolStorageLow))))
  | .cryptoError =>
    (db, .inl (.accepting m now plan (.abort .recoveryUncertain (.plain .recoveryUncertain))))
  | .integrityError =>
    (db, .inl (.accepting m now plan (.release (.plain .requestConflict))))
  | .noResultFound => ended db (.raised e)

/-- The `except` clauses of `_reconcile`. -/
def reconcileExcept (now : Time) (todo : List AdmissionRow) (admissionId : String)
    (e : SpoolError) : Next :=
  match e with
  | .spoolCommitUncertain | .databaseCommitUncertain | .storageError =>
    (db, .inl (.reconcileNext now todo))
  | .admission .serviceUnavailable _ => (db, .inl (.reconcileNext now todo))
  | .admission code _ =>
    (db, .inl (.reconcileAbort now todo admissionId ((abortCode code).getD .recoveryUncertain)))
  | .cryptoError | .nonceReservationUncertain =>
    (db, .inl (.reconcileAbort now todo admissionId .recoveryUncertain))
  | .restartAdmission | .rootKeyUnavailable | .integrityError | .noResultFound =>
    ended db (.raised e)

/-- `_data_key_for`: read the stored key, or wrap and store a new one. -/
def dataKeyFor (plan : AdmissionPlan) (now : Time) : Except SpoolError (Db × Unit) :=
  match db.admissionKeys.first (fun k => k.admissionId == plan.admissionId) with
  | some _ => do
    inp.storedKey
    pure (db, ())
  | none => do
    let wrapped ← inp.newKey
    let admissionKeys ← db.admissionKeys.insert {
      admissionId := plan.admissionId
      plannedJobId := plan.jobId
      rootVersion := wrapped.rootVersion
      intentId := plan.manifest.intentId
      formatVersion := wrapped.formatVersion
      wrapNonce := wrapped.wrapNonce
      wrappedKey := wrapped.wrappedKey
      createdAt := now }
    pure ({ db with admissionKeys := admissionKeys }, ())

/-- `_verify_artifact`, up to reading and opening the file. -/
def verifyArtifact (plan : AdmissionPlan) : Except SpoolError Unit := do
  let _ ← orRaise (originalArtifact db plan.admissionId) (.plain .recoveryUncertain)
  inp.verifyFile

def unit (r : Except SpoolError Db) : Except SpoolError (Db × Unit) := r.map (fun db => (db, ()))

/-- How a step inside the `try` block ended. -/
inductive StageResult
  | next (s : Stage)
  | accepted (a : AdmissionAccepted)
  | removed
  | failed (e : SpoolError)

/-- An exception inside an `except` clause leaves the call in place of the first one. -/
def reraise (raised : SpoolError) : Db × Except SpoolError Unit → Db × Except SpoolError StageResult
  | (db, .ok ()) => (db, .ok (.failed raised))
  | (db, .error e) => (db, .ok (.failed e))

def continueWith {α : Type} (f : α → StageResult) :
    Db × Except SpoolError α → Db × Except SpoolError StageResult
  | (db, .ok a) => (db, .ok (f a))
  | (db, .error e) => (db, .error e)

def stageStep (plan : AdmissionPlan) (now : Time) : Stage → Db × Except SpoolError StageResult
  | .resumePromoted =>
    match originalArtifact db plan.admissionId with
    | none => (db, .ok (.next (.dataKey false)))
    | some artifact => continueWith
        (fun complete => .next (if complete then .dataKey true
          else .removeMissing artifact.storageRef)) (db, inp.completePublication)
  | .dataKey resumed => continueWith
      (fun () => .next (if resumed then .verify true else .stageDocument))
      (transact inp.commit db (dataKeyFor inp db plan now))
  | .stageDocument => continueWith (fun d => .next (.recordStaged d)) (db, inp.stagedDocument)
  | .recordStaged staged => continueWith (fun () => .next .publishFile)
      (transact inp.commit db (unit (recordStagedArtifact db plan staged now)))
  | .publishFile => continueWith (fun () => .next (.verify false)) (db, inp.publishFile)
  | .verify resumed => continueWith (fun () => .next (.finalize resumed))
      (db, verifyArtifact inp db plan)
  | .finalize resumed => continueWith .accepted
      (transact inp.commit db (finalize inp.env db plan (if resumed then now else inp.clock)))
  | .removeMissing storageRef => continueWith (fun () => .removed)
      (transact inp.commit db (unit (removeMissingArtifact db plan storageRef now)))
  | .abort code raised =>
    match inp.removeFiles with
    | .error e => (db, .ok (.failed e))
    | .ok () => reraise raised
        (transact inp.commit db (unit (abortPreaccept db plan.admissionId code inp.clock)))
  | .release raised => reraise raised
      (transact inp.commit db (unit (releaseReservation db plan.reservationId now)))

/-- The checks of `_accept` between the first replay lookup and the loop. -/
def acceptChecks (m : AdmissionManifest) : Except SpoolError Unit := do
  checkManagedDeviceSharing inp.env m .permissionDenied
  require (decide (inp.clock < m.deadlineAt)) (.plain .expired)
  inp.volumeReserve

def callStep : Call → Next
  | .accept m =>
    match replay db m with
    | .error e => ended db (.raised e)
    | .ok (some a) => ended db (.accepted a)
    | .ok none =>
      match acceptChecks inp m with
      | .error e => ended db (.raised e)
      | .ok () => (db, .inl (.acceptLoop m inp.clock))
  | .acceptLoop m now =>
    match transact inp.commit db
        (prepare inp.env.policy inp.env.owner db m now inp.ids inp.graphOk) with
    | (db, .error e) => ended db (.raised e)
    | (db, .ok (.accepted a)) => ended db (.accepted a)
    | (db, .ok (.plan plan)) => (db, .inl (.accepting m now plan .resumePromoted))
  | .accepting m now plan stage =>
    match stageStep inp db plan now stage with
    | (db, .error e) => acceptExcept db m now plan e
    | (db, .ok (.next stage)) => (db, .inl (.accepting m now plan stage))
    | (db, .ok (.accepted a)) => ended db (.accepted a)
    | (db, .ok .removed) => acceptExcept db m now plan .restartAdmission
    | (db, .ok (.failed e)) => ended db (.raised e)
  | .reconcile => (db, .inl (.reconcileNext inp.clock (stagingAdmissions db)))
  | .reconcileNext now [] => (db, .inl (.reconcileJobs now))
  | .reconcileNext now (row :: todo) =>
    match originalArtifact db row.id with
    | none =>
      match transact inp.commit db (unit (releaseAdmissionReservations db row.id now)) with
      | (db, .error e) => reconcileExcept db now todo row.id e
      | (db, .ok ()) => (db, .inl (.reconcileNext now todo))
    | some artifact =>
      match planFromRows db row artifact with
      | .error e => reconcileExcept db now todo row.id e
      | .ok plan =>
        match inp.completePublication with
        | .error e => reconcileExcept db now todo row.id e
        | .ok true => (db, .inl (.reconciling now todo plan (.dataKey true)))
        | .ok false =>
          (db, .inl (.reconciling now todo plan (.removeMissing artifact.storageRef)))
  | .reconciling now todo plan stage =>
    match stageStep inp db plan now stage with
    | (db, .error e) => reconcileExcept db now todo plan.admissionId e
    | (db, .ok (.next stage)) => (db, .inl (.reconciling now todo plan stage))
    | (db, .ok (.accepted _)) | (db, .ok .removed) => (db, .inl (.reconcileNext now todo))
    | (db, .ok (.failed e)) => ended db (.raised e)
  | .reconcileAbort now todo admissionId code =>
    match inp.removeFiles with
    | .error e => ended db (.raised e)
    | .ok () =>
      match transact inp.commit db (unit (abortPreaccept db admissionId code now)) with
      | (db, .error e) => ended db (.raised e)
      | (db, .ok ()) => (db, .inl (.reconcileNext now todo))
  | .reconcileJobs now =>
    (db, .inl (.reconcileJob now (db.jobs.select (fun r => r.state == .accepted))))
  | .reconcileJob _ [] => ended db .reconciled
  | .reconcileJob now (job :: todo) =>
    match db.artifacts.first (fun a => a.jobId == some job.id && a.artifactKind == .original) with
    | none => (db, .inl (.failJob now todo job none))
    | some artifact =>
      match inp.env.fileExists artifact.storageRef with
      | .ok true | .error .storageError => (db, .inl (.reconcileJob now todo))
      | .ok false => (db, .inl (.failJob now todo job (some artifact)))
      | .error e => ended db (.raised e)
  | .failJob now todo job artifact =>
    match transact inp.commit db (unit (failAcceptedJobWithoutContent db job artifact now)) with
    | (db, .error e) => ended db (.raised e)
    | (db, .ok ()) => (db, .inl (.reconcileJob now todo))

end DurableSpoolAdmissionStore

end Inari.Agent
