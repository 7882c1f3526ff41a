import Inari.Agent.ClientTrust
import Inari.Agent.System

/-!
# Device Tests beside physical execution

`SqliteDeviceTestLedger` of `inari/device_tests/sqlite.py`, one transaction for each operation.
Each ledger reads the other's table; the system at the end interleaves both.
-/

namespace Inari.Agent

open Lib ClientTrust

namespace SqliteDeviceTestLedger

/-- What `mark_io_started` keeps of the authority it checked. -/
structure DeviceTestAuthorization where
  /-- `binding_revision_payload`, as canonical JSON -/
  binding : String
  bindingDigest : String
  profileDigest : String
  profileId : String
  matrixDigest : String
  authorityRevisionId : String
  authorityRevisionDigest : String
  observationDigest : String
  requiredOutputEvidence : OutputEvidence
  revisionExpiresAt : Option Time
  profileExpiresAt : Option Time
  certificationExpiresAt : Option Time

/-- The stored graph of a test that was started. -/
structure TestGraph where
  binding : String
  bindingDigest : String
  profileDigest : String
  profileId : String
  matrixDigest : String
  authorityRevisionId : String
  authorityRevisionDigest : String
  observationDigest : String
  requiredOutputEvidence : OutputEvidence
  validUntil : Option Time

/-- `_valid_until`: the first of the expiries that are set. -/
def validUntil (a : DeviceTestAuthorization) : Option Time :=
  [a.revisionExpiresAt, a.profileExpiresAt, a.certificationExpiresAt].foldl
    (fun first expiry => match first, expiry with
      | some s, some t => if t < s then some t else some s
      | none, t => t
      | s, none => s) none

def testGraph (a : DeviceTestAuthorization) : TestGraph where
  binding := a.binding
  bindingDigest := a.bindingDigest
  profileDigest := a.profileDigest
  profileId := a.profileId
  matrixDigest := a.matrixDigest
  authorityRevisionId := a.authorityRevisionId
  authorityRevisionDigest := a.authorityRevisionDigest
  observationDigest := a.observationDigest
  requiredOutputEvidence := a.requiredOutputEvidence
  validUntil := validUntil a

/-- The answers to the physical checks, in the order of `REQUIRED_CHECKS`. -/
abbrev Checks := List (String × String)

structure DeviceTestRequest where
  testId : String
  deviceId : String
  bindingRevisionId : String

structure DeviceTestRecord where
  recordId : String
  testId : String
  deviceId : String
  bindingRevisionId : String
  fingerprint : Bytes
  state : DeviceTestState
  stateVersion : Nat
  acceptedAt : Time
  ioDeadline : Time
  startedAt : Option Time
  terminalAt : Option Time
  outputEvidence : Option OutputEvidence
  platformJobId : Option String
  errorCode : Option String
  graph : Option TestGraph
  checks : Option Checks
  signedResult : Option String

structure TestWorkerClaim where
  recordId : String
  deviceId : String
  claimId : String

structure TestIoMarker where
  executionId : String
  deviceId : String
  markerId : String

/-- `scope_values` of an authorized request -/
structure TestScope where
  database : String
  companyId : String
  organizationId : String
  siteId : String
  posConfigurationId : String
  pairedClientId : String
  actorId : String
deriving DecidableEq

inductive TestError
  | domainFailure (code : ProblemCode)
  | integrityError
  | noResultFound
  | databaseCommitUncertain
  /-- What the authority check or the signing raised. -/
  | port (message : String)

instance : SqlError TestError := ⟨.integrityError, .noResultFound⟩

structure TestRow extends DeviceTestRecord where
  scope : TestScope
  workerClaimId : Option String
  markerId : Option String

def TestRow.seen (r : TestRow) : DeviceTestRow :=
  ⟨r.recordId, r.deviceId, r.state, r.ioDeadline, r.workerClaimId, r.errorCode⟩

/-- The test waits for its worker or uses its Device. -/
def TestRow.isOpen (r : TestRow) : Bool := r.state == .accepted || r.state == .inProgress

/-- `ck_device_tests_worker_claim` -/
def workerClaimCheck (r : TestRow) : Bool :=
  match r.workerClaimId with
  | none => true
  | some claim => claim.length == 32 && r.isOpen

def testPrimaryKey : UniqueIndex TestRow := ⟨fun r => some r.recordId⟩

def uqTestScope : UniqueIndex TestRow :=
  ⟨fun r => some (r.scope.database, r.scope.companyId, r.scope.organizationId, r.scope.siteId,
    r.scope.posConfigurationId, r.testId)⟩

def testSpec : TableSpec TestRow where
  check r := r.fingerprint.length == 32 && decide (0 < r.stateVersion) &&
    (match r.startedAt, r.markerId with
      | none, none => true
      | some _, some _ => r.graph.isSome
      | _, _ => false) &&
    (r.state != .completed || (r.checks.isSome && r.signedResult.isSome && r.terminalAt.isSome)) &&
    workerClaimCheck r
  uniques := [testPrimaryKey, uqTestScope]

abbrev Tests := Table testSpec

/-- The rows of the client trust tables, as one transaction reads them. -/
structure TestEnv where
  grants : List ClientGrantFields
  pairings : List ClientPairingFields

/-- `scope_values`; `grant` is the grant of the authorized request. -/
def scopeValues (grant : ClientGrantFields) : Except TestError TestScope := do
  let business := grant.scope.business
  let posConfigurationId ← orRaise business.posConfigurationId (.domainFailure .bindingRequired)
  pure ⟨business.database, business.companyId, business.organizationId, business.siteId,
    posConfigurationId, grant.pairingId, grant.actorId⟩

def baseScope (scope : TestScope) (r : TestRow) : Bool :=
  r.scope.database == scope.database && r.scope.companyId == scope.companyId &&
  r.scope.organizationId == scope.organizationId && r.scope.siteId == scope.siteId &&
  r.scope.posConfigurationId == scope.posConfigurationId

def ownedScope (scope : TestScope) (r : TestRow) : Bool := r.scope == scope

/-- The conditions of `_check_grant` on the stored grant and pairing. -/
def grantAllows (supplied : ClientGrantFields) (expected : TestScope) (now : Time)
    (grant : ClientGrantFields) (pairing : ClientPairingFields) : Bool :=
  grant.scope.business.database == expected.database &&
  grant.scope.business.companyId == expected.companyId &&
  grant.scope.business.organizationId == expected.organizationId &&
  grant.scope.business.siteId == expected.siteId &&
  grant.scope.business.posConfigurationId == some expected.posConfigurationId &&
  grant.actorId == expected.actorId &&
  grant.pairingId == supplied.pairingId && grant.generation == supplied.generation &&
  grant.authorizationDigest == supplied.authorizationDigest &&
  grant.lifecycle == .active && pairing.lifecycle == .active &&
  decide (now < grant.expiresAt) && pairing.expiresAt.all (fun t => decide (now < t)) &&
  decide (Permission.deviceTest ∈ grant.permissions) && grant.role == "device_manager"

variable (env : TestEnv) (tests : Tests) (claim : TestWorkerClaim)

def checkGrant (supplied : ClientGrantFields) (now : Time) : Except TestError Unit := do
  let grant := env.grants.find? (fun g => g.grantId == supplied.grantId)
  let pairing := env.pairings.find? (fun p => p.pairingId == supplied.pairingId)
  let expected ← scopeValues supplied
  match grant, pairing with
  | some grant, some pairing =>
    require (grantAllows supplied expected now grant pairing) (.domainFailure .permissionDenied)
  | _, _ => .error (.domainFailure .permissionDenied)

def expire (now : Time) : Except TestError Tests :=
  tests.update
    (fun r => r.state == .accepted && decide (r.ioDeadline ≤ now) && r.workerClaimId.isNone &&
      r.errorCode != some "worker_stop_failed")
    (fun r => { r with
      state := .failedEnvironment
      stateVersion := r.stateVersion + 1
      errorCode := some "execution_deadline"
      terminalAt := some now })

def busy (db : Db) (tests : Tests) (deviceId : String) : Bool :=
  (db.reservations.first (fun r => r.deviceId == deviceId &&
    r.reservationKind == .executionTemp && r.state == .held)).isSome ||
  (tests.first (fun r => r.deviceId == deviceId && r.isOpen)).isSome

def find (testId : String) (grant : ClientGrantFields) (now : Time) :
    Except TestError (Tests × Option DeviceTestRecord) := do
  let tests ← expire tests now
  checkGrant env grant now
  let scope ← scopeValues grant
  let row := tests.first (fun r => r.testId == testId && ownedScope scope r)
  pure (tests, row.map (·.toDeviceTestRecord))

/-- The row `admit` inserts; `recordId` is drawn by `uuid4`. -/
def acceptedTest (scope : TestScope) (recordId : String) (request : DeviceTestRequest)
    (fingerprint : Bytes) (now deadline : Time) : TestRow where
  scope := scope
  recordId := recordId
  testId := request.testId
  deviceId := request.deviceId
  bindingRevisionId := request.bindingRevisionId
  fingerprint := fingerprint
  state := .accepted
  stateVersion := 1
  acceptedAt := now
  ioDeadline := deadline
  startedAt := none
  terminalAt := none
  outputEvidence := none
  platformJobId := none
  errorCode := none
  graph := none
  checks := none
  signedResult := none
  workerClaimId := none
  markerId := none

def replayed (existing : TestRow) (grant : ClientGrantFields) (fingerprint : Bytes) :
    Except TestError DeviceTestRecord := do
  require (existing.scope.pairedClientId == grant.pairingId &&
    existing.scope.actorId == grant.actorId) (.domainFailure .permissionDenied)
  require (existing.fingerprint == fingerprint) (.domainFailure .idempotencyConflict)
  pure existing.toDeviceTestRecord

/-- `admit` -/
def admitTest (db : Db) (tests : Tests) (request : DeviceTestRequest) (grant : ClientGrantFields)
    (fingerprint : Bytes) (recordId : String) (now deadline : Time) :
    Except TestError (Tests × DeviceTestRecord × Bool) := do
  let tests ← expire tests now
  checkGrant env grant now
  let scope ← scopeValues grant
  match tests.first (fun r => r.testId == request.testId && baseScope scope r) with
  | some existing => do
    let record ← replayed existing grant fingerprint
    pure (tests, record, false)
  | none => do
    require (!(busy db tests request.deviceId)) (.domainFailure .deviceUnavailable)
    let row := acceptedTest scope recordId request fingerprint now deadline
    let tests ← tests.insert row
    pure (tests, row.toDeviceTestRecord, true)

/-- The rows `claim_worker` may claim. -/
def claimable (recordId : String) (scope : TestScope) (now : Time) (r : TestRow) : Bool :=
  r.recordId == recordId && ownedScope scope r && r.state == .accepted && r.errorCode.isNone &&
  r.workerClaimId.isNone && decide (now < r.ioDeadline)

/-- `claim_worker`: a grant that no longer allows the test ends it. -/
def claimWorker (recordId : String) (grant : ClientGrantFields) (claimId : String) (now : Time) :
    Except TestError (Tests × Option TestWorkerClaim) := do
  let tests ← expire tests now
  let scope ← scopeValues grant
  match checkGrant env grant now with
  | .error (.domainFailure code) => do
    let tests ← tests.update (claimable recordId scope now) (fun r => { r with
      state := .failedEnvironment
      stateVersion := r.stateVersion + 1
      errorCode := some code.value
      terminalAt := some now })
    pure (tests, none)
  | .error e => .error e
  | .ok () => do
    let claimed := tests.first (claimable recordId scope now)
    let tests ← tests.update (claimable recordId scope now)
      (fun r => { r with workerClaimId := some claimId })
    pure (tests, claimed.map (fun r => ⟨recordId, r.deviceId, claimId⟩))

def markIoStarted (grant : ClientGrantFields) (check : Except TestError DeviceTestAuthorization)
    (markerId : String) (now : Time) : Except TestError (Tests × Option TestIoMarker) := do
  let tests ← expire tests now
  let scope ← scopeValues grant
  let current ← tests.one (fun r => r.recordId == claim.recordId && ownedScope scope r)
  if current.state ≠ .accepted ∨ current.workerClaimId ≠ some claim.claimId ∨
      current.errorCode = some "worker_stop_failed" ∨ current.ioDeadline ≤ now then
    pure (tests, none)
  else
    checkGrant env grant now
    let authority ← check
    let tests ← tests.update (fun r => r.recordId == claim.recordId) (fun r => { r with
      state := .inProgress
      stateVersion := r.stateVersion + 1
      markerId := some markerId
      startedAt := some now
      graph := some (testGraph authority) })
    pure (tests, some ⟨claim.recordId, current.deviceId, markerId⟩)

def claimedBy (r : TestRow) : Bool :=
  r.recordId == claim.recordId && r.workerClaimId == some claim.claimId

def markWorkerStopFailed : Except TestError Tests :=
  tests.update (fun r => claimedBy claim r && r.isOpen) (fun r => { r with
    stateVersion := r.stateVersion + 1
    errorCode := some "worker_stop_failed" })

def finishIo (result : DriverExecutionResult) : Except TestError Tests :=
  tests.update (fun r => claimedBy claim r && r.state == .inProgress && r.errorCode.isNone)
    (fun r => { r with
      state := if result.outcome = .confirmed then .awaitingChecks else .outcomeUnknown
      workerClaimId := none
      stateVersion := r.stateVersion + 1
      outputEvidence := result.evidence
      platformJobId := result.platformJobId
      errorCode := result.errorCode })

def failBeforeIo (errorCode : String) (now : Time) : Except TestError Tests :=
  tests.update (fun r => claimedBy claim r && r.state == .accepted && r.errorCode.isNone)
    (fun r => { r with
      state := .failedEnvironment
      workerClaimId := none
      stateVersion := r.stateVersion + 1
      errorCode := some errorCode
      terminalAt := some now })

def completedTest (checks : Checks) (signedResult : String) (now : Time) (r : TestRow) : TestRow :=
  { r with
    state := .completed
    stateVersion := r.stateVersion + 1
    checks := some checks
    signedResult := some signedResult
    terminalAt := some now }

def finalize (testId : String) (grant : ClientGrantFields) (checks : Checks)
    (sign : DeviceTestRecord → Except TestError String) (now : Time) :
    Except TestError (Tests × DeviceTestRecord) := do
  let tests ← expire tests now
  checkGrant env grant now
  let scope ← scopeValues grant
  let record ← orRaise (tests.first (fun r => r.testId == testId && ownedScope scope r))
    (.domainFailure .resourceNotFound)
  if record.state = .completed then do
    require (record.checks == some checks) (.domainFailure .idempotencyConflict)
    pure (tests, record.toDeviceTestRecord)
  else do
    require (!record.isOpen) (.domainFailure .deviceUnavailable)
    let signedResult ← sign record.toDeviceTestRecord
    let tests ← tests.update (fun r => r.recordId == record.recordId)
      (completedTest checks signedResult now)
    let row ← tests.one (fun r => r.recordId == record.recordId)
    pure (tests, row.toDeviceTestRecord)

def restartedCode (errorCode : Option String) : Option String :=
  if errorCode = some "worker_stop_failed" then errorCode else some "agent_restarted"

/-- One of the two updates of `recover_after_restart`. -/
def endAll (prior state : DeviceTestState) (now : Time) : Except TestError Tests :=
  tests.update (fun r => r.state == prior) (fun r => { r with
    state := state
    workerClaimId := none
    stateVersion := r.stateVersion + 1
    errorCode := restartedCode r.errorCode
    terminalAt := some now })

def recoverAfterRestart (tests : Tests) (now : Time) : Except TestError Tests := do
  let tests ← endAll tests .accepted .failedEnvironment now
  endAll tests .inProgress .outcomeUnknown now

end SqliteDeviceTestLedger

open SqliteDeviceTestLedger DurableSpoolAdmissionStore

/-- One operation of `SqliteDeviceTestLedger` with its arguments. -/
inductive TestCall
  | find (testId : String) (grant : ClientGrantFields) (now : Time)
  | admitTest (request : DeviceTestRequest) (grant : ClientGrantFields) (fingerprint : Bytes)
      (recordId : String) (now deadline : Time)
  | claimWorker (recordId : String) (grant : ClientGrantFields) (claimId : String) (now : Time)
  | markIoStarted (claim : TestWorkerClaim) (grant : ClientGrantFields)
      (check : Except TestError DeviceTestAuthorization) (markerId : String) (now : Time)
  | markWorkerStopFailed (claim : TestWorkerClaim)
  | finishIo (claim : TestWorkerClaim) (result : DriverExecutionResult) (now : Time)
  | failBeforeIo (claim : TestWorkerClaim) (errorCode : String) (now : Time)
  | finalize (testId : String) (grant : ClientGrantFields) (checks : Checks)
      (sign : DeviceTestRecord → Except TestError String) (now : Time)
  | recoverAfterRestart (now : Time)

def TestCall.now : TestCall → Option Time
  | .find _ _ now | .admitTest _ _ _ _ now _ | .claimWorker _ _ _ now | .markIoStarted _ _ _ _ now
  | .finishIo _ _ now | .failBeforeIo _ _ now | .finalize _ _ _ _ now
  | .recoverAfterRestart now => some now
  | .markWorkerStopFailed _ => none

inductive TestResult
  | record (r : Option DeviceTestRecord)
  | admission (r : DeviceTestRecord) (created : Bool)
  | claim (c : Option TestWorkerClaim)
  | marker (m : Option TestIoMarker)
  | none

def applyTest (env : TestEnv) (db : Db) (tests : Tests) :
    TestCall → Except TestError (Tests × TestResult)
  | .find testId grant now =>
    (find env tests testId grant now).map (fun r => (r.1, .record r.2))
  | .admitTest request grant fingerprint recordId now deadline =>
    (admitTest env db tests request grant fingerprint recordId now deadline).map
      (fun r => (r.1, .admission r.2.1 r.2.2))
  | .claimWorker recordId grant claimId now =>
    (claimWorker env tests recordId grant claimId now).map (fun r => (r.1, .claim r.2))
  | .markIoStarted claim grant check markerId now =>
    (markIoStarted env tests claim grant check markerId now).map (fun r => (r.1, .marker r.2))
  | .markWorkerStopFailed claim => (markWorkerStopFailed tests claim).map (fun t => (t, .none))
  | .finishIo claim result _ => (finishIo tests claim result).map (fun t => (t, .none))
  | .failBeforeIo claim errorCode now =>
    (failBeforeIo tests claim errorCode now).map (fun t => (t, .none))
  | .finalize testId grant checks sign now =>
    (finalize env tests testId grant checks sign now).map (fun r => (r.1, .record (some r.2)))
  | .recoverAfterRestart now => (recoverAfterRestart tests now).map (fun t => (t, .none))

def LedgerCall.now : LedgerCall → Time
  | .claimNext _ _ now _ | .markPrepared _ now | .renew _ now | .markIoStarted _ now _
  | .notePermissionDelivered _ _ now | .finish _ _ now | .failBeforeIo _ _ _ now
  | .abandonAfterMarker _ now | .recover _ now => now

/-- The Agent's database with its tests, and the clock reading of the last commit. -/
structure DeviceState where
  agent : AgentState := {}
  tests : Tests := .empty
  clock : Option Time := none

inductive DeviceEvent
  | agent (e : AgentEvent)
  | test (env : TestEnv) (c : TestCall) (commit : Commit)

structure DeviceOutput where
  result : AgentOutput ⊕ Except TestError TestResult
  /-- The clock reading of the call, if its transaction was committed. -/
  committedAt : Option Time

def DurableSpoolAdmissionStore.Commit.applied : Commit → Bool
  | .done => true
  | .uncertain applied => applied

def commitReading {ε α : Type} (commit : Commit) (r : Except ε α) (now : Option Time) :
    Option Time :=
  match r with
  | .ok _ => if commit.applied then now else none
  | .error _ => none

/-- A ledger call sees the tests as they are. -/
def AgentEvent.seeing (tests : Tests) : AgentEvent → AgentEvent
  | .ledger env c commit =>
    .ledger { env with deviceTests := tests.rows.map TestRow.seen } c commit
  | e => e

def AgentEvent.committedAt (db : Db) : AgentEvent → Option Time
  | .ledger env c commit => commitReading commit (applyLedger env db c) (some c.now)
  | _ => none

def commitTests (commit : Commit) (tests : Tests) (r : Except TestError (Tests × TestResult)) :
    Tests × Except TestError TestResult :=
  match r with
  | .error e => (tests, .error e)
  | .ok (tests', result) =>
    match commit with
    | .done => (tests', .ok result)
    | .uncertain applied => (if applied then tests' else tests, .error .databaseCommitUncertain)

def DeviceState.step (s : DeviceState) : DeviceEvent → DeviceState × DeviceOutput
  | .agent e =>
    let seen := e.seeing s.tests
    let committedAt := seen.committedAt s.agent.db
    ({ s with agent := (s.agent.step seen).1, clock := committedAt.or s.clock },
      ⟨.inl (s.agent.step seen).2, committedAt⟩)
  | .test env c commit =>
    let r := applyTest env s.agent.db s.tests c
    let committedAt := commitReading commit r c.now
    ({ s with tests := (commitTests commit s.tests r).1, clock := committedAt.or s.clock },
      ⟨.inr (commitTests commit s.tests r).2, committedAt⟩)

/-- The clock reading of a commit is not before that of the commit before it. -/
def DeviceState.Orderly (s : DeviceState) (e : DeviceEvent) : Prop :=
  ∀ t ∈ (s.step e).2.committedAt, ∀ last ∈ s.clock, last ≤ t

instance (s : DeviceState) (e : DeviceEvent) : Decidable (s.Orderly e) :=
  inferInstanceAs (Decidable (∀ t ∈ (s.step e).2.committedAt, ∀ last ∈ s.clock, last ≤ t))

end Inari.Agent
