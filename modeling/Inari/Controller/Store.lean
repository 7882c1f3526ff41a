import Inari.Controller.Dispatch

/-!
# The Controller database

The tables of `inari-migration` that hold commands, Managed Work and payloads, and the statements
of `inari-gateway/src/persistence` on them. Rows written elsewhere are found in a `Fleet`.
-/

namespace Inari.Controller

open Lib

structure PreflightRow where
  preflightId : ManagedPreflightId
  request : ManagedWorkPreflightRequest
  dispatchKeyId : String
  workExpiresAt : Instant
  idempotencyExpiresAt : Instant
  submitBefore : Instant
  createdAt : Instant

inductive CommandContent
  | inline (message : ControllerCommand)
  | managedWork (managedWorkId : ManagedWorkId)
deriving DecidableEq

structure CommandRow where
  commandId : String
  agentId : AgentId
  messageId : String
  sequence : Nat
  state : CommandState
  command : CommandContent
  requestFingerprint : Bytes
  issuedAt : Instant
  publishedAt : Option Instant
  updatedAt : Instant
deriving DecidableEq

structure ManagedWorkRow where
  managedWorkId : ManagedWorkId
  preflightId : ManagedPreflightId
  organizationId : OrganizationId
  idempotencyKey : String
  databaseName : String
  companyId : String
  siteId : SiteId
  agentId : AgentId
  deviceId : DeviceId
  printIntentId : PrintIntentId
  operation : ManagedDocumentOperation
  mediaType : String
  state : ManagedWorkState
  bindingClaim : ReportBindingClaim
  payloadFingerprint : Bytes
  requestFingerprint : Bytes
  payloadBytes : Nat
  payloadDeletedAt : Option Instant
  printJobId : Option String
  printJobObservation : Option SignedAgentStateObservation
  errorCode : Option String
  messageKey : String
  expiresAt : Instant
  idempotencyExpiresAt : Instant
  admittedAt : Instant
  updatedAt : Instant
deriving DecidableEq

/-- The associated data of a protected payload. -/
structure ManagedPayloadContext where
  organizationId : OrganizationId
  managedWorkId : ManagedWorkId
  idempotencyKey : String
  payloadFingerprint : String
  requestFingerprint : String
deriving DecidableEq

/-- A plaintext under authenticated encryption with its associated data. -/
structure ProtectedPayload where
  context : ManagedPayloadContext
  plaintext : ControllerCommand

structure ManagedPayloadRow where
  managedWorkId : ManagedWorkId
  protection : ProtectedPayload
  payloadFingerprint : Bytes
  expiresAt : Instant
  createdAt : Instant

structure PublicationRow where
  messageId : String
  agentId : AgentId
  keyExpr : String
  payload : AgentPublication
  receivedAt : Instant

structure ObservationRow where
  envelopeId : String
  agentId : AgentId
  managedWorkId : ManagedWorkId
  observation : SignedAgentStateObservation
  receivedAt : Instant

def preflightIdKey : UniqueIndex PreflightRow := ⟨fun r => some r.preflightId⟩

def preflightSpec : TableSpec PreflightRow := ⟨fun _ => true, [preflightIdKey]⟩

def commandIdKey : UniqueIndex CommandRow := ⟨fun r => some r.commandId⟩

def commandMessageKey : UniqueIndex CommandRow := ⟨fun r => some r.messageId⟩

/-- `commands_agent_sequence_key` -/
def commandSequenceKey : UniqueIndex CommandRow := ⟨fun r => some (r.agentId, r.sequence)⟩

def commandSpec : TableSpec CommandRow where
  check r := 0 < r.sequence && r.requestFingerprint.length == 32
  uniques := [commandIdKey, commandMessageKey, commandSequenceKey]

def workIdKey : UniqueIndex ManagedWorkRow := ⟨fun r => some r.managedWorkId⟩

def workIntentKey : UniqueIndex ManagedWorkRow := ⟨fun r => some r.printIntentId⟩

/-- `managed_work_organization_idempotency` -/
def workIdempotencyKey : UniqueIndex ManagedWorkRow :=
  ⟨fun r => some (r.organizationId, r.idempotencyKey)⟩

/-- `uq_managed_work_agent_print_job` -/
def workPrintJobKey : UniqueIndex ManagedWorkRow :=
  ⟨fun r => r.printJobId.map (fun job => (r.agentId, job))⟩

def workSpec : TableSpec ManagedWorkRow where
  check r := r.payloadFingerprint.length == 32 && r.requestFingerprint.length == 32 &&
    0 < r.payloadBytes
  uniques := [workIdKey, workIntentKey, workIdempotencyKey, workPrintJobKey]

def payloadIdKey : UniqueIndex ManagedPayloadRow := ⟨fun r => some r.managedWorkId⟩

def payloadSpec : TableSpec ManagedPayloadRow where
  check r := r.payloadFingerprint.length == 32
  uniques := [payloadIdKey]

def publicationIdKey : UniqueIndex PublicationRow := ⟨fun r => some r.messageId⟩

def publicationSpec : TableSpec PublicationRow := ⟨fun _ => true, [publicationIdKey]⟩

def observationIdKey : UniqueIndex ObservationRow := ⟨fun r => some r.envelopeId⟩

def observationSpec : TableSpec ObservationRow := ⟨fun _ => true, [observationIdKey]⟩

structure Db where
  preflights : Table preflightSpec := .empty
  commands : Table commandSpec := .empty
  works : Table workSpec := .empty
  payloads : Table payloadSpec := .empty
  publications : Table publicationSpec := .empty
  observations : Table observationSpec := .empty

structure AgentRow where
  agentId : AgentId
  organizationId : OrganizationId
  siteId : SiteId
  protocolVersion : String
  keyId : String
  dispatchKey : Option DispatchEncryptionKey

structure DeviceRow where
  agentId : AgentId
  deviceId : DeviceId
  siteId : SiteId
  online : Bool
  canPrint : Bool

inductive AgentKeyPurpose
  | transportIdentity | agentState
deriving DecidableEq

structure VerificationKeyRow where
  keyId : String
  agentId : AgentId
  purpose : AgentKeyPurpose
  publicJwk : String
  registeredAt : Instant
  retiredAt : Option Instant

/-- The rows that other parts of the Controller write, as one request finds them. -/
structure Fleet where
  organizationId : OrganizationId
  agents : List AgentRow
  devices : List DeviceRow
  keys : List VerificationKeyRow
  /-- The Router policy is of the current authority, acknowledged by every Router less than ten
  seconds ago and not expired. -/
  policyCurrent : Bool

namespace Fleet

variable (fleet : Fleet) (agentId : AgentId)

def agent? (agentId : String) : Option AgentRow :=
  fleet.agents.find? (fun a => a.agentId.text == agentId)

def hasKey (purpose : AgentKeyPurpose) (p : VerificationKeyRow → Bool) : Bool :=
  fleet.keys.any (fun k => k.agentId == agentId && k.purpose == purpose && k.retiredAt.isNone && p k)

def isActiveAgent : Bool :=
  fleet.agents.any (fun a => a.organizationId == fleet.organizationId && a.agentId == agentId &&
    a.dispatchKey.isSome &&
    fleet.hasKey agentId .transportIdentity (fun k => k.keyId == a.keyId) &&
    fleet.hasKey agentId .agentState (fun _ => true))

def admits : Bool :=
  fleet.policyCurrent && fleet.isActiveAgent agentId

/-- `require_admission_in` -/
def requireAdmission : Except Error Unit :=
  require (fleet.admits agentId) (.unavailable "The Agent has no current Router admission")

/-- `managed_work_target_in` -/
def managedWorkTarget (scope : ManagedWorkScope) (deviceId : DeviceId) :
    Except Error (DeviceRow × DispatchEncryptionKey) := do
  let agent ← orRaise (fleet.agent? scope.agentId.text)
    (.notFound "managed Agent was not found")
  require (agent.organizationId == scope.organizationId && agent.siteId == scope.siteId)
    (.forbidden "managed Agent scope does not match the request")
  let device ← orRaise
    (fleet.devices.find? (fun d => d.agentId == scope.agentId && d.deviceId == deviceId))
    (.notFound "managed Device was not found")
  require (device.siteId == scope.siteId)
    (.forbidden "managed Device scope does not match the request")
  let dispatchKey ← orRaise agent.dispatchKey
    (.conflict "managed Agent must re-enroll with a dispatch key")
  pure (device, dispatchKey)

end Fleet

/-! ## `commands.rs` -/

def maxSequence (rows : List CommandRow) : Nat := (rows.map (·.sequence)).foldr max 0

variable (tools : WireTools) (db : Db) (w : ManagedWorkRow)

/-- `next_command_sequence`: the column is an `i64`. -/
def nextCommandSequence (agentId : AgentId) : Except Error Nat := do
  let next := maxSequence (db.commands.select (fun c => c.agentId == agentId)) + 1
  require (next ≤ 9223372036854775807) (.conflict "command sequence is out of range")
  pure next

def persistedCommand (row : CommandRow) : Except Error CommandRow :=
  match row.command with
  | .inline ⟨_, _, _, _, .dispatchDeviceWork _⟩ =>
    .error (.corruptState "Managed Work content exists outside protected payload storage")
  | _ => .ok row

/-- What `enqueue_command` does for a command that is already stored. -/
def replayCommand (agentId : AgentId) (fingerprint : Bytes) (existing : CommandRow) :
    Except Error CommandRow := do
  require (existing.agentId == agentId && existing.requestFingerprint == fingerprint)
    (.conflict "the idempotency key was already used for another request")
  persistedCommand existing

def queuedCommand (agentId : AgentId) (commandId : String) (sequence : Nat)
    (command : CommandContent) (fingerprint : Bytes) (issuedAt : Instant) : CommandRow where
  commandId := commandId
  agentId := agentId
  messageId := "msg_" ++ commandId
  sequence := sequence
  state := .queued
  command := command
  requestFingerprint := fingerprint
  issuedAt := issuedAt
  publishedAt := none
  updatedAt := issuedAt

def insertCommand (agentId : AgentId) (commandId : String) (fingerprint : Bytes) (kind : JobKind)
    (issuedAt : Instant) : Except Error (Db × CommandRow) := do
  let sequence ← nextCommandSequence db agentId
  let message := kind.intoMessage ("msg_" ++ commandId) commandId sequence issuedAt
  let row := queuedCommand agentId commandId sequence (.inline message) fingerprint issuedAt
  let commands ← db.commands.insert row
  let persisted ← persistedCommand row
  pure ({ db with commands := commands }, persisted)

/-- `enqueue_command`; the Controller always names the command. -/
def enqueueCommand (fleet : Fleet) (db : Db) (agentId : AgentId) (requestedCommandId : JobId)
    (fingerprint : Bytes) (kind : JobKind) (now : Instant) : Except Error (Db × CommandRow) := do
  fleet.requireAdmission agentId
  require (fleet.agent? agentId.text).isSome (.notFound "unknown managed gateway agent")
  match db.commands.first (fun c => c.commandId == requestedCommandId.text) with
  | some existing =>
    let persisted ← replayCommand agentId fingerprint existing
    pure (db, persisted)
  | none => insertCommand db agentId requestedCommandId.text fingerprint kind now

def markCommandPublished (agentId : AgentId) (commandId : String) (now : Instant) :
    Except Error Db := do
  let commands ← db.commands.update
    (fun c => c.agentId == agentId && (c.state == .queued || c.state == .published) &&
      c.commandId == commandId)
    (fun c => { c with state := .published, publishedAt := some now, updatedAt := now })
  pure { db with commands := commands }

def commandHistory (fleet : Fleet) (db : Db) (agentId : String) (fromSequence : Nat) :
    Except Error (String × List CommandRow) := do
  let agent ← orRaise (fleet.agent? agentId) (.notFound "unknown managed gateway agent")
  let rows := db.commands.select (fun c => c.agentId.text == agentId &&
    decide (min fromSequence 9223372036854775807 ≤ c.sequence))
  let commands ← (rows.insertionSort (fun a b => a.sequence ≤ b.sequence)).mapM persistedCommand
  pure (agent.protocolVersion, commands)

/-! ## `managed_work.rs` -/

def ManagedWorkRow.pending : Bool :=
  w.state == .pendingAgent || w.state == .dispatching

def i64Max : Nat := 9223372036854775807

def agentPendingWorkLimit : Nat := 32
def agentPendingByteLimit : Nat := 64 * 1024 * 1024
def organizationPendingWorkLimit : Nat := 256
def organizationPendingByteLimit : Nat := 512 * 1024 * 1024

structure PendingUsage where
  workCount : Nat
  payloadBytes : Nat

/-- `pending_usage`: a count or a sum that is no BIGINT fails the statement. -/
def pendingUsage (inScope : ManagedWorkRow → Bool) : Except Error PendingUsage := do
  let rows := db.works.select (fun w => inScope w && w.pending)
  let payloadBytes := (rows.map (·.payloadBytes)).sum
  require (rows.length ≤ i64Max && payloadBytes ≤ i64Max) .database
  pure ⟨rows.length, payloadBytes⟩

/-- `enforce_quota` with its checked addition -/
def PendingUsage.enforceQuota (usage : PendingUsage) (payloadBytes workLimit byteLimit : Nat)
    (scopeName : String) : Except Error Unit := do
  let nextBytes := usage.payloadBytes + payloadBytes
  require (nextBytes ≤ i64Max) (.conflict "Managed Work byte use is out of range")
  require (usage.workCount < workLimit && nextBytes ≤ byteLimit)
    (.capacity s!"{scopeName} Managed Work queue is full")

structure SubmissionIdentity where
  managedWorkId : ManagedWorkId
  organizationId : OrganizationId
  idempotencyKey : String
  printIntentId : PrintIntentId
  requestFingerprint : Bytes

def ManagedWorkRow.identity : SubmissionIdentity :=
  ⟨w.managedWorkId, w.organizationId, w.idempotencyKey, w.printIntentId, w.requestFingerprint⟩

def ManagedWorkRow.sameIdentity (organizationId : OrganizationId) (idempotencyKey : String)
    (printIntentId : PrintIntentId) (fingerprint : Bytes) : Bool :=
  w.organizationId == organizationId && w.idempotencyKey == idempotencyKey &&
    w.printIntentId == printIntentId && w.requestFingerprint == fingerprint

/-- The rows that share a unique identity with the submission, each read when its statement runs. -/
def submissionCandidates (byId byKey byIntent : Db) (i : SubmissionIdentity) :
    List ManagedWorkRow :=
  [byId.works.first (fun w => w.managedWorkId == i.managedWorkId),
    byKey.works.first (fun w => w.organizationId == i.organizationId &&
      w.idempotencyKey == i.idempotencyKey),
    byIntent.works.first (fun w => w.printIntentId == i.printIntentId)].filterMap id

/-- `find_existing_managed_work`, with one state for each of its statements. -/
def findExistingAt (byId byKey byIntent : Db) (i : SubmissionIdentity) :
    Except Error (Option ManagedWorkRow) := do
  let candidates := submissionCandidates byId byKey byIntent i
  require (candidates.all (fun w =>
      w.sameIdentity i.organizationId i.idempotencyKey i.printIntentId i.requestFingerprint &&
      candidates.all (fun v => v.managedWorkId == w.managedWorkId)))
    (.conflict "a Managed Work identity was already used for different Device Work")
  pure candidates.getLast?

/-- `find_existing_managed_work` under the advisory locks -/
def findExistingManagedWork (managedWorkId : ManagedWorkId) (organizationId : OrganizationId)
    (idempotencyKey : String) (printIntentId : PrintIntentId) (fingerprint : Bytes) :
    Except Error (Option ManagedWorkRow) :=
  findExistingAt db db db ⟨managedWorkId, organizationId, idempotencyKey, printIntentId, fingerprint⟩

def dispatchCommandId (managedWorkId : ManagedWorkId) : String :=
  "job_dispatch_" ++ Hex.encode ((tools.sha256 (encode managedWorkId.text)).take 16)

/-- `existing_dispatch`: work that still waits for its Agent returns its command. -/
def existingDispatch (existing : ManagedWorkRow) :
    Except Error (ManagedWorkRow × Option CommandRow) :=
  if existing.state = .dispatching then do
    let row ← orRaise
      (db.commands.first (fun c => c.commandId == dispatchCommandId tools existing.managedWorkId))
      (.corruptState "dispatching Managed Work has no durable Controller command")
    let command ← persistedCommand row
    pure (existing, some command)
  else pure (existing, none)

structure ManagedWorkAdmission where
  managedWorkId : ManagedWorkId
  idempotencyKey : String
  submission : ManagedWorkSubmission
  requestFingerprint : Bytes
  payloadFingerprint : Bytes
  payloadBytes : Nat
  admittedAt : Instant

namespace ManagedWorkAdmission

def scope (a : ManagedWorkAdmission) : ManagedWorkScope := a.submission.work.scope

def expectedRequest (a : ManagedWorkAdmission) : ManagedWorkPreflightRequest :=
  ⟨a.submission.contractMajor, a.scope, a.submission.work.deviceId,
    a.submission.work.document.operation, a.submission.work.origin.binding⟩

def payloadContext (a : ManagedWorkAdmission) : ManagedPayloadContext :=
  ⟨a.scope.organizationId, a.managedWorkId, a.idempotencyKey, Hex.encode a.payloadFingerprint,
    Hex.encode a.requestFingerprint⟩

def row (a : ManagedWorkAdmission) (preflight : PreflightRow) : ManagedWorkRow where
  managedWorkId := a.managedWorkId
  preflightId := a.submission.preflightId
  organizationId := a.scope.organizationId
  idempotencyKey := a.idempotencyKey
  databaseName := a.scope.database
  companyId := a.scope.companyId
  siteId := a.scope.siteId
  agentId := a.scope.agentId
  deviceId := a.submission.work.deviceId
  printIntentId := a.submission.work.printIntentId
  operation := a.submission.work.document.operation
  mediaType := a.submission.work.document.operation.mediaType
  state := .dispatching
  bindingClaim := a.submission.work.origin.binding
  payloadFingerprint := a.payloadFingerprint
  requestFingerprint := a.requestFingerprint
  payloadBytes := a.payloadBytes
  payloadDeletedAt := none
  printJobId := none
  printJobObservation := none
  errorCode := none
  messageKey := "managed_work.dispatching"
  expiresAt := preflight.workExpiresAt
  idempotencyExpiresAt := preflight.idempotencyExpiresAt
  admittedAt := a.admittedAt
  updatedAt := a.admittedAt

def identity (a : ManagedWorkAdmission) : SubmissionIdentity :=
  ⟨a.managedWorkId, a.scope.organizationId, a.idempotencyKey, a.submission.work.printIntentId,
    a.requestFingerprint⟩

/-- The preflight that the submission continues, and the dispatch key of its Agent. -/
def target (fleet : Fleet) (db : Db) (a : ManagedWorkAdmission) :
    Except Error (PreflightRow × DispatchEncryptionKey) := do
  let preflight ← orRaise
    (db.preflights.first (fun p => p.preflightId == a.submission.preflightId))
    (.notFound "Managed Work preflight was not found")
  require (preflight.request == a.expectedRequest)
    (.conflict "Managed Work submission does not match its preflight")
  require (a.admittedAt < preflight.submitBefore)
    (.conflict "Managed Work preflight has expired")
  let target ← fleet.managedWorkTarget a.scope a.submission.work.deviceId
  require (target.2.keyId == preflight.dispatchKeyId)
    (.conflict "the Managed Work preflight does not use the current Agent dispatch key")
  pure (preflight, target.2)

/-- The checks of `admit_managed_work` before it allocates a command. -/
def check (fleet : Fleet) (db : Db) (a : ManagedWorkAdmission) :
    Except Error (PreflightRow × DispatchEncryptionKey) := do
  let target ← a.target fleet db
  let agent ← pendingUsage db (fun w => w.agentId == a.scope.agentId)
  agent.enforceQuota a.payloadBytes agentPendingWorkLimit agentPendingByteLimit "Agent"
  let organization ← pendingUsage db (fun w => w.organizationId == a.scope.organizationId)
  organization.enforceQuota a.payloadBytes organizationPendingWorkLimit organizationPendingByteLimit
    "Organization"
  pure target

end ManagedWorkAdmission

/-- `insert_dispatch_command`, and the work and payload rows that belong to the command. -/
def insertManagedWork (a : ManagedWorkAdmission) (preflight : PreflightRow)
    (recipientKey : DispatchEncryptionKey)
    (build : ManagedDispatchAllocation → Except Error ControllerCommand) :
    Except Error (Db × ManagedWorkRow × CommandRow) := do
  let sequence ← nextCommandSequence db a.scope.agentId
  let commandId := dispatchCommandId tools a.managedWorkId
  let message ← build ⟨a.managedWorkId, sequence, commandId, "msg_" ++ commandId, a.admittedAt,
    recipientKey, preflight.workExpiresAt⟩
  let command := queuedCommand a.scope.agentId commandId sequence (.managedWork a.managedWorkId)
    a.requestFingerprint a.admittedAt
  let commands ← db.commands.insert command
  let works ← db.works.insert (a.row preflight)
  let payloads ← db.payloads.insert ⟨a.managedWorkId, ⟨a.payloadContext, message⟩,
    a.payloadFingerprint, preflight.workExpiresAt, a.admittedAt⟩
  pure ({ db with commands := commands, works := works, payloads := payloads },
    a.row preflight, command)

def admitManagedWork (fleet : Fleet) (db : Db) (a : ManagedWorkAdmission)
    (build : ManagedDispatchAllocation → Except Error ControllerCommand) :
    Except Error (Db × ManagedWorkRow × Option CommandRow) := do
  require (fleet.organizationId == a.scope.organizationId)
    (.forbidden "Router admission belongs to another Organization")
  fleet.requireAdmission a.scope.agentId
  let existing ← findExistingManagedWork db a.managedWorkId a.scope.organizationId
    a.idempotencyKey a.submission.work.printIntentId a.requestFingerprint
  match existing with
  | some existing =>
    let found ← existingDispatch tools db existing
    pure (db, found)
  | none =>
    let (preflight, recipientKey) ← a.check fleet db
    let (db', work, command) ← insertManagedWork tools db a preflight recipientKey build
    pure (db', work, some command)

def ManagedWorkRow.due (now : Instant) : Bool :=
  w.payloadDeletedAt.isNone && (w.expiresAt ≤ now || w.state == .recoveryUncertain)

def ManagedWorkRow.swept (now : Instant) : ManagedWorkRow :=
  match w.state with
  | .pendingAgent => { w with
      state := .expired, messageKey := "managed_work.expired", payloadDeletedAt := some now,
      updatedAt := now }
  | .dispatching => { w with
      state := .recoveryUncertain, messageKey := "managed_work.recovery_uncertain",
      payloadDeletedAt := some now, updatedAt := now }
  | _ => { w with payloadDeletedAt := some now, updatedAt := now }

/-- `expire_managed_payloads`. Which of more than 256 rows a sweep takes is the database's choice.
-/
def expireManagedPayloads (choice : ManagedWorkId → Bool) (now : Instant) : Except Error Db := do
  let due := db.works.select (fun w => w.due now)
  let taken := if due.length ≤ 256 then due else (due.filter (fun w => choice w.managedWorkId)).take 256
  let ids := taken.map (·.managedWorkId)
  let works ← db.works.update (fun w => ids.contains w.managedWorkId) (fun w => w.swept now)
  pure { db with
    works := works
    payloads := db.payloads.delete (fun p => ids.contains p.managedWorkId) }

structure PersistedManagedPayload where
  protection : ProtectedPayload
  context : ManagedPayloadContext

def ManagedWorkRow.payloadContext : ManagedPayloadContext :=
  ⟨w.organizationId, w.managedWorkId, w.idempotencyKey, Hex.encode w.payloadFingerprint,
    Hex.encode w.requestFingerprint⟩

def managedPayload (managedWorkId : ManagedWorkId) (now : Instant) :
    Except Error PersistedManagedPayload := do
  let work ← orRaise (db.works.first (fun w => w.managedWorkId == managedWorkId))
    (.notFound "Managed Work was not found")
  require (work.state == .dispatching && decide (now < work.expiresAt))
    (.conflict "Managed Work is not available for dispatch")
  let payload ← orRaise (db.payloads.first (fun p => p.managedWorkId == managedWorkId))
    (.corruptState "Managed Payload is missing")
  pure ⟨payload.protection, work.payloadContext⟩

end Inari.Controller
