import Inari.Controller.Publications

/-!
# The Managed Gateway Controller

`ManagedGatewayController` of `inari-server/src/managed_gateway`: jobs, Managed Work and the
command history.
-/

namespace Inari.Controller

open Lib

structure Config where
  enabled : Bool
  organizationId : OrganizationId
  controllerActions : List String
  namespacePrefix : String
  /-- The signer and the payload protector, when Managed Work is enabled. -/
  dispatchSigner : Option ManagedDispatchSigner

variable (tools : WireTools) (config : Config) (fleet : Fleet)

def ensureEnabled : Except Error Unit :=
  require config.enabled (.unavailable "Managed gateway controller is not enabled.")

/-- `enqueue_job` up to the live publication. -/
def enqueueJob (db : Db) (agentId : AgentId) (jobId : JobId) (request : JobRequest) (now : Instant) :
    Except Error (Db × CommandRow) := do
  ensureEnabled config
  fleet.requireAdmission agentId
  require (config.controllerActions.contains request.command.requiredAction)
    (.forbidden "Controller command is not allowed by managed gateway permissions.")
  enqueueCommand fleet db agentId jobId (tools.sha256 (tools.toVec (request.toJson tools)))
    request.command now

def CommandState.isTerminal : CommandState → Bool
  | .completed | .failed | .rejected | .superseded => true
  | _ => false

def cancellationId (jobId : JobId) : String :=
  "job_cancel_" ++ Hex.encode ((tools.sha256 (encode jobId.text)).take 16)

/-- `cancel_job` up to the live publication. -/
def cancelJob (db : Db) (jobId : JobId) (now : Instant) : Except Error (Db × CommandRow) := do
  ensureEnabled config
  let job ← orRaise (db.commands.first (fun c => c.commandId == jobId.text))
    (.notFound "job was not found")
  require (!job.state.isTerminal) (.conflict "A terminal job cannot be cancelled.")
  let cancellation ← orRaise (Identifier.parse _ _ _ (cancellationId tools jobId))
    (.invalidInput "job IDs must start with `job_`")
  enqueueJob tools config fleet db job.agentId cancellation ⟨.cancelJob jobId.text⟩ now

def preflightTtl : Instant := 2 * 60 * 1000000
def workTtl : Instant := 5 * 60 * 1000000
def idempotencyTtl : Instant := 90 * 24 * 60 * 60 * 1000000

def validatePreflightRequest (request : ManagedWorkPreflightRequest) : Except Error Unit := do
  require (request.contractMajor == managedWorkContractMajor)
    (.badRequest "Managed Work contract major is not supported.")
  validateText "database" request.scope.database 128
  validateText "company_id" request.scope.companyId 64
  validateBinding request.binding

/-- `managed_work_target`: unlike the admission, it asks for the dispatch key before the device. -/
def preflightTarget (scope : ManagedWorkScope) (deviceId : DeviceId) :
    Except Error (DeviceRow × DispatchEncryptionKey) := do
  let agent ← orRaise (fleet.agent? scope.agentId.text)
    (.notFound "managed Agent was not found")
  require (agent.organizationId == scope.organizationId && agent.siteId == scope.siteId)
    (.forbidden "managed Agent scope does not match the request")
  let dispatchKey ← orRaise agent.dispatchKey
    (.conflict "managed Agent must re-enroll with a dispatch key")
  let device ← orRaise
    (fleet.devices.find? (fun d => d.agentId == scope.agentId && d.deviceId == deviceId))
    (.notFound "managed Device was not found")
  require (device.siteId == scope.siteId)
    (.forbidden "managed Device scope does not match the request")
  pure (device, dispatchKey)

/-- `preflight_managed_work`: a device that cannot print now leaves no preflight. -/
def preflightManagedWork (db : Db) (request : ManagedWorkPreflightRequest)
    (preflightId : ManagedPreflightId) (now : Instant) :
    Except Error (Db × Option PreflightRow) := do
  ensureEnabled config
  require config.dispatchSigner.isSome (.unavailable "Managed Work dispatch is not enabled.")
  validatePreflightRequest request
  require (request.scope.organizationId == config.organizationId)
    (.forbidden "Managed Work Organization does not match this Controller.")
  fleet.requireAdmission request.scope.agentId
  let target ← preflightTarget fleet request.scope request.deviceId
  if target.1.online && target.1.canPrint then do
    let row : PreflightRow := ⟨preflightId, request, target.2.keyId, now + workTtl,
      now + idempotencyTtl, now + preflightTtl, now⟩
    let preflights ← db.preflights.insert row
    pure ({ db with preflights := preflights }, some row)
  else pure (db, none)

/-- The closure that `submit_managed_work` passes to the admission. -/
def buildDispatch (crypto : CryptoTools) (signer : ManagedDispatchSigner) (idempotencyKey : String)
    (submission : ManagedWorkSubmission) (payloadFingerprint : Bytes) (random : Bytes)
    (allocation : ManagedDispatchAllocation) :
    Except Error ControllerCommand := do
  let fingerprint ← managedWorkFingerprint tools submission.work allocation.workExpiresAt
  require (fingerprint == payloadFingerprint) (.invalidInput
    "Managed Work Payload Fingerprint does not match its normalized envelope and deadline")
  signer.command tools crypto allocation idempotencyKey submission random

/-- What `submit_managed_work` checks and computes before it reads the database. -/
def checkSubmission (managedWorkId : ManagedWorkId) (idempotencyKey : String)
    (submission : ManagedWorkSubmission) (now : Instant) :
    Except Error (ManagedDispatchSigner × ManagedWorkAdmission) := do
  ensureEnabled config
  let signer ← orRaise config.dispatchSigner
    (.unavailable "Managed Work dispatch is not enabled.")
  validateSubmission submission
  require (submission.work.scope.organizationId == config.organizationId)
    (.forbidden "Managed Work Organization does not match this Controller.")
  let payloadFingerprint ← decodeFingerprint submission.payloadFingerprint
  let payload ← decodedDocument submission
  pure (signer, ⟨managedWorkId, idempotencyKey, submission, requestFingerprint tools submission,
    payloadFingerprint, payload.length, now⟩)

/-- `replay_managed_work`: the command is read by a fourth statement. -/
def replayManagedWork (byId byKey byIntent commands : Db) (i : SubmissionIdentity) :
    Except Error (Option (ManagedWorkRow × Option CommandRow)) := do
  let existing ← findExistingAt byId byKey byIntent i
  match existing with
  | some existing =>
    let found ← existingDispatch tools commands existing
    pure (some found)
  | none => pure none

/-- The replay of a checked submission at one time, and the admission at a later one. -/
def submitAt (crypto : CryptoTools) (signer : ManagedDispatchSigner) (fleet : Fleet)
    (byId byKey byIntent commands db : Db) (a : ManagedWorkAdmission) (random : Bytes) :
    Except Error (Db × ManagedWorkRow × Option CommandRow) := do
  let replay ← replayManagedWork tools byId byKey byIntent commands a.identity
  match replay with
  | some found => pure (db, found)
  | none =>
    fleet.requireAdmission a.scope.agentId
    admitManagedWork tools fleet db a
      (buildDispatch tools crypto signer a.idempotencyKey a.submission a.payloadFingerprint random)

/-- `submit_managed_work` up to the live publication, when nothing commits between its reads. -/
def submitManagedWork (crypto : CryptoTools) (config : Config) (fleet : Fleet) (db : Db)
    (managedWorkId : ManagedWorkId) (idempotencyKey : String) (submission : ManagedWorkSubmission)
    (random : Bytes) (now : Instant) :
    Except Error (Db × ManagedWorkRow × Option CommandRow) := do
  let (signer, admission) ←
    checkSubmission tools config managedWorkId idempotencyKey submission now
  submitAt tools crypto signer fleet db db db db db admission random

def ProtectedPayload.open (payload : ProtectedPayload) (context : ManagedPayloadContext) :
    Except Error ControllerCommand :=
  if payload.context = context then .ok payload.plaintext
  else .error (.unavailable "Managed Payload could not be opened.")

def dispatchOf (message : ControllerCommand) : Except Error DispatchDeviceWork :=
  match message.body with
  | .dispatchDeviceWork payload => .ok payload
  | _ => .error (.unavailable "Managed Payload contains another command type.")

/-- The part of `dispatch_message` about Managed Work. -/
def openDispatch (db : Db) (command : CommandRow) (managedWorkId : ManagedWorkId) (now : Instant) :
    Except Error ControllerCommand := do
  let persisted ← managedPayload db managedWorkId now
  require config.dispatchSigner.isSome
    (.unavailable "Managed Payload protection is not enabled.")
  let message ← persisted.protection.open persisted.context
  let payload ← dispatchOf message
  require (message.commandId == command.commandId && payload.managedWorkId == managedWorkId &&
      payload.authenticatedData.agentId == command.agentId &&
      decide (timestamp now < payload.authenticatedData.expiresAt))
    (.unavailable "Managed Payload does not match its dispatch metadata or deadline.")
  fleet.requireAdmission command.agentId
  pure message

def dispatchMessage (db : Db) (now : Instant) (command : CommandRow) :
    Except Error ControllerCommand := do
  fleet.requireAdmission command.agentId
  match command.command with
  | .inline message => pure message
  | .managedWork managedWorkId => openDispatch config fleet db command managedWorkId now

def agentIdFromKey (namespacePrefix key : String) : Option String :=
  let start := namespacePrefix.toList.rdropWhile (· == '/')
  match start.isPrefixOf key.toList, key.toList.drop start.length with
  | true, '/' :: rest => some (String.ofList (rest.takeWhile (· ≠ '/')))
  | _, _ => none

/-- `history_for_query_key`: the first command that cannot be dispatched fails the reply. -/
def historyForQueryKey (db : Db) (key : String) (fromSequence : Nat) (now : Instant) :
    Except Error (Option CommandHistory) :=
  match agentIdFromKey config.namespacePrefix key with
  | none => .ok none
  | some agentId => do
    let (version, stored) ← commandHistory fleet db agentId fromSequence
    let commands ← stored.mapM (dispatchMessage config fleet db now)
    pure (some ⟨version, commands⟩)

/-- One request or one task of the Controller, with what it reads from outside its tables. -/
inductive Event
  | enqueueJob (config : Config) (fleet : Fleet) (agentId : AgentId) (jobId : JobId)
      (request : JobRequest) (now : Instant)
  | cancelJob (config : Config) (fleet : Fleet) (jobId : JobId) (now : Instant)
  | markPublished (agentId : AgentId) (commandId : String) (now : Instant)
  | preflight (config : Config) (fleet : Fleet) (request : ManagedWorkPreflightRequest)
      (preflightId : ManagedPreflightId) (now : Instant)
  | submitWork (config : Config) (fleet : Fleet) (managedWorkId : ManagedWorkId)
      (idempotencyKey : String) (submission : ManagedWorkSubmission) (random : Bytes)
      (now : Instant)
  | sweep (choice : ManagedWorkId → Bool) (now : Instant)
  | publication (fleet : Fleet) (agentId : AgentId) (key : String) (message : AgentPublication)
      (inventoryOk : Bool) (now : Instant)

structure Tools where
  wire : WireTools
  crypto : CryptoTools
  envelopes : StateEnvelopes

def Event.run (tools : Tools) (db : Db) : Event → Except Error Db
  | .enqueueJob config fleet agentId jobId request now =>
    (Controller.enqueueJob tools.wire config fleet db agentId jobId request now).map Prod.fst
  | .cancelJob config fleet jobId now =>
    (Controller.cancelJob tools.wire config fleet db jobId now).map Prod.fst
  | .markPublished agentId commandId now => markCommandPublished db agentId commandId now
  | .preflight config fleet request preflightId now =>
    (preflightManagedWork config fleet db request preflightId now).map Prod.fst
  | .submitWork config fleet managedWorkId idempotencyKey submission random now =>
    (submitManagedWork tools.wire tools.crypto config fleet db managedWorkId idempotencyKey
      submission random now).map Prod.fst
  | .sweep choice now => expireManagedPayloads db choice now
  | .publication fleet agentId key message inventoryOk now =>
    recordPublication tools.envelopes fleet db agentId key message inventoryOk now

/-- A failed transaction is rolled back. -/
def step (tools : Tools) (db : Db) (event : Event) : Db :=
  match event.run tools db with
  | .ok db' => db'
  | .error _ => db

inductive Reachable (tools : Tools) : Db → Prop
  | start : Reachable tools {}
  | next {db : Db} (h : Reachable tools db) (event : Event) : Reachable tools (step tools db event)

end Inari.Controller
