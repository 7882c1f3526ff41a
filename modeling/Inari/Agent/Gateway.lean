import Inari.Agent.ManagedWork
import Inari.Agent.Outbox
import Inari.Agent.System

/-!
# The gateway of the Agent

`GatewayCommandDispatcher`, `GatewayRuntimeEventForwarder`, `GatewayStateEventProjector.project`,
`GatewayConnector.flush_outbox_once` and the snapshots, as one transition system. A step makes at
most one durable write.
-/

namespace Inari.Agent

open Lib DurableSpoolAdmissionStore GatewayRepository

structure GatewayConfig where
  wire : WireTools
  crypto : CryptoTools
  documents : DocumentTools
  keyPair : DispatchEncryptionKeyPair

structure Enrolled where
  controller : String
  record : GatewayEnrollmentRecord
deriving DecidableEq

def Enrolled.scope (e : Enrolled) : Option AgentManagedScope := e.record.managedDispatch.map (·.scope)

/-- Where a handler stands, with what it still has to do. -/
inductive Phase
  | record
  | enqueue (deviceId : String)
  | cancel (jobId : String)
  /-- The job row is written, its event is not. -/
  | publishEvent (jobId : String)
  | startAdmission (verified : VerifiedManagedDispatch)
  | admitting (verified : VerifiedManagedDispatch)
  /-- The record is about to get its answer, with the dispatch epoch of managed work. -/
  | finish (dispatchEpoch : Option Nat) (answer : CommandAnswer)
  | send (answer : CommandAnswer)
  /-- `_replay_record` -/
  | resend (answer : CommandAnswer)
  | requeue (messageId : String)
deriving DecidableEq

structure Handler where
  message : ControllerCommandMessage
  enrolled : Enrolled
  phase : Phase
deriving DecidableEq

/-- `recipient_scope` of the answers of a handler -/
def Handler.recipientScope (h : Handler) : Option AgentManagedScope :=
  match h.message.content with
  | .dispatchDeviceWork _ => h.enrolled.scope
  | .executeDeviceCommand _ | .cancelJob _ => none

structure HandlerInput where
  now : Int
  /-- The request is valid and `resolve_target` finds its Device. -/
  resolveTarget : Except Rejection Unit
  jobId : String
  publishEvent : Except Rejection Unit
  moment : AdmissionMoment
  admission : StepInput
  messageId : String

/-- What the gateway did that others see: the records it made, the work it created or cancelled,
and what it published, with the Controller that each publication was queued for. -/
inductive GatewayAction
  | recorded (controller : String) (message : ControllerCommandMessage)
  | jobCreated (controller commandId jobId deviceId : String)
  | jobCancelled (controller commandId jobId deviceId : String)
  | printJobCreated (commandId : Option String) (managedWorkId jobId deviceId : String)
  | published (controller : String) (queuedFor : Option String) (publication : Publication)
deriving DecidableEq

structure Gateway where
  /-- `DeviceSharingPolicy.shared_device_ids` -/
  shared : List String := []
  enrolled : Option Enrolled := none
  commands : CommandDb := {}
  jobs : JobTable := .empty
  outbox : Outbox := .empty
  cursors : List (AgentManagedScope × Nat) := []
  agent : AgentState := {}
  handler : Option Handler := none
  /-- The enrollment and the records that `flush_outbox_once` still has to publish. -/
  sending : Option (Enrolled × List OutboxRow) := none
  history : List GatewayAction := []

namespace Gateway

variable (s : Gateway) (scope : AgentManagedScope)

def isShared (deviceId : String) : Bool := s.shared.contains deviceId

def controller : Option String := s.enrolled.map (·.controller)

def proceed (h : Handler) (phase : Phase) : Gateway :=
  { s with handler := some { h with phase := phase } }

def leave : Gateway := { s with handler := none }

/-- The columns by which Print Jobs of managed work are told apart: managed work, job, Device. -/
def managedJob (j : PrintJobRow) : Option (String × String × String) :=
  j.managedWorkId.map (fun w => (w, j.id, j.deviceId))

def newPrintJobs (commandId : Option String) (db db' : Db) : List GatewayAction :=
  ((db'.jobs.rows.drop db.jobs.rows.length).filterMap managedJob).map
    (fun (w, jobId, deviceId) => .printJobCreated commandId w jobId deviceId)

/-- `record_inbound_command`, and `_replay_record` for a record that has its answer. -/
def recordCommand (h : Handler) (dispatchEpoch : Option Nat) (next : Phase) :
    Gateway × List GatewayAction :=
  match recordInboundCommand s.commands (h.message.inbound dispatchEpoch) with
  | .error _ => (s.leave, [])
  | .ok (commands, record, created) =>
    let s := { s with commands := commands }
    if created then (s.proceed h next, [.recorded h.enrolled.controller h.message])
    else
      match record.response with
      | some answer => (s.proceed h (.resend answer), [])
      | none => (s.proceed h next, [])

def receive (config : GatewayConfig) (s : Gateway) (h : Handler) (inp : HandlerInput) :
    Gateway × List GatewayAction :=
  match h.message.content with
  | .executeDeviceCommand payload =>
    match requireAction h.enrolled.record .commandsExecute with
    | .error _ => (s.leave, [])
    | .ok () => s.recordCommand h none (.enqueue payload.deviceId)
  | .cancelJob jobId =>
    match requireAction h.enrolled.record .jobsCancel with
    | .error _ => (s.leave, [])
    | .ok () => s.recordCommand h none (.cancel jobId)
  | .dispatchDeviceWork payload =>
    match verify config.wire config.crypto config.keyPair h.message (h.message.issuedAt.getD 0)
        payload h.enrolled.record inp.now with
    | .error _ => (s.leave, [])
    | .ok verified => s.recordCommand h (some verified.dispatchEpoch) (.startAdmission verified)

def reject (dispatchEpoch : Option Nat) (rejection : Rejection) : Phase :=
  .finish dispatchEpoch (.rejected rejection.1 rejection.2)

def notShared : Rejection :=
  ("UPSTREAM_DEVICE_NOT_SHARED",
    "The Device is not shared with this Controller. Review the selection in Setup.")

/-- The sharing check and `enqueue_command`, up to the event that it publishes. -/
def enqueueCommand (h : Handler) (inp : HandlerInput) (deviceId : String) :
    Gateway × List GatewayAction :=
  if s.isShared deviceId then
    match inp.resolveTarget with
    | .error rejection => (s.proceed h (reject none rejection), [])
    | .ok () =>
      match JobService.create s.jobs inp.jobId deviceId with
      | .error rejection => (s.proceed h (reject none rejection), [])
      | .ok jobs =>
        ({ s with jobs := jobs }.proceed h (.publishEvent inp.jobId),
          [.jobCreated h.enrolled.controller h.message.commandId inp.jobId deviceId])
  else (s.proceed h (reject none notShared), [])

def cancelJob (h : Handler) (jobId : String) : Gateway × List GatewayAction :=
  match JobService.cancel s.jobs jobId with
  | .error rejection => (s.proceed h (reject none rejection), [])
  | .ok (jobs, row) =>
    ({ s with jobs := jobs }.proceed h (.publishEvent row.id),
      [.jobCancelled h.enrolled.controller h.message.commandId row.id row.deviceId])

/-- `_coerce_error` of what document admission raises -/
def coerceAdmit : AdmitError → Rejection
  | .document e => (e.code.value.toUpper, e.message)
  | .spool (.admission code _) => (code.value.toUpper, code.value)
  | .spool .integrityError => commandFailed "IntegrityError"
  | .spool .noResultFound => commandFailed "NoResultFound"
  | .spool .spoolCommitUncertain => commandFailed "SpoolCommitUncertainError"
  | .spool .databaseCommitUncertain => commandFailed "DatabaseCommitUncertainError"
  | .spool .nonceReservationUncertain => commandFailed "NonceReservationUncertainError"
  | .spool .rootKeyUnavailable => commandFailed "SpoolRootKeyUnavailable"
  | .spool .storageError => commandFailed "SpoolStorageError"
  | .spool .cryptoError => commandFailed "SpoolCryptoError"
  | .spool .restartAdmission => commandFailed "_RestartAdmission"

/-- `admit`, up to the admission lock: while another call holds it, the handler waits. -/
def admitWork (config : GatewayConfig) (s : Gateway) (h : Handler) (inp : HandlerInput)
    (verified : VerifiedManagedDispatch) : Gateway :=
  match h.enrolled.record.managedDispatch with
  | none => s.proceed h (reject (some verified.dispatchEpoch) (commandFailed "ValueError"))
  | some trust =>
    match admitManifest config.documents inp.moment
        (managedAdmissionRequest config.wire verified trust) with
    | .error e => s.proceed h (reject (some verified.dispatchEpoch) (coerceAdmit e))
    | .ok m =>
      if s.agent.call.isNone then
        { s with agent := (s.agent.step (.accept m)).1 }.proceed h (.admitting verified)
      else s

/-- The input of an admission step, in which managed Devices are shared as the policy says. -/
def admissionInput (inp : StepInput) : StepInput :=
  { inp with env := { inp.env with managedDeviceIsShared := s.isShared } }

def admitting (h : Handler) (inp : HandlerInput) (verified : VerifiedManagedDispatch) :
    Gateway × List GatewayAction :=
  let r := s.agent.step (.advance (s.admissionInput inp.admission))
  let s' := { s with agent := r.1 }
  let next :=
    match r.2 with
    | .outcome (.accepted a) =>
      s'.proceed h (.finish (some verified.dispatchEpoch) (.accepted a.printJobId))
    | .outcome (.raised e) =>
      s'.proceed h (reject (some verified.dispatchEpoch) (coerceAdmit (.spool e)))
    | .outcome .reconciled | .ledger _ | .none => s'
  (next, newPrintJobs (some h.message.commandId) s.agent.db r.1.db)

/-- `mark_inbound_accepted`, `mark_inbound_rejected` and their twins for managed dispatch -/
def finishCommand (h : Handler) (dispatchEpoch : Option Nat) (answer : CommandAnswer) : Gateway :=
  let result :=
    match dispatchEpoch with
    | none => markInbound s.commands h.message.commandId answer
    | some epoch => finishManagedDispatch s.commands h.message.commandId epoch answer
  match result with
  | .error _ => s.leave
  | .ok commands => { s with commands := commands }.proceed h (.send answer)

/-- `enqueue_outbound` of the answer of a command -/
def enqueueAnswer (h : Handler) (messageId : String) (answer : CommandAnswer) :
    Except GatewayError (Outbox × String) :=
  enqueueOutbound s.outbox messageId (.answer h.message.commandId answer)
    (answer.dedupeKey h.message.commandId) h.recipientScope (some h.enrolled.controller)

def sendAnswer (h : Handler) (messageId : String) (answer : CommandAnswer) : Gateway :=
  match s.enqueueAnswer h messageId answer with
  | .error _ => s.leave
  | .ok (outbox, _) => { s with outbox := outbox }.leave

def resendAnswer (h : Handler) (messageId : String) (answer : CommandAnswer) : Gateway :=
  match s.enqueueAnswer h messageId answer with
  | .error _ => s.leave
  | .ok (outbox, queued) => { s with outbox := outbox }.proceed h (.requeue queued)

/-- `requeue_outbound` and `mark_outbox_sent` never break a constraint. -/
def mark (messageId : String) (state : OutboxState) : Gateway :=
  match markOutbox s.outbox messageId state with
  | .error _ => s
  | .ok outbox => { s with outbox := outbox }

def handle (config : GatewayConfig) (s : Gateway) (h : Handler) (inp : HandlerInput) :
    Gateway × List GatewayAction :=
  match h.phase with
  | .record => s.receive config h inp
  | .enqueue deviceId => s.enqueueCommand h inp deviceId
  | .cancel jobId => s.cancelJob h jobId
  | .publishEvent jobId =>
    match inp.publishEvent with
    | .error rejection => (s.proceed h (reject none rejection), [])
    | .ok () => (s.proceed h (.finish none (.accepted jobId)), [])
  | .startAdmission verified => (s.admitWork config h inp verified, [])
  | .admitting verified => s.admitting h inp verified
  | .finish dispatchEpoch answer => (s.finishCommand h dispatchEpoch answer, [])
  | .send answer => (s.sendAnswer h inp.messageId answer, [])
  | .resend answer => (s.resendAnswer h inp.messageId answer, [])
  | .requeue messageId => ((s.mark messageId .pending).leave, [])

/-- `enqueue_outbound` of a runtime event -/
def enqueueEvent (messageId : String) (payload : Publication) (kind : RuntimeResourceKind)
    (sequence : Nat) : Gateway :=
  match enqueueOutbound s.outbox messageId payload (.runtimeEvent kind sequence) none
      s.controller with
  | .error _ => s
  | .ok (outbox, _) => { s with outbox := outbox }

/-- `GatewayRuntimeEventForwarder`, for an event of a Device -/
def forwardDevice (deviceId : String) (sequence : Nat) (messageId : String) : Gateway :=
  if s.isShared deviceId then
    s.enqueueEvent messageId (.deviceEvent deviceId sequence) .device sequence
  else s

def acceptedCommand (jobId latest : String) : Option String :=
  match getInboundCommandForJob s.commands jobId latest with
  | some record => if record.state = .accepted then some record.commandId else none
  | none => none

/-- `GatewayRuntimeEventForwarder`, for an event of a job. Its payload has the job's Device. -/
def forwardJob (jobId : String) (sequence : Nat) (messageId latest : String) : Gateway :=
  match s.jobs.first (fun r => r.id == jobId) with
  | none => s
  | some job =>
    let commandId := s.acceptedCommand jobId latest
    if commandId.isSome || s.isShared job.deviceId then
      s.enqueueEvent messageId (.jobEvent jobId job.deviceId commandId sequence) .job sequence
    else s

def dispatchCommand (managedWorkId : String) : Option (InboundRow ControllerCommandMessage) :=
  s.commands.inbound.first (fun r =>
    match r.payload.content with
    | .dispatchDeviceWork payload =>
      payload.managedWorkId == managedWorkId && payload.authenticatedData.agentId == scope.agentId &&
      payload.authenticatedData.organizationId == scope.organizationId &&
      payload.authenticatedData.siteId == scope.siteId
    | .executeDeviceCommand _ | .cancelJob _ => false)

/-- The publication of one event of the Print Job journal, if it concerns the scope. -/
def observation (event : PrintJobEventRow) : Option Publication := do
  let job ← s.agent.db.jobs.first (fun j => j.id == event.jobId)
  let _ ← s.agent.db.admissions.first (fun a => a.id == job.admissionId)
  let managedWorkId ← job.managedWorkId
  if job.organizationId == scope.organizationId && job.siteId == scope.siteId then
    let command ← s.dispatchCommand scope managedWorkId
    some (.printJobEvent job.id command.commandId event.sequence)
  else none

/-- The inserts of `project`, each with the id of its envelope. -/
def projectEvents : List (PrintJobEventRow × String) → Outbox → Except GatewayError Outbox
  | [], outbox => .ok outbox
  | (event, envelopeId) :: events, outbox =>
    match s.observation scope event with
    | none => projectEvents events outbox
    | some payload => do
      let outbox ← outbox.insert
        ⟨envelopeId, .pending, payload, some (.agentState envelopeId), some scope, s.controller⟩
      projectEvents events outbox

def lastSequence : Nat :=
  ((s.cursors.find? (fun c => c.1 == scope)).map (·.2)).getD 0

/-- `project`, over as many events as there are envelope ids. A failure leaves everything. -/
def project (envelopeIds : List String) : Gateway :=
  match s.enrolled.bind Enrolled.scope with
  | none => s
  | some scope =>
    let events := (s.agent.db.events.select (fun e => decide (s.lastSequence scope < e.sequence))).take
      envelopeIds.length
    match s.projectEvents scope (events.zip envelopeIds) s.outbox with
    | .error _ => s
    | .ok outbox =>
      let last := (events.getLast?.map (·.sequence)).getD (s.lastSequence scope)
      { s with
        outbox := outbox
        cursors := (scope, last) :: s.cursors.filter (fun c => c.1 != scope) }

/-- `list_pending_outbox`: which of the pending records come first, and how many, is an input. -/
def startFlush (messageIds : List String) : Gateway :=
  match s.enrolled with
  | none => s
  | some e =>
    { s with sending := some (e, messageIds.filterMap (fun id =>
        s.outbox.first (fun r => r.messageId == id && pendingFor e.scope r))) }

/-- `_event_is_shared`; other messages are not checked. -/
def mayPublish (latest : String) : Publication → Bool
  | .deviceEvent deviceId _ => s.isShared deviceId
  | .jobEvent jobId deviceId _ _ =>
    (s.acceptedCommand jobId latest).isSome || s.isShared deviceId
  | .answer _ _ | .printJobEvent _ _ _ | .snapshot _ => true

inductive Delivery
  | sent
  /-- The process stops before the record is marked. -/
  | unmarked
  | failed

/-- One turn of the loop of `flush_outbox_once`. -/
def flushNext (latest : String) (delivery : Delivery) : Gateway × List GatewayAction :=
  match s.sending with
  | none => (s, [])
  | some (_, []) => ({ s with sending := none }, [])
  | some (e, record :: records) =>
    if s.mayPublish latest record.payload then
      let action : GatewayAction := .published e.controller record.queuedFor record.payload
      match delivery with
      | .sent => ({ s.mark record.messageId .sent with sending := some (e, records) }, [action])
      | .unmarked => ({ s with sending := none }, [action])
      | .failed => ({ s with sending := none }, [])
    else
      ({ s with
        outbox := discardPendingOutbound s.outbox record.messageId
        sending := some (e, records) }, [])

/-- `build_snapshot` and its publication -/
def publishSnapshot (deviceIds : List String) : List GatewayAction :=
  match s.enrolled with
  | none => []
  | some e =>
    [.published e.controller (some e.controller) (.snapshot (deviceIds.filter s.isShared))]

/-- The event is not one of the handler's: a stop is an event of its own, and managed work is
admitted by handlers only. -/
def agentEvent : AgentEvent → Option AgentEvent
  | .stop => none
  | .accept m => if m.managedWorkId.isNone then some (.accept m) else none
  | .advance inp =>
    match s.handler with
    | some ⟨_, _, .admitting _⟩ => none
    | _ => some (.advance (s.admissionInput inp))
  | e => some e

def stepAgent (e : AgentEvent) : Gateway × List GatewayAction :=
  match s.agentEvent e with
  | none => (s, [])
  | some e =>
    let r := s.agent.step e
    ({ s with agent := r.1 }, newPrintJobs none s.agent.db r.1.db)

def submitLocal (jobId deviceId : String) : Gateway :=
  match JobService.create s.jobs jobId deviceId with
  | .ok jobs => { s with jobs := jobs }
  | .error _ => s

def moveJob (s : Gateway) (jobId : String) (state : JobState) : Gateway :=
  match s.jobs.update (ε := GatewayError) (fun r => r.id == jobId)
      (fun r => { r with state := state }) with
  | .ok jobs => { s with jobs := jobs }
  | .error _ => s

end Gateway

inductive GatewayEvent
  /-- A message of the live subscription or of the history, while no other is handled. -/
  | deliver (message : ControllerCommandMessage)
  | handle (inp : HandlerInput)
  /-- The task of the handler is cancelled; an admission under way goes on in its thread. -/
  | cancelHandler
  | submitLocal (jobId deviceId : String)
  | moveJob (jobId : String) (state : JobState)
  | forwardDevice (deviceId : String) (sequence : Nat) (messageId : String)
  | forwardJob (jobId : String) (sequence : Nat) (messageId latest : String)
  | project (envelopeIds : List String)
  | startFlush (messageIds : List String)
  | flushNext (latest : String) (delivery : Gateway.Delivery)
  | publishSnapshot (deviceIds : List String)
  | share (deviceIds : List String)
  | enroll (enrolled : Option Enrolled)
  | agent (e : AgentEvent)
  | stop

namespace Gateway

/-- The state after an event, and what the gateway did. -/
def next (config : GatewayConfig) (s : Gateway) : GatewayEvent → Gateway × List GatewayAction
  | .deliver message =>
    match s.handler, s.enrolled with
    | none, some e => ({ s with handler := some ⟨message, e, .record⟩ }, [])
    | _, _ => (s, [])
  | .handle inp =>
    match s.handler with
    | none => (s, [])
    | some h => s.handle config h inp
  | .cancelHandler => (s.leave, [])
  | .submitLocal jobId deviceId => (s.submitLocal jobId deviceId, [])
  | .moveJob jobId state => (s.moveJob jobId state, [])
  | .forwardDevice deviceId sequence messageId => (s.forwardDevice deviceId sequence messageId, [])
  | .forwardJob jobId sequence messageId latest =>
    (s.forwardJob jobId sequence messageId latest, [])
  | .project envelopeIds => (s.project envelopeIds, [])
  | .startFlush messageIds => (if s.sending.isNone then s.startFlush messageIds else s, [])
  | .flushNext latest delivery => s.flushNext latest delivery
  | .publishSnapshot deviceIds => (s, s.publishSnapshot deviceIds)
  | .share deviceIds => ({ s with shared := deviceIds }, [])
  | .enroll enrolled => ({ s with enrolled := enrolled }, [])
  | .agent e => s.stepAgent e
  -- a stop loses what is under way and nothing else
  | .stop =>
    ({ s with agent := (s.agent.step .stop).1, handler := none, sending := none }, [])

/-- One event of a run; the history grows by what it did. -/
def step (config : GatewayConfig) (s : Gateway) (e : GatewayEvent) :
    Gateway × List GatewayAction :=
  let r := s.next config e
  ({ r.1 with history := s.history ++ r.2 }, r.2)

end Gateway

end Inari.Agent
