import Inari.Agent.CommandDispatcher

/-!
# Local jobs and the outbox of the gateway

The columns of `jobs` that the gateway reads, with `create` and `cancel` of `inari/runtime`, and
the `gateway_outbox` table with the functions of `GatewayRepository` over it.
-/

namespace Inari.Agent

open Lib

inductive JobState
  | queued | dispatched | running | retryScheduled | succeeded | failed | cancelled
deriving DecidableEq

structure JobRow where
  id : String
  deviceId : String
  state : JobState
deriving DecidableEq

def jobIdKey : UniqueIndex JobRow := ⟨fun r => some r.id⟩

def jobSpec : TableSpec JobRow := ⟨fun _ => true, [jobIdKey]⟩

abbrev JobTable := Table jobSpec

/-- A failure that is not one of the Agent's own errors, by the name of its type. -/
def commandFailed (typeName : String) : Rejection :=
  ("UPSTREAM_COMMAND_FAILED", "Upstream command failed with " ++ typeName ++ ".")

namespace JobService

def create (jobs : JobTable) (jobId deviceId : String) : Except Rejection JobTable :=
  match jobs.insert (ε := GatewayError) ⟨jobId, deviceId, .queued⟩ with
  | .ok jobs => .ok jobs
  | .error _ => .error (commandFailed "IntegrityError")

def cancellable (jobId : String) (r : JobRow) : Bool :=
  r.id == jobId && (r.state == .queued || r.state == .retryScheduled || r.state == .dispatched)

/-- `repr` of a text without quotes and escapes -/
def quoted (text : String) : String := "'" ++ text ++ "'"

/-- `JobService.cancel`, up to the event that it publishes: the row that was cancelled. -/
def cancel (jobs : JobTable) (jobId : String) : Except Rejection (JobTable × JobRow) :=
  match jobs.first (cancellable jobId) with
  | some row =>
    match jobs.update (ε := GatewayError) (cancellable jobId)
        (fun r => { r with state := .cancelled }) with
    | .ok jobs => .ok (jobs, row)
    | .error _ => .error (commandFailed "IntegrityError")
  | none =>
    match jobs.first (fun r => r.id == jobId) with
    | none => .error ("JOB_NOT_FOUND", "Job " ++ quoted jobId ++ " was not found.")
    | some _ => .error ("JOB_NOT_CANCELLABLE", "Job " ++ quoted jobId ++
        " can no longer be cancelled once it is running or finished.")

end JobService

/-- What the Agent publishes: answers, `AgentRuntimeEventMessage` and `AgentStatusSnapshotMessage`.
-/
inductive Publication
  | answer (commandId : String) (answer : CommandAnswer)
  | deviceEvent (deviceId : String) (sequence : Nat)
  | jobEvent (jobId deviceId : String) (commandId : Option String) (sequence : Nat)
  | printJobEvent (jobId commandId : String) (sequence : Nat)
  | snapshot (deviceIds : List String)
deriving DecidableEq

inductive RuntimeResourceKind
  | device | job
deriving DecidableEq

/-- `dedupe_key`. Its texts start with different words, so they are different. -/
inductive DedupeKey
  | commandAccepted (commandId : String)
  | commandRejected (commandId : String)
  | runtimeEvent (kind : RuntimeResourceKind) (sequence : Nat)
  | agentState (envelopeId : String)
deriving DecidableEq

def CommandAnswer.dedupeKey (commandId : String) : CommandAnswer → DedupeKey
  | .accepted _ => .commandAccepted commandId
  | .rejected _ _ => .commandRejected commandId

inductive OutboxState
  | pending | sent
deriving DecidableEq

/-- A row of `gateway_outbox`, with the Controller that was enrolled when it was queued. -/
structure OutboxRow where
  messageId : String
  state : OutboxState
  payload : Publication
  dedupeKey : Option DedupeKey
  recipientScope : Option AgentManagedScope
  queuedFor : Option String

def outboxIdKey : UniqueIndex OutboxRow := ⟨fun r => some r.messageId⟩

/-- `idx_gateway_outbox_dedupe_key` -/
def outboxDedupeKey : UniqueIndex OutboxRow := ⟨fun r => r.dedupeKey⟩

def outboxSpec : TableSpec OutboxRow := ⟨fun _ => true, [outboxIdKey, outboxDedupeKey]⟩

abbrev Outbox := Table outboxSpec

namespace GatewayRepository

/-- `enqueue_outbound` with a dedupe key: the outbox and the message id of the record. -/
def enqueueOutbound (outbox : Outbox) (messageId : String) (payload : Publication)
    (key : DedupeKey) (recipientScope : Option AgentManagedScope) (queuedFor : Option String) :
    Except GatewayError (Outbox × String) :=
  match outbox.first (fun r => r.dedupeKey == some key) with
  | some existing => .ok (outbox, existing.messageId)
  | none => do
    let outbox ← outbox.insert ⟨messageId, .pending, payload, some key, recipientScope, queuedFor⟩
    pure (outbox, messageId)

/-- `requeue_outbound` and `mark_outbox_sent` -/
def markOutbox (outbox : Outbox) (messageId : String) (state : OutboxState) :
    Except GatewayError Outbox :=
  outbox.update (fun r => r.messageId == messageId) (fun r => { r with state := state })

def discardPendingOutbound (outbox : Outbox) (messageId : String) : Outbox :=
  outbox.delete (fun r => r.messageId == messageId && r.state == .pending)

/-- The condition of `list_pending_outbox` -/
def pendingFor (recipientScope : Option AgentManagedScope) (r : OutboxRow) : Bool :=
  r.state == .pending && (r.recipientScope.isNone || r.recipientScope == recipientScope)

/-- `get_inbound_command_for_job`: among the records of the job, the one updated last. -/
def getInboundCommandForJob (db : CommandDb) (jobId latest : String) :
    Option (InboundRow ControllerCommandMessage) :=
  let records := db.inbound.select (fun r => r.jobId == some jobId)
  (records.find? (fun r => r.commandId == latest)).or records.head?

end GatewayRepository

end Inari.Agent
