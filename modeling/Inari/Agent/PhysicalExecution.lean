import Inari.Agent.System
import Inari.Lib.Interleave

/-!
# Physical execution

`PhysicalExecution.run_one` of the Agent. Other tasks run between two of its calls, among them its
own heartbeat and further `run_one` calls. A call that raises writes only if its commit is
uncertain.
-/

namespace Inari.Agent

open Lib SqliteExecutionLedger DurableSpoolAdmissionStore

namespace PhysicalExecution

/-- What a call raises. Only `CancelledError` is not an `Exception`. -/
inductive Raised
  | preIoFailure (errorCode messageKey : String)
  | leaseLost
  | other
  | cancelled
deriving DecidableEq

def Raised.isPreIoFailure : Raised → Bool
  | .preIoFailure _ _ => true
  | _ => false

/-- `ExecutionRejected` is a `PreIoFailure`. -/
def Raised.ofLedger : LedgerError → Raised
  | .leaseLost _ => .leaseLost
  | .executionRejected errorCode messageKey => .preIoFailure errorCode messageKey
  | _ => .other

structure Answered (α : Type) where
  result : Except Raised α
  written : Option α

def Answered.applied {α : Type} (a : Answered α) : Bool := a.result.isOk || a.written.isSome

inductive CloseIn
  | block
  | handler
  | final

inductive ExecutionOp
  | claimNext (owner : ExecutionOwner) (deviceId : Option String)
  | spoolPrepare (claim : ExecutionClaim)
  | markPrepared (claim : ExecutionClaim)
  | workerPrepare (claim : ExecutionClaim)
  | waitReady
  | failBeforeIo (claim : ExecutionClaim) (errorCode messageKey : String)
  | markIoStarted (claim : ExecutionClaim)
  | notePermissionDelivered (claim : ExecutionClaim) (permit : IoPermit)
  | execute (permit : IoPermit)
  | close (place : CloseIn)
  | finish (claim : ExecutionClaim) (result : DriverExecutionResult)
  | spoolRelease (claim : ExecutionClaim) (receipt : ExecutionReceipt)
  | abandonAfterMarker (claim : ExecutionClaim)
  | renew (claim : ExecutionClaim)
  | agent (e : AgentEvent)

abbrev executionInterface : Interface where
  Op := ExecutionOp
  Answer
    | .claimNext .. => Answered (Option ExecutionClaim)
    | .markPrepared _ | .notePermissionDelivered .. => Answered Unit
    | .failBeforeIo .. | .finish .. | .abandonAfterMarker _ => Answered ExecutionReceipt
    | .markIoStarted _ => Answered IoPermit
    | .renew _ => Answered ExecutionClaim
    | .execute _ => Except Raised DriverExecutionResult
    | .spoolPrepare _ | .workerPrepare _ | .waitReady | .close _ | .spoolRelease .. =>
      Except Raised Unit
    | .agent _ => Unit

abbrev Task (α : Type) : Type := Proc executionInterface Raised α

/-- One call; what it raises is left to the caller. -/
def ask {α : Type} (op : ExecutionOp) (read : executionInterface.Answer op → Except Raised α) :
    Task (Except Raised α) :=
  .attempt op (fun answer => .ok (read answer))

def claimNext (owner : ExecutionOwner) (deviceId : Option String) :
    Task (Except Raised (Option ExecutionClaim)) :=
  ask (.claimNext owner deviceId) Answered.result

variable (claim : ExecutionClaim)

def spoolPrepare : Task (Except Raised Unit) := ask (.spoolPrepare claim) id

def markPrepared : Task (Except Raised Unit) :=
  ask (.markPrepared claim) Answered.result

def workerPrepare : Task (Except Raised Unit) :=
  ask (.workerPrepare claim) id

def waitReady : Task (Except Raised Unit) := ask .waitReady id

def failBeforeIo (errorCode messageKey : String) : Task (Except Raised ExecutionReceipt) :=
  ask (.failBeforeIo claim errorCode messageKey) Answered.result

def markIoStarted : Task (Except Raised IoPermit) :=
  ask (.markIoStarted claim) Answered.result

def notePermissionDelivered (permit : IoPermit) : Task (Except Raised Unit) :=
  ask (.notePermissionDelivered claim permit) Answered.result

def execute (permit : IoPermit) : Task (Except Raised DriverExecutionResult) :=
  ask (.execute permit) id

def close (place : CloseIn) : Task (Except Raised Unit) := ask (.close place) id

def finish (result : DriverExecutionResult) : Task (Except Raised ExecutionReceipt) :=
  ask (.finish claim result) Answered.result

def spoolRelease (receipt : ExecutionReceipt) : Task (Except Raised Unit) :=
  ask (.spoolRelease claim receipt) id

def abandonAfterMarker : Task (Except Raised ExecutionReceipt) :=
  ask (.abandonAfterMarker claim) Answered.result

def renew : Task (Except Raised ExecutionClaim) :=
  ask (.renew claim) Answered.result

/-- How the `try` block of `run_one` is left: `prepared_worker` is set, and `marker_committed`. -/
structure Exit where
  result : Except Raised ExecutionReceipt
  preparedWorker : Bool
  markerCommitted : Bool

/-- The inner `try`: whether a worker was prepared when it is left. -/
def prepare : Task (Except Raised Unit × Bool) := do
  match ← spoolPrepare claim with
  | .error e => pure (.error e, false)
  | .ok () =>
    match ← markPrepared claim with
    | .error e => pure (.error e, false)
    | .ok () =>
      match ← workerPrepare claim with
      | .error e => pure (.error e, false)
      | .ok () =>
        let ready ← waitReady
        pure (ready, true)

/-- `return await fail_before_io(...)` -/
def rejected (errorCode messageKey : String) (preparedWorker : Bool) : Task Exit := do
  let receipt ← failBeforeIo claim errorCode messageKey
  pure ⟨receipt, preparedWorker, false⟩

/-- A worker that ends without a result leaves the outcome unknown. -/
def executionResult : Except Raised DriverExecutionResult → DriverExecutionResult
  | .ok result => result
  | .error .cancelled => ⟨.unknown, none, none, some "worker_cancelled", some "print.outcome_unknown"⟩
  | .error _ => ⟨.unknown, none, none, some "worker_exited", some "print.outcome_unknown"⟩

def deliver (permit : IoPermit) : Task Exit := do
  match ← notePermissionDelivered claim permit with
  | .error e => pure ⟨.error e, true, true⟩
  | .ok () =>
    let executed ← execute permit
    match ← close .block with
    | .error e => pure ⟨.error e, true, true⟩
    | .ok () =>
      match ← finish claim (executionResult executed) with
      | .error e => pure ⟨.error e, false, true⟩
      | .ok receipt =>
        let released ← spoolRelease claim receipt
        -- an `Exception` of the release is logged only
        if released = .error .cancelled then pure ⟨.error .cancelled, false, false⟩
        else
          match executed with
          | .error .cancelled => pure ⟨.error .cancelled, false, false⟩
          | _ => pure ⟨.ok receipt, false, false⟩

def block : Task Exit := do
  let (ready, preparedWorker) ← prepare claim
  match ready with
  | .error (.preIoFailure errorCode messageKey) =>
    rejected claim errorCode messageKey preparedWorker
  | .error .cancelled => pure ⟨.error .cancelled, preparedWorker, false⟩
  | .error _ => rejected claim "service_unavailable" "print.service_unavailable" preparedWorker
  | .ok () =>
    match ← markIoStarted claim with
    | .error (.preIoFailure errorCode messageKey) => rejected claim errorCode messageKey true
    | .error e => pure ⟨.error e, true, false⟩
    | .ok permit => deliver claim permit

/-- `if prepared_worker is not None: await prepared_worker.close()` -/
def closePrepared (preparedWorker : Bool) (place : CloseIn) : Task (Except Raised Unit) :=
  if preparedWorker then close place else pure (.ok ())

/-- The handler once the worker is closed. -/
def abandonMarked (e : Raised) (markerCommitted : Bool) : Task Exit :=
  if markerCommitted then do
    match ← abandonAfterMarker claim with
    | .error e' => pure ⟨.error e', false, true⟩
    | .ok _ => pure ⟨.error e, false, true⟩
  else pure ⟨.error e, false, false⟩

/-- `except BaseException`: an error of the handler replaces the one it handles. -/
def handleRaised (exit : Exit) : Task Exit :=
  match exit.result with
  | .ok _ => pure exit
  | .error e => do
    match ← closePrepared exit.preparedWorker .handler with
    | .error e' => pure { exit with result := .error e' }
    | .ok () => abandonMarked claim e exit.markerCommitted

/-- `finally` -/
def cleanUp (exit : Exit) : Task (Option ExecutionReceipt) := do
  match ← closePrepared exit.preparedWorker .final, exit.result with
  | .error e, _ => throw e
  | .ok (), .error e => throw e
  | .ok (), .ok receipt => pure (some receipt)

def runOne (owner : ExecutionOwner) (deviceId : Option String) : Task (Option ExecutionReceipt) := do
  match ← claimNext owner deviceId with
  | .error e => throw e
  | .ok none => pure none
  | .ok (some claim) =>
    let exit ← block claim
    let exit ← handleRaised claim exit
    cleanUp exit

/-- A `run_one` call, one round of a heartbeat, or an event of the rest of the Agent. -/
inductive Request
  | runOne (owner : ExecutionOwner) (deviceId : Option String)
  | heartbeat (claim : ExecutionClaim)
  | agent (e : AgentEvent)

def body : Request → Task (Option ExecutionReceipt)
  | .runOne owner deviceId => runOne owner deviceId
  | .heartbeat claim => do
    match ← renew claim with
    | .error e => throw e
    | .ok _ => pure none
  | .agent e => do
    let _ ← ask (.agent e) (fun _ => .ok ())
    pure none

structure ExecutionInput where
  env : LedgerEnv
  now : Time
  ids : ClaimIds
  markerId : String
  commit : Commit
  /-- What the call raises before its transaction. -/
  raised : Option Raised
  /-- The answer of the spool or of the worker. -/
  answer : Except Raised Unit
  executed : Except Raised DriverExecutionResult

/-- A call of the ledger: it may raise before its transaction, and its commit may be uncertain. -/
def transactLedger {α : Type} (input : ExecutionInput) (s : AgentState)
    (r : Except LedgerError (Db × α)) : AgentState × Answered α :=
  match input.raised, r with
  | some e, _ => (s, ⟨.error e, none⟩)
  | none, .error e => (s, ⟨.error (.ofLedger e), none⟩)
  | none, .ok (db, a) =>
    match input.commit with
    | .done => ({ s with db := db }, ⟨.ok a, some a⟩)
    | .uncertain true => ({ s with db := db }, ⟨.error .other, some a⟩)
    | .uncertain false => (s, ⟨.error .other, none⟩)

def exec (op : ExecutionOp) (s : AgentState) (input : ExecutionInput) :
    AgentState × executionInterface.Answer op :=
  match op with
  | .claimNext owner deviceId => transactLedger input s
      (SqliteExecutionLedger.claimNext input.env s.db owner deviceId input.now input.ids)
  | .markPrepared claim => transactLedger input s
      ((SqliteExecutionLedger.markPrepared s.db claim input.now).map (·, ()))
  | .failBeforeIo claim errorCode messageKey => transactLedger input s
      (SqliteExecutionLedger.failBeforeIo s.db claim errorCode messageKey input.now)
  | .markIoStarted claim => transactLedger input s
      (SqliteExecutionLedger.markIoStarted input.env s.db claim input.now input.markerId)
  | .notePermissionDelivered claim permit => transactLedger input s
      ((SqliteExecutionLedger.notePermissionDelivered s.db claim permit input.now).map (·, ()))
  | .finish claim result => transactLedger input s
      (SqliteExecutionLedger.finish input.env s.db claim result input.now)
  | .abandonAfterMarker claim => transactLedger input s
      (SqliteExecutionLedger.abandonAfterMarker s.db claim input.now)
  | .renew claim => transactLedger input s
      (SqliteExecutionLedger.renew input.env s.db claim input.now)
  | .execute _ => (s, input.executed)
  | .spoolPrepare _ | .workerPrepare _ | .waitReady | .close _ | .spoolRelease .. => (s, input.answer)
  -- the ledger is called by the other tasks of this system only
  | .agent e => (if e.isLedger then s else (s.step e).1, ())

def service : Service executionInterface AgentState ExecutionInput Request Raised
    (Option ExecutionReceipt) :=
  ⟨body, exec⟩

end PhysicalExecution

end Inari.Agent
