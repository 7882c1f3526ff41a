import Inari.Controller.Service

/-!
# The transactions on Managed Work

Each transaction of the repository is a step of its own: a submission looks for a replay in one
and admits in a later one.
-/

namespace Inari.Controller

open Lib

/-- A transaction of the repository on Managed Work, or a whole request or task. -/
inductive Transaction
  | request (event : Event)
  | admitManagedWork (fleet : Fleet) (a : ManagedWorkAdmission) (signer : ManagedDispatchSigner)
      (random : Bytes)
  | replayManagedWork (i : SubmissionIdentity)
  | expireManagedPayloads (choice : ManagedWorkId → Bool) (now : Instant)
  | managedPayload (managedWorkId : ManagedWorkId) (now : Instant)
  | reconcileStateObservation (fleet : Fleet) (agentId : AgentId) (publication : AgentPublication)
      (now : Instant)

variable (tools : Tools) (db : Db)

def Transaction.run : Transaction → Except Error Db
  | .request event => event.run tools db
  | .admitManagedWork fleet a signer random =>
    (Controller.admitManagedWork tools.wire fleet db a
      (buildDispatch tools.wire tools.crypto signer a.idempotencyKey a.submission
        a.payloadFingerprint random)).map Prod.fst
  | .replayManagedWork i =>
    (Controller.replayManagedWork tools.wire db db db db i).map (fun _ => db)
  | .expireManagedPayloads choice now => Controller.expireManagedPayloads db choice now
  | .managedPayload managedWorkId now =>
    (Controller.managedPayload db managedWorkId now).map (fun _ => db)
  | .reconcileStateObservation fleet agentId publication now =>
    Controller.reconcileStateObservation tools.envelopes fleet db agentId publication now

/-- A transaction that fails is rolled back. -/
def transact (t : Transaction) : Db :=
  match t.run tools db with
  | .ok db' => db'
  | .error _ => db

def after (ts : List Transaction) : Db := ts.foldl (transact tools) db

/-- `enqueue_command`: without a requested id, the command is named by its Agent and its sequence.
-/
def enqueueRequested (fleet : Fleet) (db : Db) (agentId : AgentId)
    (requestedCommandId : Option JobId) (fingerprint : Bytes) (kind : JobKind) (now : Instant) :
    Except Error (Db × CommandRow) :=
  match requestedCommandId with
  | some commandId => enqueueCommand fleet db agentId commandId fingerprint kind now
  | none => do
    fleet.requireAdmission agentId
    require (fleet.agent? agentId.text).isSome (.notFound "unknown managed gateway agent")
    let sequence ← nextCommandSequence db agentId
    insertCommand db agentId ("job_" ++ agentId.text ++ "_" ++ toString sequence) fingerprint kind
      now

/-- A transaction of any replica that may write a command. -/
inductive CommandTransaction
  | enqueueCommand (fleet : Fleet) (agentId : AgentId) (requestedCommandId : Option JobId)
      (fingerprint : Bytes) (kind : JobKind) (now : Instant)
  | other (t : Transaction)

def CommandTransaction.run : CommandTransaction → Except Error Db
  | .enqueueCommand fleet agentId requestedCommandId fingerprint kind now =>
    (enqueueRequested fleet db agentId requestedCommandId fingerprint kind now).map Prod.fst
  | .other t => t.run tools db

def commit (t : CommandTransaction) : Db × Except Error Unit :=
  match t.run tools db with
  | .ok db' => (db', .ok ())
  | .error e => (db, .error e)

end Inari.Controller
