import Inari.Controller.Transactions
import Inari.Lib.Run

/-!
# Admissions of many replicas

`admit_managed_work` holds the advisory locks of its Organization and Agent. Other transactions
commit between two of its statements, so every statement is a step.
-/

namespace Inari.Controller

open Lib

inductive AdmissionPhase
  | locked
  | unknown
  | targeted (preflight : PreflightRow) (recipientKey : DispatchEncryptionKey)
  | agentChecked (preflight : PreflightRow) (recipientKey : DispatchEncryptionKey)
  | checked (preflight : PreflightRow) (recipientKey : DispatchEncryptionKey)

/-- A transaction of `admit_managed_work` that holds its locks. -/
structure OpenAdmission where
  admission : ManagedWorkAdmission
  signer : ManagedDispatchSigner
  random : Bytes
  phase : AdmissionPhase := .locked

namespace OpenAdmission

def agentId (o : OpenAdmission) : AgentId := o.admission.scope.agentId

def organizationId (o : OpenAdmission) : OrganizationId := o.admission.scope.organizationId

/-- The next statement of the transaction: a new phase, or the tables that it commits and its
result. -/
def statement (tools : Tools) (fleet : Fleet) (db : Db) (o : OpenAdmission) :
    Except Error (AdmissionPhase ⊕ (Db × ManagedWorkRow × Option CommandRow)) :=
  let a := o.admission
  match o.phase with
  | .locked => do
    let existing ← findExistingManagedWork db a.managedWorkId a.scope.organizationId
      a.idempotencyKey a.submission.work.printIntentId a.requestFingerprint
    match existing with
    | some existing =>
      let found ← existingDispatch tools.wire db existing
      pure (.inr (db, found))
    | none => pure (.inl .unknown)
  | .unknown => do
    let (preflight, recipientKey) ← a.target fleet db
    pure (.inl (.targeted preflight recipientKey))
  | .targeted preflight recipientKey => do
    let usage ← pendingUsage db (fun w => w.agentId == a.scope.agentId)
    usage.enforceQuota a.payloadBytes agentPendingWorkLimit agentPendingByteLimit "Agent"
    pure (.inl (.agentChecked preflight recipientKey))
  | .agentChecked preflight recipientKey => do
    let usage ← pendingUsage db (fun w => w.organizationId == a.scope.organizationId)
    usage.enforceQuota a.payloadBytes organizationPendingWorkLimit organizationPendingByteLimit
      "Organization"
    pure (.inl (.checked preflight recipientKey))
  | .checked preflight recipientKey => do
    let (db', work, command) ← insertManagedWork tools.wire db a preflight recipientKey
      (buildDispatch tools.wire tools.crypto o.signer a.idempotencyKey a.submission
        a.payloadFingerprint o.random)
    pure (.inr (db', work, some command))

end OpenAdmission

/-- The committed tables, and the transactions and advisory locks of the database sessions. -/
structure Replicas where
  db : Db := {}
  sessions : Nat → Option OpenAdmission := fun _ => none
  locks : Int → Option Nat := fun _ => none

structure ReplicaTools where
  service : Tools
  /-- The key of an advisory lock, which two texts may share. -/
  hashtextextended : String → Int

inductive ReplicaEvent
  | begin (session : Nat) (fleet : Fleet) (a : ManagedWorkAdmission) (signer : ManagedDispatchSigner)
      (random : Bytes)
  | statement (session : Nat) (fleet : Fleet)
  /-- The replica or its connection is lost. -/
  | disconnect (session : Nat)
  | transact (t : Transaction)

inductive ReplicaOutput
  | none
  | answered (result : Except Error (ManagedWorkRow × Option CommandRow))
deriving DecidableEq

/-- Transactions that admit Managed Work take the locks, so they run in a session. -/
def Transaction.admits : Transaction → Bool
  | .request (.submitWork ..) | .admitManagedWork .. => true
  | _ => false

namespace Replicas

variable (tools : ReplicaTools) (s : Replicas) (session : Nat)

def close : Replicas :=
  { s with
    sessions := Function.update s.sessions session none
    locks := fun key => if s.locks key = some session then none else s.locks key }

/-- Both locks in the order of the statement; a session waits for a lock that another one holds. -/
def lock (o : OpenAdmission) : Replicas :=
  let organization := tools.hashtextextended o.organizationId.text
  let agent := tools.hashtextextended o.agentId.text
  if s.locks organization = none ∧ s.locks agent = none then
    { s with
      sessions := Function.update s.sessions session (some o)
      locks := Function.update (Function.update s.locks organization (some session)) agent
        (some session) }
  else s

/-- `admit_managed_work` up to its locks -/
def begin (fleet : Fleet) (o : OpenAdmission) : Replicas × ReplicaOutput :=
  let checks : Except Error Unit := do
    require (fleet.organizationId == o.organizationId)
      (.forbidden "Router admission belongs to another Organization")
    fleet.requireAdmission o.agentId
  match checks with
  | .error e => (s, .answered (.error e))
  | .ok () => (s.lock tools session o, .none)

/-- A statement that fails rolls its transaction back. -/
def statement (fleet : Fleet) (o : OpenAdmission) : Replicas × ReplicaOutput :=
  match o.statement tools.service fleet s.db with
  | .error e => (s.close session, .answered (.error e))
  | .ok (.inl phase) =>
    ({ s with sessions := Function.update s.sessions session (some { o with phase := phase }) },
      .none)
  | .ok (.inr (db', found)) => ({ s.close session with db := db' }, .answered (.ok found))

def step : ReplicaEvent → Replicas × ReplicaOutput
  | .begin session fleet a signer random =>
    match s.sessions session with
    | some _ => (s, .none)
    | none => s.begin tools session fleet { admission := a, signer := signer, random := random }
  | .statement session fleet =>
    match s.sessions session with
    | some o => s.statement tools session fleet o
    | none => (s, .none)
  | .disconnect session => (s.close session, .none)
  | .transact t =>
    (if t.admits then s else { s with db := Controller.transact tools.service s.db t }, .none)

end Replicas

end Inari.Controller
