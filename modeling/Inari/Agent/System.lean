import Inari.Agent.Admission
import Inari.Agent.PrintJobs
import Inari.Lib.Run

/-!
# The Agent as a transition system

Ledger operations and artifact writes run between any two steps of the admission call under way. A
stop of the process loses the call.
-/

namespace Inari.Agent

open Lib SqliteExecutionLedger

/-- One operation of `SqliteExecutionLedger` with its arguments. -/
inductive LedgerCall
  | claimNext (owner : ExecutionOwner) (deviceId : Option String) (now : Time) (ids : ClaimIds)
  | markPrepared (claim : ExecutionClaim) (now : Time)
  | renew (claim : ExecutionClaim) (now : Time)
  | markIoStarted (claim : ExecutionClaim) (now : Time) (markerId : String)
  | notePermissionDelivered (claim : ExecutionClaim) (permit : IoPermit) (now : Time)
  | finish (claim : ExecutionClaim) (result : DriverExecutionResult) (now : Time)
  | failBeforeIo (claim : ExecutionClaim) (errorCode messageKey : String) (now : Time)
  | abandonAfterMarker (claim : ExecutionClaim) (now : Time)
  | recover (owner : ExecutionOwner) (now : Time)

inductive LedgerResult
  | claim (c : Option ExecutionClaim)
  | none
  | renewed (c : ExecutionClaim)
  | permit (p : IoPermit)
  | receipt (r : ExecutionReceipt)
  | report (r : RecoveryReport)
deriving DecidableEq

def applyLedger (env : LedgerEnv) (db : Db) :
    LedgerCall → Except LedgerError (Db × LedgerResult)
  | .claimNext owner deviceId now ids =>
    (claimNext env db owner deviceId now ids).map (fun r => (r.1, .claim r.2))
  | .markPrepared claim now => (markPrepared db claim now).map (fun db => (db, .none))
  | .renew claim now => (renew env db claim now).map (fun r => (r.1, .renewed r.2))
  | .markIoStarted claim now markerId =>
    (markIoStarted env db claim now markerId).map (fun r => (r.1, .permit r.2))
  | .notePermissionDelivered claim permit now =>
    (notePermissionDelivered db claim permit now).map (fun db => (db, .none))
  | .finish claim result now => (finish env db claim result now).map (fun r => (r.1, .receipt r.2))
  | .failBeforeIo claim errorCode messageKey now =>
    (failBeforeIo db claim errorCode messageKey now).map (fun r => (r.1, .receipt r.2))
  | .abandonAfterMarker claim now =>
    (abandonAfterMarker db claim now).map (fun r => (r.1, .receipt r.2))
  | .recover owner now => (recover db owner now).map (fun r => (r.1, .report r.2))

/-- The derived raster of a receipt, as `_persist_derived` encrypted and published it. -/
structure DerivedDocument where
  artifactId : String
  storageRef : String
  formatVersion : Nat
  nonce : Bytes
  plaintextSizeBytes : Nat
  ciphertextSizeBytes : Nat
  plaintextSha256 : Bytes

namespace EncryptedExecutionSpool

/-- The transaction of `release` after the file of a row was deleted. -/
def releaseRow (db : Db) (row : ArtifactRow) (now : Time) : Except LedgerError Db := do
  let artifacts ← db.artifacts.update (fun a => a.id == row.id && a.state == .deletePending)
    (fun a => { a with state := .deleted, deletedAt := some now, lastDeleteErrorCode := none })
  pure { db with artifacts := artifacts }

/-- The transaction of `_persist_derived`. -/
def persistDerived (db : Db) (claim : ExecutionClaim) (derived : DerivedDocument) (now : Time) :
    Except LedgerError Db := do
  let original ← db.artifacts.one (fun a => a.id == claim.original.artifactId)
  let artifacts ← db.artifacts.insert {
    id := derived.artifactId
    admissionId := claim.admissionId
    reservationId := original.reservationId
    jobId := some claim.jobId
    aadJobId := claim.jobId
    intentId := claim.intentId
    formatVersion := derived.formatVersion
    artifactKind := .derivedRaster
    storageRef := derived.storageRef
    nonce := derived.nonce
    plaintextSizeBytes := derived.plaintextSizeBytes
    ciphertextSizeBytes := derived.ciphertextSizeBytes
    plaintextSha256 := derived.plaintextSha256
    state := .committed
    retentionPolicy := .active
    createdAt := now
    committedAt := some now
    deleteAfter := none
    deletedAt := none
    deleteAttempts := 0
    lastDeleteErrorCode := none }
  pure { db with artifacts := artifacts }

end EncryptedExecutionSpool

open DurableSpoolAdmissionStore

structure AgentState where
  db : Db := {}
  call : Option Call := none

inductive AgentEvent
  | ledger (env : LedgerEnv) (c : LedgerCall) (commit : Commit)
  | releaseRow (row : ArtifactRow) (now : Time)
  | persistDerived (claim : ExecutionClaim) (derived : DerivedDocument) (now : Time)
  | accept (m : AdmissionManifest)
  | reconcile
  | advance (inp : StepInput)
  | stop

def AgentEvent.isLedger : AgentEvent → Bool
  | .ledger .. => true
  | _ => false

inductive AgentOutput
  | none
  | ledger (r : Except LedgerError LedgerResult)
  | outcome (o : Outcome)
deriving DecidableEq

/-- A ledger transaction whose commit may report an uncertain result. -/
def commitLedger (commit : Commit) (db : Db) (r : Except LedgerError (Db × LedgerResult)) :
    Db × Except LedgerError LedgerResult :=
  match r with
  | .error e => (db, .error e)
  | .ok (db', result) =>
    match commit with
    | .done => (db', .ok result)
    | .uncertain applied => (if applied then db' else db, .error .databaseCommitUncertain)

def committed (db : Db) (r : Except LedgerError Db) : Db :=
  match r with
  | .ok db' => db'
  | .error _ => db

def AgentState.step (s : AgentState) : AgentEvent → AgentState × AgentOutput
  | .ledger env c commit =>
    let (db, r) := commitLedger commit s.db (applyLedger env s.db c)
    ({ s with db := db }, .ledger r)
  | .releaseRow row now =>
    let db := committed s.db (EncryptedExecutionSpool.releaseRow s.db row now)
    ({ s with db := db }, .none)
  | .persistDerived claim derived now =>
    let db := committed s.db (EncryptedExecutionSpool.persistDerived s.db claim derived now)
    ({ s with db := db }, .none)
  -- the admission lock: a call starts only when none is under way
  | .accept m => (if s.call.isNone then { s with call := some (.accept m) } else s, .none)
  | .reconcile => (if s.call.isNone then { s with call := some .reconcile } else s, .none)
  | .advance inp =>
    match s.call with
    | none => (s, .none)
    | some call =>
      match callStep inp s.db call with
      | (db, .inl call) => (⟨db, some call⟩, .none)
      | (db, .inr o) => (⟨db, none⟩, .outcome o)
  | .stop => ({ s with call := none }, .none)

def AgentState.run (s : AgentState) (es : List AgentEvent) :
    List (Recorded AgentEvent AgentOutput AgentState) :=
  Lib.run AgentState.step s es

end Inari.Agent
