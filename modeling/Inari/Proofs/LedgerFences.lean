import Inari.Proofs.DeviceExecution

/-!
# Stale claims are fenced

The fence does not find an attempt that ended, that another generation holds or whose lease has
passed.
-/

namespace Inari.Agent

open Lib SqliteExecutionLedger
open DurableSpoolAdmissionStore (Commit)

def LedgerCall.fencedBy : LedgerCall → Option (ExecutionClaim × Time)
  | .markPrepared c now | .renew c now | .markIoStarted c now _ | .notePermissionDelivered c _ now
  | .finish c _ now | .failBeforeIo c _ _ now => some (c, now)
  | .claimNext .. | .abandonAfterMarker .. | .recover .. => none

/-- The attempt is over or owned by another generation, or its lease has expired. -/
def Stale (db : Db) (claim : ExecutionClaim) (now : Time) : Prop :=
  ∀ a ∈ db.attempts.rows, a.attemptId = claim.attemptId →
    a.phase = .finished ∨ a.phase = .recovered ∨ a.ownerId ≠ claim.owner.ownerId ∨
      a.ownerGeneration ≠ claim.owner.generation ∨ a.leaseExpiresAt ≤ now

instance (db : Db) (claim : ExecutionClaim) (now : Time) : Decidable (Stale db claim now) :=
  inferInstanceAs (Decidable (∀ a ∈ _, _))

section Stale

variable {env : LedgerEnv} {db : Db} {claim : ExecutionClaim} {now : Time}

lemma Stale.fence {phase : Option AttemptPhase} (h : Stale db claim now)
    (hphase : ∀ p, phase = some p → p.active = true) :
    ∀ a ∈ db.attempts.rows, SqliteExecutionLedger.fence claim phase now a = false := by
  intro a ha
  rw [Bool.eq_false_iff]
  intro hfence
  have hactive : a.phase.active = true := by
    obtain ⟨-, hsome, hnone⟩ := fence_spec hfence
    cases phase with
    | none => exact hnone rfl
    | some p =>
      rw [hsome p rfl]
      exact hphase p rfl
  simp only [SqliteExecutionLedger.fence, Bool.and_eq_true, beq_iff_eq, decide_eq_true_eq] at hfence
  obtain ⟨⟨⟨⟨⟨hid, -⟩, howner⟩, hgeneration⟩, hlease⟩, -⟩ := hfence
  rcases h a ha hid with hended | hended | hother | hother | hexpired
  · rw [hended] at hactive
    cases hactive
  · rw [hended] at hactive
    cases hactive
  · exact hother howner
  · exact hother hgeneration
  · exact absurd hlease (not_lt.mpr hexpired)

lemma Stale.attemptOf {phase : Option AttemptPhase} (h : Stale db claim now)
    (hphase : ∀ p, phase = some p → p.active = true) :
    SqliteExecutionLedger.attemptOf db claim phase now =
      .error (.leaseLost "The execution lease is no longer active.") := by
  rw [SqliteExecutionLedger.attemptOf, Table.first_eq_none (h.fence hphase)]
  rfl

lemma Stale.markPrepared (h : Stale db claim now) :
    SqliteExecutionLedger.markPrepared db claim now =
      .error (.leaseLost "The execution claim is no longer active.") := by
  have hfence : ∀ a ∈ db.attempts.rows,
      SqliteExecutionLedger.fence claim (some .claimed) now a = false :=
    h.fence (by rintro p ⟨⟩; rfl)
  rw [SqliteExecutionLedger.markPrepared, Table.update_of_no_match hfence,
    Table.rowcount_of_no_match hfence]
  rfl

lemma Stale.renew (h : Stale db claim now) :
    SqliteExecutionLedger.renew env db claim now =
      .error (.leaseLost "The execution lease is no longer active.") := by
  have hfence : ∀ a ∈ db.attempts.rows, SqliteExecutionLedger.fence claim none now a = false :=
    h.fence (by rintro p ⟨⟩)
  rw [SqliteExecutionLedger.renew, Table.update_of_no_match hfence,
    Table.rowcount_of_no_match hfence]
  rfl

lemma Stale.markIoStarted {markerId : String} (h : Stale db claim now) :
    SqliteExecutionLedger.markIoStarted env db claim now markerId =
      .error (.leaseLost "The execution lease is no longer active.") := by
  rw [SqliteExecutionLedger.markIoStarted, h.attemptOf (by rintro p ⟨⟩; rfl)]
  rfl

lemma Stale.notePermissionDelivered {permit : IoPermit} (h : Stale db claim now) :
    SqliteExecutionLedger.notePermissionDelivered db claim permit now =
      .error (.leaseLost "The Device I/O permit lost its lease.") := by
  have hmatched : ∀ a ∈ db.attempts.rows,
      (SqliteExecutionLedger.fence claim (some .markerCommitted) now a &&
        a.markerId == some permit.markerId) = false := by
    intro a ha
    rw [h.fence (by rintro p ⟨⟩; rfl) a ha, Bool.false_and]
  rw [SqliteExecutionLedger.notePermissionDelivered, Table.update_of_no_match hmatched,
    Table.rowcount_of_no_match hmatched]
  rfl

lemma Stale.finish {result : DriverExecutionResult} (h : Stale db claim now) :
    SqliteExecutionLedger.finish env db claim result now =
      .error (.leaseLost "The execution lease is no longer active.") := by
  rw [SqliteExecutionLedger.finish, h.attemptOf (by rintro p ⟨⟩; rfl)]
  rfl

lemma Stale.failBeforeIo {errorCode messageKey : String} (h : Stale db claim now) :
    SqliteExecutionLedger.failBeforeIo db claim errorCode messageKey now =
      .error (.leaseLost "The execution lease is no longer active.") := by
  rw [SqliteExecutionLedger.failBeforeIo, h.attemptOf (by rintro p ⟨⟩)]
  rfl

lemma Stale.raises {c : LedgerCall} (h : Stale db claim now) (env : LedgerEnv)
    (hc : c.fencedBy = some (claim, now)) :
    ∃ message, applyLedger env db c = .error (.leaseLost message) := by
  cases c with
  | markPrepared =>
    obtain ⟨rfl, rfl⟩ := Prod.mk.inj (Option.some.inj hc)
    exact ⟨_, map_error.mpr h.markPrepared⟩
  | renew =>
    obtain ⟨rfl, rfl⟩ := Prod.mk.inj (Option.some.inj hc)
    exact ⟨_, map_error.mpr h.renew⟩
  | markIoStarted =>
    obtain ⟨rfl, rfl⟩ := Prod.mk.inj (Option.some.inj hc)
    exact ⟨_, map_error.mpr h.markIoStarted⟩
  | notePermissionDelivered =>
    obtain ⟨rfl, rfl⟩ := Prod.mk.inj (Option.some.inj hc)
    exact ⟨_, map_error.mpr h.notePermissionDelivered⟩
  | finish =>
    obtain ⟨rfl, rfl⟩ := Prod.mk.inj (Option.some.inj hc)
    exact ⟨_, map_error.mpr h.finish⟩
  | failBeforeIo =>
    obtain ⟨rfl, rfl⟩ := Prod.mk.inj (Option.some.inj hc)
    exact ⟨_, map_error.mpr h.failBeforeIo⟩
  | claimNext | abandonAfterMarker | recover => cases hc

end Stale

lemma step_ledger (s : AgentState) (env : LedgerEnv) (c : LedgerCall) (commit : Commit) :
    s.step (.ledger env c commit) =
      ({ s with db := (commitLedger commit s.db (applyLedger env s.db c)).1 },
        .ledger (commitLedger commit s.db (applyLedger env s.db c)).2) := rfl

lemma commitLedger_failed {commit : Commit} {db : Db} {r : Except LedgerError (Db × LedgerResult)}
    {error : LedgerError} (h : (commitLedger commit db r).2 = .error error)
    (hcertain : error ≠ .databaseCommitUncertain) : (commitLedger commit db r).1 = db := by
  cases r with
  | error => rfl
  | ok =>
    cases commit with
    | done => cases h
    | uncertain =>
      cases h
      exact absurd rfl hcertain

/-- A fenced operation with a stale claim raises `LeaseLost`, and one that raises changes nothing
unless its commit failed. -/
theorem stale_claims_fenced (es : List AgentEvent) (env : LedgerEnv) (c : LedgerCall)
    (commit : Commit) :
    (∀ claim now, c.fencedBy = some (claim, now) →
      Stale (final AgentState.step {} es).db claim now →
      ∃ message, (final AgentState.step {} es).step (.ledger env c commit) =
        (final AgentState.step {} es, .ledger (.error (.leaseLost message)))) ∧
    (∀ error, ((final AgentState.step {} es).step (.ledger env c commit)).2 = .ledger (.error error) →
      error ≠ .databaseCommitUncertain →
      ((final AgentState.step {} es).step (.ledger env c commit)).1 = final AgentState.step {} es) := by
  refine ⟨?_, ?_⟩
  · intro claim now hc hstale
    obtain ⟨message, hraised⟩ := hstale.raises env hc
    refine ⟨message, ?_⟩
    rw [step_ledger, hraised]
    rfl
  · intro error herror hcertain
    rw [step_ledger] at herror ⊢
    have hdb := commitLedger_failed (AgentOutput.ledger.inj herror) hcertain
    rw [hdb]

theorem recovered_claim_fenced :
    Stale (final AgentState.step {} sampleRecovery).db sampleIssued 3 ∧
    ∀ c ∈ [LedgerCall.markPrepared sampleIssued 3, .renew sampleIssued 3,
      .markIoStarted sampleIssued 3 "again", .notePermissionDelivered sampleIssued samplePermit 3,
      .finish sampleIssued sampleResult 3, .failBeforeIo sampleIssued "late" "print.late" 3],
      ∃ message, (final AgentState.step {} sampleRecovery).step (.ledger sampleEnv c .done) =
        (final AgentState.step {} sampleRecovery, .ledger (.error (.leaseLost message))) := by
  have hstale : Stale (final AgentState.step {} sampleRecovery).db sampleIssued 3 := by
    decide +kernel
  refine ⟨hstale, fun c hc => ?_⟩
  refine (stale_claims_fenced sampleRecovery sampleEnv c .done).1 sampleIssued 3 ?_ hstale
  simp only [List.mem_cons, List.not_mem_nil, or_false] at hc
  rcases hc with rfl | rfl | rfl | rfl | rfl | rfl <;> rfl

def sampleClaimed : List AgentEvent :=
  sampleAdmission ++
  [.ledger sampleEnv (.claimNext sampleOwner none 1 ⟨"attempt", "lease", "execution", "temp"⟩) .done]

theorem uncertain_commit_writes :
    ((final AgentState.step {} sampleClaimed).step
      (.ledger sampleEnv (.markPrepared sampleIssued 1) (.uncertain true))).2 =
        .ledger (.error .databaseCommitUncertain) ∧
    ((final AgentState.step {} sampleClaimed).step
      (.ledger sampleEnv (.markPrepared sampleIssued 1) (.uncertain true))).1.db.attempts.rows.map
        AttemptRow.phase = [.prepared] ∧
    (final AgentState.step {} sampleClaimed).db.attempts.rows.map AttemptRow.phase = [.claimed] := by
  decide +kernel

end Inari.Agent
