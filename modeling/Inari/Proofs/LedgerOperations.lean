import Inari.Agent.System
import Inari.Proofs.LedgerEffects

/-!
# What the operations of the ledger do

Each operation that commits takes a few steps: jobs expire, a job is claimed, its Device I/O
starts, a claim ends or an attempt is recovered.
-/

namespace Inari.Agent

open Lib

namespace SqliteExecutionLedger

variable {db db' : Db} {now : Time} {job : PrintJobRow} {c : ExecutionClaim} {env : LedgerEnv}
  {receipt : ExecutionReceipt} {codes : String → String → Prop} {a : AttemptRow}
  {owner : ExecutionOwner} {ids : ClaimIds} {report report' : RecoveryReport}

lemma attempt_eq_of_id (db : Db) {a b : AttemptRow} (ha : a ∈ db.attempts.rows)
    (hb : b ∈ db.attempts.rows) (h : a.attemptId = b.attemptId) : a = b :=
  db.attempts.eq_of_key (u := AttemptRow.primaryKey) (by simp [AttemptRow.spec]) ha hb
    (k := b.attemptId) (by simp [AttemptRow.primaryKey, h]) rfl

lemma executions_kept {p : AttemptRow → Bool} {f : AttemptRow → AttemptRow}
    (hrows : db'.attempts.rows = Table.updated db.attempts.rows p f)
    (hf : ∀ a, p a = true → (f a).execution = a.execution) : db'.executions = db.executions := by
  rw [Db.executions, hrows]
  exact Table.map_updated _ (fun a _ ha => hf a ha)

lemma executions_updated {p : AttemptRow → Bool} {f : AttemptRow → AttemptRow} {n : Execution}
    (ha : a ∈ db.attempts.rows) (hrows : db'.attempts.rows = Table.updated db.attempts.rows p f)
    (hpa : p a = true) (hp : ∀ b, p b = true → b.attemptId = a.attemptId) (hn : (f a).execution = n) :
    db'.executions = db.executions.map (Function.update id a.execution n) := by
  rw [Db.executions, hrows, Table.updated, List.map_map, Db.executions, List.map_map]
  apply List.map_congr_left
  intro b hb
  by_cases hid : b.attemptId = a.attemptId
  · obtain rfl := attempt_eq_of_id db hb ha hid
    simp [hpa, hn]
  · have hne : b.execution ≠ a.execution := fun h => hid (congrArg Execution.attemptId h)
    have hpb : ¬p b = true := fun h => hid (hp b h)
    simp [hpb, Function.update_of_ne hne]

lemma fence_spec {phase : Option AttemptPhase} (h : fence c phase now a = true) :
    a.attemptId = c.attemptId ∧ (∀ p, phase = some p → a.phase = p) ∧
      (phase = none → a.phase.active = true) := by
  simp only [fence, Bool.and_eq_true, beq_iff_eq] at h
  refine ⟨h.1.1.1.1.1, ?_, ?_⟩
  · rintro p rfl
    simpa using h.2
  · rintro rfl
    exact h.2

lemma attemptOf_spec {phase : Option AttemptPhase} (h : attemptOf db c phase now = .ok a) :
    a ∈ db.attempts.rows ∧ a.attemptId = c.attemptId ∧ (∀ p, phase = some p → a.phase = p) ∧
      (phase = none → a.phase.active = true) := by
  rw [attemptOf, orRaise_ok] at h
  obtain ⟨hmem, hfence⟩ := Table.first_spec h
  exact ⟨hmem, fence_spec hfence⟩

variable {p : ReservationRow → Bool}

lemma holds_kept {f : ReservationRow → ReservationRow}
    (hrows : db'.reservations.rows = Table.updated db.reservations.rows p f)
    (hf : ∀ r ∈ db.reservations.rows, p r = true → (f r).hold = r.hold) : db'.holds = db.holds := by
  rw [Db.holds, hrows, Table.updated, List.filterMap_map]
  apply List.filterMap_congr
  intro r hr
  by_cases hp : p r = true
  · simp [hp, hf r hr hp]
  · simp [hp]

def heldBy (claim : ExecutionClaim) (r : ReservationRow) : Bool :=
  r.jobId == some claim.jobId && r.ownerId == claim.owner.ownerId &&
  r.ownerGeneration == claim.owner.generation && r.reservationKind == .executionTemp &&
  r.state == .held

@[simp] lemma hold_releasedRow (r : ReservationRow) : (releasedRow now r).hold = none := by
  simp [releasedRow, ReservationRow.hold]

lemma holds_released {q : Hold → Bool}
    (hrows : db'.reservations.rows = Table.updated db.reservations.rows p (releasedRow now))
    (hp : ∀ r, p r = r.hold.any q) : db'.holds = db.holds.filter (fun h => !q h) := by
  rw [Db.holds, hrows, Table.updated, List.filterMap_map, Db.holds, List.filter_filterMap]
  apply List.filterMap_congr
  intro r _
  simp only [Function.comp_apply, hp]
  cases hr : r.hold with
  | none => simp [hr]
  | some h => by_cases hq : q h = true <;> simp [hq, hr, Option.filter]

def coveredBy (c : ExecutionClaim) (h : Hold) : Bool :=
  h.jobId == some c.jobId && h.ownerId == c.owner.ownerId &&
  h.ownerGeneration == c.owner.generation

lemma heldBy_eq (c : ExecutionClaim) (r : ReservationRow) :
    heldBy c r = r.hold.any (coveredBy c) := by
  unfold ReservationRow.hold
  split
  · rename_i h
    simp [heldBy, coveredBy, h.1, h.2]
  · rename_i h
    rw [Option.any_none, ← Bool.not_eq_true]
    intro hheld
    simp only [heldBy, Bool.and_eq_true, beq_iff_eq] at hheld
    exact h ⟨hheld.1.2, hheld.2⟩

lemma heldBy_kind {r : ReservationRow} (h : heldBy c r = true) :
    r.reservationKind = .executionTemp := by
  simp only [heldBy, Bool.and_eq_true, beq_iff_eq] at h
  exact h.1.2

/-- A reservation in force was in force before, for the same job. -/
def ReservationsKept (db db' : Db) : Prop :=
  ∀ r' ∈ db'.reservations.rows, r'.state.active = true →
    ∃ r ∈ db.reservations.rows, r.jobId = r'.jobId ∧ r.state.active = true

lemma reservationsKept_updated {f : ReservationRow → ReservationRow}
    (hrows : db'.reservations.rows = Table.updated db.reservations.rows p f)
    (hf : ∀ r, (f r).jobId = r.jobId ∧ ((f r).state.active = true → r.state.active = true)) :
    ReservationsKept db db' := by
  intro r' hr' hactive
  rcases Table.updated_cases hrows hr' with ⟨hr, -⟩ | ⟨r, hr, -, rfl⟩
  · exact ⟨r', hr, rfl, hactive⟩
  · exact ⟨r, hr, (hf r).1.symm, (hf r).2 hactive⟩

/-- Attempts and execution reservations change where no other table depends on them. -/
structure Touches (db db' : Db) : Prop where
  frame : LedgerFrame db db'
  jobs : db'.jobs = db.jobs
  events : db'.events = db.events
  executions : db'.executions = db.executions
  holds : db'.holds = db.holds
  kept : ReservationsKept db db'

structure IoStarts (codes : String → String → Prop) (c : ExecutionClaim) (db db' : Db) : Prop where
  frame : LedgerFrame db db'
  job : ∃ job, job.id = c.jobId ∧ job.state = .accepted ∧ JobUpdate codes db db' job .inProgress
  attempt : ∃ a ∈ db.attempts.rows, a.attemptId = c.attemptId ∧ a.phase = .prepared ∧
    db'.executions = db.executions.map
      (Function.update id a.execution { a.execution with stage := .started, marked := true })
  reservations : db'.reservations = db.reservations

/-- The job of the claim gets a final state, its attempt is over and the Device is released. -/
structure ClaimEnds (codes : String → String → Prop) (c : ExecutionClaim) (before : PrintJobState)
    (db db' : Db) : Prop where
  frame : LedgerFrame db db'
  job : ∃ job state, job.id = c.jobId ∧ job.state = before ∧ state ≠ .accepted ∧
    state ≠ .inProgress ∧ JobUpdate codes db db' job state
  attempt : ∃ a ∈ db.attempts.rows, a.attemptId = c.attemptId ∧ a.phase.active = true ∧
    db'.executions = db.executions.map
      (Function.update id a.execution { a.execution with stage := .over })
  holds : db'.holds = db.holds.filter (fun h => !coveredBy c h)

/-- The attempt has no marker and its job expires, or the outcome of its job is unknown. -/
def EndsJob (a : AttemptRow) (now : Time) (job : PrintJobRow) : Prop :=
  (a.markerId = none ∧ job.state = .accepted ∧ job.expiresAt ≤ now) ∨
    (a.markerId ≠ none ∧ job.state = .inProgress)

structure Recovers (codes : String → String → Prop) (a : AttemptRow) (now : Time) (db db' : Db) :
    Prop where
  frame : LedgerFrame db db'
  job : (db'.jobs = db.jobs ∧ db'.events = db.events ∧
      (a.markerId = none ∨ ∀ j ∈ db.jobs.rows, j.id = a.jobId → j.state ≠ .inProgress)) ∨
    ∃ job state, job.id = a.jobId ∧ EndsJob a now job ∧ state ≠ .accepted ∧ state ≠ .inProgress ∧
      JobUpdate codes db db' job state
  attempts : db'.attempts.rows = Table.updated db.attempts.rows
    (fun b => b.attemptId == a.attemptId)
    (fun b => { b with phase := .recovered, updatedAt := now, finishedAt := some now })
  holds : db'.holds = db.holds.filter (fun h => !(h.jobId == some a.jobId))
  kept : ReservationsKept db db'

lemma touches_attempts {attempts : Table AttemptRow.spec} {p : AttemptRow → Bool}
    {f : AttemptRow → AttemptRow} (h : attempts.rows = Table.updated db.attempts.rows p f)
    (hf : ∀ a, p a = true → (f a).execution = a.execution) :
    Touches db { db with attempts := attempts } :=
  ⟨⟨rfl, rfl, rfl, rfl, .of_eq rfl rfl⟩, rfl, rfl, executions_kept h hf, rfl,
    fun r hr hactive => ⟨r, hr, rfl, hactive⟩⟩

lemma markPrepared_touches (h : markPrepared db c now = .ok db') : Touches db db' := by
  simp only [markPrepared, bind_ok, pure_ok] at h
  obtain ⟨attempts, hatt, -, -, rfl⟩ := h
  refine touches_attempts (Table.update_rows hatt) fun a ha => ?_
  have hphase := (fence_spec ha).2.1 _ rfl
  simp [AttemptRow.execution, hphase, AttemptPhase.stage]

lemma notePermissionDelivered_touches {permit : IoPermit}
    (h : notePermissionDelivered db c permit now = .ok db') : Touches db db' := by
  simp only [notePermissionDelivered, bind_ok, pure_ok] at h
  obtain ⟨attempts, hatt, -, -, rfl⟩ := h
  refine touches_attempts (Table.update_rows hatt) fun a ha => ?_
  have hphase := (fence_spec (Bool.and_eq_true_iff.mp ha).1).2.1 _ rfl
  simp [AttemptRow.execution, hphase, AttemptPhase.stage]

lemma renew_touches {c' : ExecutionClaim} (h : renew env db c now = .ok (db', c')) :
    Touches db db' ∧ c'.attemptId = c.attemptId ∧ c'.jobId = c.jobId ∧ c'.owner = c.owner := by
  simp only [renew, bind_ok, pure_ok, Prod.mk.injEq] at h
  obtain ⟨attempts, hatt, -, -, reservations, hres, rfl, rfl⟩ := h
  have hrows := Table.update_rows hres
  exact ⟨⟨⟨rfl, rfl, rfl, admissionReservations_updated hrows (fun _ h => heldBy_kind h)
    (fun _ => rfl), .of_eq rfl rfl⟩, rfl, rfl,
    executions_kept (Table.update_rows hatt) (fun _ _ => rfl),
    holds_kept hrows (fun _ _ _ => rfl), reservationsKept_updated hrows (fun _ => ⟨rfl, id⟩)⟩,
    rfl, rfl, rfl⟩

lemma claim_eq {lease : Time} (h : claim env db job owner now lease ids = .ok (db', c)) :
    ∃ attempts reservations held,
      db' = { db with attempts := attempts, reservations := reservations } ∧
      reservations.rows = db.reservations.rows ++ [held] ∧
      held.reservationKind = .executionTemp ∧ held.jobId = some job.id ∧ c.jobId = job.id := by
  simp only [claim, bind_ok, pure_ok, Prod.mk.injEq] at h
  obtain ⟨_, -, _, -, _, -, _, -, _, -, _, -, reservations, hres, attempts, -, rfl, rfl⟩ := h
  exact ⟨attempts, reservations, _, rfl, Table.insert_rows hres, rfl, rfl, rfl⟩

lemma matched_of_rowcount {jobId : String} {state : PrintJobState} {v : Nat}
    (hjob : job ∈ db.jobs.rows) (hid : job.id = jobId)
    (hcount : db.jobs.rowcount (fun r => r.id == jobId && r.state == state &&
      r.stateVersion == v) = 1) : job.state = state ∧ job.stateVersion = v := by
  have hpos : 0 < db.jobs.rows.countP (fun r => r.id == jobId && r.state == state &&
      r.stateVersion == v) := by
    rw [Table.rowcount] at hcount; omega
  obtain ⟨r, hr, hp⟩ := List.countP_pos_iff.mp hpos
  simp only [Bool.and_eq_true, beq_iff_eq] at hp
  have : r = job := job_eq_of_id db hr hjob (hp.1.1.trans hid.symm)
  exact this ▸ ⟨hp.1.2, hp.2⟩

lemma markIoStarted_starts {markerId : String} {permit : IoPermit}
    (h : markIoStarted env db c now markerId = .ok (db', permit)) :
    IoStarts codes c db db' ∧ permit.jobId = c.jobId := by
  simp only [markIoStarted, bind_ok, require_ok, pure_ok, Prod.mk.injEq] at h
  obtain ⟨attempt, hatt, job, hjob, -, hstate, -, -, -, -, -, -, jobs, hjobs, -, -,
    ⟨db1, n⟩, hev, attempts, hattempts, -, -, rfl, rfl⟩ := h
  obtain ⟨hmem, hid⟩ := jobOf_spec hjob
  obtain ⟨ha, haid, hphase, -⟩ := attemptOf_spec hatt
  obtain ⟨events, rfl, hevents, -⟩ := insertEvent_eq hev
  simp only [Bool.and_eq_true, beq_iff_eq] at hstate
  obtain ⟨hstate, hversion⟩ := hstate
  have hu : JobUpdate codes db { db with jobs, events, attempts } job .inProgress := by
    refine ⟨hmem, .inl hstate, _, _, now, (Table.update_rows hjobs).trans
      (updated_job hmem (by simp [hid, hstate, hversion]) (by simp +contextual [hid])),
      hid ▸ hevents, fun _ => ⟨rfl, rfl⟩, fun hclean => ?_⟩
    obtain ⟨hterminal, herr, hkey, hev⟩ := clean_live hclean (.inl hstate)
    have hw := @JobWrite.start codes job.view now hstate
    refine ⟨?_, rfl, ?_⟩
    · simp [snapshot, PrintJobRow.view, hterminal, herr, hkey, hev]
    · simpa [snapshot, PrintJobRow.view, hterminal, herr, hkey, hev] using hw
  refine ⟨⟨⟨rfl, rfl, rfl, rfl, hu.frame⟩, ⟨job, hid, hstate, hu⟩, ⟨attempt, ha, haid, hphase _ rfl,
    ?_⟩, rfl⟩, rfl⟩
  refine executions_updated ha (Table.update_rows hattempts) (by simp [hphase _ rfl]) ?_ rfl
  intro b hb
  simp only [Bool.and_eq_true, beq_iff_eq] at hb
  exact hb.1

lemma resultState_cases (result : DriverExecutionResult) :
    (∃ evidence, resultState result = (.outputConfirmed, some evidence, none, none)) ∨
    (∃ code key, resultState result = (.failed, none, some code, some key)) ∨
    (∃ code key, resultState result = (.outcomeUnknown, none, some code, some key)) := by
  unfold resultState
  split
  · exact .inl ⟨_, rfl⟩
  · exact .inr (.inl ⟨_, _, rfl⟩)
  · exact .inr (.inr ⟨_, _, rfl⟩)

def ResultCodes (codes : String → String → Prop) (result : DriverExecutionResult) : Prop :=
  ∀ state code key, resultState result = (state, none, some code, some key) → codes code key

lemma finish_write (hclean : JobClean job.view) (hstate : job.state = .inProgress)
    {result : DriverExecutionResult} (hc : ResultCodes codes result) :
    JobWrite codes job.view (snapshot job (resultState result).1 (job.stateVersion + 1) none
      (some now) (resultState result).2.2.1 (resultState result).2.2.2 (resultState result).2.1) := by
  obtain ⟨-, herr, hkey, hev⟩ := clean_live hclean (.inr hstate)
  obtain ⟨evidence, h⟩ | ⟨code, key, h⟩ | ⟨code, key, h⟩ := resultState_cases result
  · have hw := @JobWrite.confirm codes job.view now evidence hstate
    simpa [h, snapshot, PrintJobRow.view, herr, hkey] using hw
  · have hw := @JobWrite.fail codes job.view now code key hstate (hc _ _ _ h)
    simpa [h, snapshot, PrintJobRow.view, hev] using hw
  · have hw := @JobWrite.unknown codes job.view now code key hstate (hc _ _ _ h)
    simpa [h, snapshot, PrintJobRow.view, hev] using hw

lemma releaseReservation_claim (h : releaseReservation db c now = .ok db') :
    ∃ reservations, db' = { db with reservations := reservations } ∧
      admissionReservations db' = admissionReservations db ∧
      db'.holds = db.holds.filter (fun h => !coveredBy c h) := by
  simp only [releaseReservation, bind_ok, pure_ok] at h
  obtain ⟨reservations, hres, rfl⟩ := h
  have hrows := Table.update_rows hres
  exact ⟨reservations, rfl, admissionReservations_updated hrows (fun _ h => heldBy_kind h)
    (fun _ => rfl), holds_released hrows (heldBy_eq c)⟩

lemma finish_ends {result : DriverExecutionResult}
    (hc : ∀ assessed, assessEvidence env db c result = .ok assessed → ResultCodes codes assessed)
    (h : finish env db c result now = .ok (db', receipt)) : ClaimEnds codes c .inProgress db db' := by
  simp only [finish, bind_ok, require_ok, pure_ok, Prod.mk.injEq] at h
  obtain ⟨attempt, hatt, job, hjob, assessed, hass, jobs, hjobs, -, hcount, ⟨db1, n⟩, hev,
    attempts, hattempts, db2, hrel, db3, hsched, rfl, -⟩ := h
  obtain ⟨hmem, hid⟩ := jobOf_spec hjob
  obtain ⟨ha, haid, hphase, -⟩ := attemptOf_spec hatt
  obtain ⟨events, rfl, hevents, -⟩ := insertEvent_eq hev
  obtain ⟨reservations, rfl, hadmission, hholds⟩ := releaseReservation_claim hrel
  obtain ⟨artifacts, jobKeys, rfl⟩ := scheduleArtifactRelease_eq hsched
  obtain ⟨hstate, hversion⟩ := matched_of_rowcount hmem hid (by simpa using hcount)
  have hu : JobUpdate codes db { db with jobs, events, attempts, reservations, artifacts, jobKeys } job
      (resultState assessed).1 := by
    refine ⟨hmem, .inr hstate, _, _, now, (Table.update_rows hjobs).trans
      (updated_job hmem (by simp [hid, hstate, hversion]) (by simp +contextual [hid])),
      hid ▸ hevents, fun _ => ⟨rfl, rfl⟩, fun hclean => ⟨?_, rfl, ?_⟩⟩
    · simp [snapshot, PrintJobRow.view]
    · exact finish_write hclean hstate (hc assessed hass)
  have hended : (resultState assessed).1 ≠ .accepted ∧ (resultState assessed).1 ≠ .inProgress := by
    obtain ⟨_, h⟩ | ⟨_, _, h⟩ | ⟨_, _, h⟩ := resultState_cases assessed <;> simp [h]
  exact ⟨⟨rfl, rfl, rfl, hadmission, hu.frame⟩, ⟨job, _, hid, hstate, hended.1, hended.2, hu⟩,
    ⟨attempt, ha, haid, by rw [hphase _ rfl]; rfl, executions_updated ha (Table.update_rows hattempts)
      (by simp [haid]) (by simp [haid]) rfl⟩, hholds⟩

lemma failBeforeIo_ends {errorCode messageKey : String} (hc : codes errorCode messageKey)
    (h : failBeforeIo db c errorCode messageKey now = .ok (db', receipt)) :
    ClaimEnds codes c .accepted db db' := by
  simp only [failBeforeIo, bind_ok, require_ok, pure_ok, Prod.mk.injEq] at h
  obtain ⟨attempt, hatt, -, -, job, hjob, jobs, hjobs, -, hcount, ⟨db1, n⟩, hev, attempts,
    hattempts, db2, hrel, db3, hsched, rfl, -⟩ := h
  obtain ⟨hmem, hid⟩ := jobOf_spec hjob
  obtain ⟨ha, haid, -, hactive⟩ := attemptOf_spec hatt
  obtain ⟨events, rfl, hevents, -⟩ := insertEvent_eq hev
  obtain ⟨reservations, rfl, hadmission, hholds⟩ := releaseReservation_claim hrel
  obtain ⟨artifacts, jobKeys, rfl⟩ := scheduleArtifactRelease_eq hsched
  obtain ⟨hstate, hversion⟩ := matched_of_rowcount hmem hid (by simpa using hcount)
  have hu : JobUpdate codes db { db with jobs, events, attempts, reservations, artifacts, jobKeys } job
      (if job.expiresAt ≤ now then .expired else .failed) := by
    refine ⟨hmem, .inl hstate, _, _, now, (Table.update_rows hjobs).trans
      (updated_job hmem (by simp [hid, hstate, hversion]) (by simp +contextual [hid])),
      hid ▸ hevents, fun _ => ⟨rfl, rfl⟩, fun hclean => ?_⟩
    obtain ⟨-, herr, hkey, hev⟩ := clean_live hclean (.inl hstate)
    refine ⟨by simp [snapshot, PrintJobRow.view, hev], rfl, ?_⟩
    by_cases hexp : job.expiresAt ≤ now
    · have hw := @JobWrite.expire codes job.view now hstate
      simpa [hexp, snapshot, PrintJobRow.view, herr, hkey, hev] using hw
    · have hw := @JobWrite.reject codes job.view now errorCode messageKey hstate hc
      simpa [hexp, snapshot, PrintJobRow.view, hev] using hw
  exact ⟨⟨rfl, rfl, rfl, hadmission, hu.frame⟩,
    ⟨job, _, hid, hstate, by split <;> simp, by split <;> simp, hu⟩,
    ⟨attempt, ha, haid, hactive rfl, executions_updated ha (Table.update_rows hattempts)
      (by simp [haid]) (by simp [haid]) rfl⟩, hholds⟩

lemma abandonAfterMarker_ends (hc : codes "outcome_unknown" "print.outcome_unknown")
    (h : abandonAfterMarker db c now = .ok (db', receipt)) : ClaimEnds codes c .inProgress db db' := by
  simp only [abandonAfterMarker, bind_ok, require_ok, pure_ok, Prod.mk.injEq, orRaise_ok,
    beq_iff_eq] at h
  obtain ⟨attempt, hatt, job, hjob, -, hstate, db1, hrec, attempts, hattempts, db2, hrel, rfl,
    -⟩ := h
  obtain ⟨ha, hfence⟩ := Table.first_spec hatt
  simp only [Bool.and_eq_true, Bool.or_eq_true, beq_iff_eq] at hfence
  obtain ⟨⟨⟨⟨⟨haid, -⟩, -⟩, -⟩, hphase⟩, -⟩ := hfence
  obtain ⟨hmem, hid⟩ := jobOf_spec hjob
  have hends : JobEnds codes job .outcomeUnknown db db1 := recoverUnknown_ends hc hmem hstate hrec
  obtain ⟨reservations, rfl, hadmission, hholds⟩ := releaseReservation_claim hrel
  have hu : JobUpdate codes db { db1 with attempts, reservations } job .outcomeUnknown :=
    ⟨hmem, .inr hstate, hends.update.write⟩
  have hrows := Table.update_rows hattempts
  rw [hends.attempts] at hrows
  refine ⟨⟨hends.frame.1, hends.frame.2, hends.frame.3, hadmission.trans hends.frame.4, hu.frame⟩,
    ⟨job, .outcomeUnknown, hid, hstate, by simp, by simp, hu⟩, ⟨attempt, ha, haid, ?_,
    executions_updated ha hrows (by simp [haid]) (by simp [haid]) rfl⟩, ?_⟩
  · rcases hphase with hphase | hphase <;> rw [hphase] <;> rfl
  · rw [hholds]
    simp only [Db.holds, hends.reservations]

lemma recoverJob_cases (hc : codes "outcome_unknown" "print.outcome_unknown")
    (hjob : job ∈ db.jobs.rows) (h : recoverJob db a job now report = .ok (db', report')) :
    (db' = db ∧ (a.markerId = none ∨ job.state ≠ .inProgress)) ∨
      ∃ state, EndsJob a now job ∧ state ≠ .accepted ∧ state ≠ .inProgress ∧
        JobEnds codes job state db db' := by
  unfold recoverJob at h
  split at h
  next hmarker =>
    have hmarker := Option.isNone_iff_eq_none.mp hmarker
    split at h
    next hexp =>
      simp only [bind_ok, pure_ok, Prod.mk.injEq] at h
      obtain ⟨db1, h1, rfl, -⟩ := h
      exact .inr ⟨.expired, .inl ⟨hmarker, hexp⟩, by simp, by simp,
        expireAccepted_ends hjob hexp.1 h1⟩
    next =>
      obtain ⟨rfl, -⟩ := Prod.mk.inj (pure_ok.mp h)
      exact .inl ⟨rfl, .inl hmarker⟩
  next hmarker =>
    split at h
    next hstate =>
      simp only [bind_ok, pure_ok, Prod.mk.injEq] at h
      obtain ⟨db1, h1, rfl, -⟩ := h
      exact .inr ⟨.outcomeUnknown, .inr ⟨by simpa using hmarker, hstate⟩, by simp, by simp,
        recoverUnknown_ends hc hjob hstate h1⟩
    next hstate =>
      obtain ⟨rfl, -⟩ := Prod.mk.inj (pure_ok.mp h)
      exact .inl ⟨rfl, .inr hstate⟩

lemma recoverAttempt_recovers (hc : codes "outcome_unknown" "print.outcome_unknown")
    (h : recoverAttempt db a now report = .ok (db', report')) : Recovers codes a now db db' := by
  simp only [recoverAttempt, bind_ok, pure_ok, Prod.mk.injEq] at h
  obtain ⟨job, hjob, ⟨db1, report1⟩, hrec, attempts, hattempts, reservations, hres, rfl, -⟩ := h
  obtain ⟨hmem, hid⟩ := jobOf_spec hjob
  have hrows := Table.update_rows hres
  have hadmission : admissionReservations { db1 with attempts, reservations } =
      admissionReservations db1 := by
    refine admissionReservations_updated hrows (fun r hr => ?_) (fun _ => rfl)
    simp only [Bool.and_eq_true, beq_iff_eq] at hr
    exact hr.1.2
  have hreleased : ∀ r : ReservationRow, (r.jobId == some a.jobId &&
      r.reservationKind == .executionTemp && r.state == .held) =
        r.hold.any (fun h => h.jobId == some a.jobId) := by
    intro r
    unfold ReservationRow.hold
    split
    next hr => simp [hr.1, hr.2]
    next hr =>
      rw [Option.any_none, ← Bool.not_eq_true]
      intro hp
      simp only [Bool.and_eq_true, beq_iff_eq] at hp
      exact hr ⟨hp.1.2, hp.2⟩
  rcases recoverJob_cases hc hmem hrec with ⟨rfl, hidle⟩ | ⟨state, hends, hne, hne', hjobEnds⟩
  · refine ⟨⟨rfl, rfl, rfl, hadmission, .of_eq rfl rfl⟩, .inl ⟨rfl, rfl, hidle.imp_right ?_⟩,
      Table.update_rows hattempts, holds_released hrows hreleased,
      reservationsKept_updated hrows fun _ => ⟨rfl, by simp [ReservationState.active]⟩⟩
    intro hstate j hj hjid
    rwa [job_eq_of_id db1 hj hmem (hjid.trans hid.symm)]
  · obtain ⟨hu, hframe, hatt, hres1⟩ := hjobEnds
    rw [hatt] at hattempts
    rw [hres1] at hrows
    have hu' : JobUpdate codes db { db1 with attempts, reservations } job state :=
      ⟨hmem, hu.live, hu.write⟩
    exact ⟨⟨hframe.1, hframe.2, hframe.3, hadmission.trans hframe.4, hu'.frame⟩,
      .inr ⟨job, state, hid, hends, hne, hne', hu'⟩, Table.update_rows hattempts,
      holds_released hrows hreleased,
      reservationsKept_updated hrows fun _ => ⟨rfl, by simp [ReservationState.active]⟩⟩

/-- The job expires; it was read as accepted when the operation started. -/
def Expires (codes : String → String → Prop) (start : Db) (deviceId : Option String) (now : Time)
    (db db' : Db) : Prop :=
  ∃ job ∈ start.jobs.rows, job.state = .accepted ∧ job.expiresAt ≤ now ∧
    (deviceId = none ∨ deviceId = some job.deviceId) ∧ JobEnds codes job .expired db db'

/-- The loop came to the end, or claimed an accepted job whose Device was free. -/
def ClaimResult (env : LedgerEnv) (owner : ExecutionOwner) (now : Time) (ids : ClaimIds)
    (db db' : Db) (r : Option ExecutionClaim) : Prop :=
  (db' = db ∧ r = none) ∨ ∃ job ∈ db.jobs.rows, job.state = .accepted ∧
    ¬deviceIsBusy env db job.deviceId now = true ∧ ∃ c, r = some c ∧
      claim env db job owner now (now + env.leaseDuration) ids = .ok (db', c)

/-- The rows that the loop still has to look at are current. -/
lemma claimLoop_cases {deviceId : Option String} {start : Db} {jobs : List PrintJobRow}
    {r : Option ExecutionClaim}
    (hjobs : ∀ job ∈ jobs, job ∈ start.jobs.rows ∧ job ∈ db.jobs.rows ∧ job.state = .accepted)
    (hids : jobs.Pairwise (fun a b => a.id ≠ b.id))
    (h : claimLoop env owner deviceId now ids db jobs = .ok (db', r)) :
    ∃ db1, Relation.ReflTransGen (Expires codes start deviceId now) db db1 ∧
      ClaimResult env owner now ids db1 db' r := by
  induction jobs generalizing db with
  | nil =>
    obtain ⟨rfl, rfl⟩ := Prod.mk.inj (Except.ok.inj h)
    exact ⟨db, .refl, .inl ⟨rfl, rfl⟩⟩
  | cons job rest ih =>
    obtain ⟨hne, hids⟩ := List.pairwise_cons.mp hids
    obtain ⟨hstart, hmem, hstate⟩ := hjobs job List.mem_cons_self
    have hrest : ∀ job ∈ rest, job ∈ start.jobs.rows ∧ job ∈ db.jobs.rows ∧ job.state = .accepted :=
      fun job' h' => hjobs job' (List.mem_cons_of_mem _ h')
    rw [claimLoop] at h
    split at h
    · exact ih hrest hids h
    next hdevice =>
    split at h
    next hexp =>
      obtain ⟨db1, hexpired, h⟩ := bind_ok.mp h
      have hends : JobEnds codes job .expired db db1 := expireAccepted_ends hmem hstate hexpired
      have hdevice' : deviceId = none ∨ deviceId = some job.deviceId := by
        cases deviceId with
        | none => exact .inl rfl
        | some => exact .inr (by simpa using hdevice)
      obtain ⟨db2, hchain, hresult⟩ := ih (fun job' h' => ⟨(hrest job' h').1,
        hends.update.row_mem (hrest job' h').2.1 (Ne.symm (hne job' h')), (hrest job' h').2.2⟩) hids h
      exact ⟨db2, .head ⟨job, hstart, hstate, hexp, hdevice', hends⟩ hchain, hresult⟩
    next =>
    split at h
    · exact ih hrest hids h
    next hbusy =>
      simp only [bind_ok, pure_ok, Prod.mk.injEq] at h
      obtain ⟨⟨db1, c⟩, hclaim, rfl, rfl⟩ := h
      exact ⟨db, .refl, .inr ⟨job, hmem, hstate, hbusy, c, rfl, hclaim⟩⟩

lemma claimNext_cases (codes : String → String → Prop) {deviceId : Option String}
    {r : Option ExecutionClaim} (h : claimNext env db owner deviceId now ids = .ok (db', r)) :
    ∃ db1, Relation.ReflTransGen (Expires codes db deviceId now) db db1 ∧
      ClaimResult env owner now ids db1 db' r := by
  have hperm := List.perm_insertionSort claimOrder (db.jobs.select (fun r => r.state == .accepted))
  refine claimLoop_cases ?_ ?_ h
  · intro job hjob
    obtain ⟨hmem, hstate⟩ := List.mem_filter.mp (hperm.mem_iff.mp hjob)
    exact ⟨hmem, hmem, beq_iff_eq.mp hstate⟩
  · refine (hperm.pairwise_iff (fun hab => Ne.symm hab)).mpr ?_
    refine (db.jobs.select_pairwise (u := PrintJobRow.primaryKey) (by simp [PrintJobRow.spec]) _).imp
      ?_
    intro a b hab hid
    exact hab b.id (congrArg some hid) rfl

end SqliteExecutionLedger

open SqliteExecutionLedger

structure OwnCodes (codes : String → String → Prop) : Prop where
  unknown : codes "outcome_unknown" "print.outcome_unknown"
  evidence : codes "output_evidence_insufficient" "print.output_evidence_insufficient"
  service : codes "service_unavailable" "print.service_unavailable"

def LedgerCall.Codes (codes : String → String → Prop) : LedgerCall → Prop
  | .finish _ result _ => ResultCodes codes result
  | .failBeforeIo _ errorCode messageKey _ => codes errorCode messageKey
  | _ => True

def anyCodes (_ _ : String) : Prop := True

lemma anyCodes_own : OwnCodes anyCodes := ⟨trivial, trivial, trivial⟩

lemma anyCodes_call (c : LedgerCall) : c.Codes anyCodes := by
  cases c with
  | finish => exact fun _ _ _ _ => trivial
  | _ => trivial

def LedgerCall.Ends (db : Db) : LedgerCall → Prop
  | .claimNext _ deviceId now _ => ∃ j ∈ db.jobs.rows, j.state = .accepted ∧ j.expiresAt ≤ now ∧
      (deviceId = none ∨ deviceId = some j.deviceId)
  | .finish claim _ _ | .abandonAfterMarker claim _ =>
    ∃ j ∈ db.jobs.rows, j.id = claim.jobId ∧ j.state = .inProgress
  | .failBeforeIo claim _ _ _ => ∃ j ∈ db.jobs.rows, j.id = claim.jobId ∧ j.state = .accepted
  | .recover owner now => ∃ a ∈ db.attempts.rows, recoverable owner now a = true ∧
      ∃ j ∈ db.jobs.rows, j.id = a.jobId ∧ EndsJob a now j
  | .markPrepared _ _ | .renew _ _ | .markIoStarted _ _ _ | .notePermissionDelivered _ _ _ => False

def LedgerCall.claim? : LedgerCall → Option ExecutionClaim
  | .claimNext .. | .recover .. => none
  | .markPrepared c _ | .renew c _ | .markIoStarted c _ _ | .notePermissionDelivered c _ _
  | .finish c _ _ | .failBeforeIo c _ _ _ | .abandonAfterMarker c _ => some c

/-- One step of an operation that found the tables `start`. -/
inductive LedgerStep (codes : String → String → Prop) (env : LedgerEnv) (start : Db) :
    LedgerCall → Db → Db → Prop
  | touches {c db db'} (h : Touches db db') : LedgerStep codes env start c db db'
  | expires {owner deviceId now ids db db'} (h : Expires codes start deviceId now db db') :
      LedgerStep codes env start (.claimNext owner deviceId now ids) db db'
  | claims {owner deviceId now ids db db' job claim} (hjob : job ∈ db.jobs.rows)
      (hstate : job.state = .accepted) (hfree : ¬deviceIsBusy env db job.deviceId now = true)
      (h : SqliteExecutionLedger.claim env db job owner now (now + env.leaseDuration) ids =
        .ok (db', claim)) :
      LedgerStep codes env start (.claimNext owner deviceId now ids) db db'
  | starts {claim now markerId db db'} (h : IoStarts codes claim db db') :
      LedgerStep codes env start (.markIoStarted claim now markerId) db db'
  | ends {c claim before db db'} (hc : c.claim? = some claim) (hends : c.Ends start)
      (h : ClaimEnds codes claim before db db') : LedgerStep codes env start c db db'
  | recovers {owner now a db db'} (ha : a ∈ db.attempts.rows) (hactive : a.phase.active = true)
      (hends : db'.jobs = db.jobs ∨ (LedgerCall.recover owner now).Ends start)
      (h : Recovers codes a now db db') : LedgerStep codes env start (.recover owner now) db db'

section Chain

variable {db db' start : Db} {codes : String → String → Prop} {env : LedgerEnv} {now : Time}
  {owner : ExecutionOwner} {report report' : RecoveryReport}

lemma assessEvidence_codes {c : ExecutionClaim} {result assessed : DriverExecutionResult}
    (hc : OwnCodes codes) (hresult : ResultCodes codes result)
    (h : assessEvidence env db c result = .ok assessed) : ResultCodes codes assessed := by
  unfold assessEvidence at h
  split at h
  · simp only [bind_ok] at h
    obtain ⟨proof, -, h⟩ := h
    split at h
    · rw [pure_ok] at h
      exact h ▸ hresult
    · rw [pure_ok] at h
      subst h
      intro state code key hs
      simp only [resultState, orText, Prod.mk.injEq, Option.some.injEq] at hs
      obtain ⟨-, -, rfl, rfl⟩ := hs
      exact hc.evidence
  · rw [pure_ok] at h
    exact h ▸ hresult

lemma selected_ids (p : AttemptRow → Bool) :
    (db.attempts.select p).Pairwise (fun a b => a.attemptId ≠ b.attemptId) := by
  refine (db.attempts.select_pairwise (u := AttemptRow.primaryKey) (by simp [AttemptRow.spec]) p).imp
    ?_
  intro a b hab hid
  exact hab b.attemptId (congrArg some hid) rfl

lemma recoverLoop_chain {selected : List AttemptRow}
    (hc : codes "outcome_unknown" "print.outcome_unknown")
    (hids : selected.Pairwise (fun a b => a.attemptId ≠ b.attemptId))
    (hmem : ∀ a ∈ selected, a ∈ start.attempts.rows ∧ recoverable owner now a = true ∧
      a ∈ db.attempts.rows)
    (hlive : ∀ j ∈ db.jobs.rows, j.state = .accepted ∨ j.state = .inProgress → j ∈ start.jobs.rows)
    (h : recoverLoop now db report selected = .ok (db', report')) :
    Relation.ReflTransGen (LedgerStep codes env start (.recover owner now)) db db' := by
  induction selected generalizing db report with
  | nil =>
    obtain ⟨rfl, -⟩ := Prod.mk.inj (Except.ok.inj h)
    exact .refl
  | cons a rest ih =>
    rw [recoverLoop] at h
    obtain ⟨⟨db1, report1⟩, hrec, h⟩ := bind_ok.mp h
    obtain ⟨hne, hids⟩ := List.pairwise_cons.mp hids
    obtain ⟨hstart, hrecoverable, ha⟩ := hmem a List.mem_cons_self
    have hr : Recovers codes a now db db1 := recoverAttempt_recovers hc hrec
    have hends : db1.jobs = db.jobs ∨ (LedgerCall.recover owner now).Ends start := by
      rcases hr.job with ⟨hjobs, -⟩ | ⟨job, state, hid, hends, -, -, hu⟩
      · exact .inl hjobs
      · exact .inr ⟨a, hstart, hrecoverable, job, hlive job hu.mem hu.live, hid, hends⟩
    refine .head (.recovers ha (Bool.and_eq_true_iff.mp hrecoverable).1 hends hr) (ih hids ?_ ?_ h)
    · intro b hb
      obtain ⟨hbstart, hbrec, hbmem⟩ := hmem b (List.mem_cons_of_mem _ hb)
      exact ⟨hbstart, hbrec, Table.mem_left hr.attempts hbmem (by simp [Ne.symm (hne b hb)])⟩
    · intro j hj hjlive
      rcases hr.job with ⟨hjobs, -⟩ | ⟨job, state, -, -, hne, hne', hu⟩
      · exact hlive j (hjobs ▸ hj) hjlive
      · rcases hu.row_of_mem hj with ⟨-, hstate⟩ | ⟨-, hold⟩
        · rw [hstate] at hjlive
          exact (hjlive.elim hne hne').elim
        · exact hlive j hold hjlive

theorem applyLedger_chain {c : LedgerCall} {result : LedgerResult} (hc : OwnCodes codes)
    (hcall : c.Codes codes) (h : applyLedger env db c = .ok (db', result)) :
    Relation.ReflTransGen (LedgerStep codes env db c) db db' := by
  cases c with
  | claimNext owner deviceId now ids =>
    obtain ⟨⟨db1, r⟩, hop, heq⟩ := map_ok.mp h
    cases heq
    obtain ⟨db2, hexpire, hresult⟩ := claimNext_cases codes hop
    have hchain : Relation.ReflTransGen
        (LedgerStep codes env db (.claimNext owner deviceId now ids)) db db2 :=
      hexpire.lift id fun _ _ h => .expires h
    rcases hresult with ⟨rfl, -⟩ | ⟨job, hjob, hstate, hfree, claim, -, hclaim⟩
    · exact hchain
    · exact hchain.tail (.claims hjob hstate hfree hclaim)
  | markPrepared =>
    obtain ⟨db1, hop, heq⟩ := map_ok.mp h
    cases heq
    exact .single (.touches (markPrepared_touches hop))
  | renew =>
    obtain ⟨⟨db1, r⟩, hop, heq⟩ := map_ok.mp h
    cases heq
    exact .single (.touches (renew_touches hop).1)
  | markIoStarted =>
    obtain ⟨⟨db1, r⟩, hop, heq⟩ := map_ok.mp h
    cases heq
    exact .single (.starts (markIoStarted_starts hop).1)
  | notePermissionDelivered =>
    obtain ⟨db1, hop, heq⟩ := map_ok.mp h
    cases heq
    exact .single (.touches (notePermissionDelivered_touches hop))
  | finish =>
    obtain ⟨⟨db1, r⟩, hop, heq⟩ := map_ok.mp h
    cases heq
    have hends := finish_ends (fun assessed ha => assessEvidence_codes hc hcall ha) hop
    obtain ⟨job, _, hid, hstate, -, -, hu⟩ := hends.job
    exact .single (.ends rfl ⟨job, hu.mem, hid, hstate⟩ hends)
  | failBeforeIo =>
    obtain ⟨⟨db1, r⟩, hop, heq⟩ := map_ok.mp h
    cases heq
    have hends := failBeforeIo_ends hcall hop
    obtain ⟨job, _, hid, hstate, -, -, hu⟩ := hends.job
    exact .single (.ends rfl ⟨job, hu.mem, hid, hstate⟩ hends)
  | abandonAfterMarker =>
    obtain ⟨⟨db1, r⟩, hop, heq⟩ := map_ok.mp h
    cases heq
    have hends := abandonAfterMarker_ends hc.unknown hop
    obtain ⟨job, _, hid, hstate, -, -, hu⟩ := hends.job
    exact .single (.ends rfl ⟨job, hu.mem, hid, hstate⟩ hends)
  | recover =>
    obtain ⟨⟨db1, r⟩, hop, heq⟩ := map_ok.mp h
    cases heq
    refine recoverLoop_chain hc.unknown (selected_ids _) (fun a ha => ?_) (fun j hj _ => hj) hop
    obtain ⟨hmem, hrec⟩ := List.mem_filter.mp ha
    exact ⟨hmem, hrec, hmem⟩

end Chain

end Inari.Agent
