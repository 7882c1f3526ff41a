import Inari.Agent.JobJournal

/-!
# What a ledger operation can write

One inversion lemma for each operation. Later results cite these and do not unfold the operations.
-/

namespace Inari.Agent

open Lib

section Statements

variable {ε : Type} [SqlError ε]

lemma insertEvent_eq {db db' : Db} {jobId : String} {v : Nat} {t : PrintJobState}
    {s : JobSnapshot} {now : Time} {n : Nat}
    (h : insertEvent db jobId v t s now = (.ok (db', n) : Except ε (Db × Nat))) :
    ∃ events, db' = { db with events := events } ∧
      events.rows = db.events.rows ++ [⟨nextSequence db.events, jobId, v, t, s, now⟩] ∧
      n = nextSequence db.events := by
  simp only [insertEvent, bind_ok, pure_ok, Prod.mk.injEq] at h
  obtain ⟨events, hins, rfl, rfl⟩ := h
  exact ⟨events, rfl, Table.insert_rows hins, rfl⟩

lemma scheduleArtifactRelease_eq {db db' : Db} {jobId : String} {state : PrintJobState}
    {now : Time} (h : scheduleArtifactReleaseForJob db jobId state now = (.ok db' : Except ε Db)) :
    ∃ artifacts jobKeys, db' = { db with artifacts := artifacts, jobKeys := jobKeys } := by
  simp only [scheduleArtifactReleaseForJob, bind_ok] at h
  obtain ⟨artifacts, -, h⟩ := h
  split at h
  · simp only [bind_ok, pure_ok] at h
    obtain ⟨jobKeys, -, rfl⟩ := h
    exact ⟨artifacts, jobKeys, rfl⟩
  · rw [pure_ok] at h
    exact ⟨artifacts, db.jobKeys, h.symm⟩

end Statements

/-- An attempt is before its marker, after it, or over. -/
inductive ExecutionStage
  | waiting | started | over
deriving DecidableEq

def AttemptPhase.stage : AttemptPhase → ExecutionStage
  | .claimed | .prepared => .waiting
  | .markerCommitted | .permissionDelivered => .started
  | .finished | .retryable | .recovered => .over

lemma AttemptPhase.active_iff (p : AttemptPhase) : p.active = true ↔ p.stage ≠ .over := by
  cases p <;> simp [active, stage]

structure Execution where
  attemptId : String
  jobId : String
  ownerId : String
  ownerGeneration : Nat
  attemptNumber : Nat
  stage : ExecutionStage
  marked : Bool
deriving DecidableEq

def AttemptRow.execution (a : AttemptRow) : Execution :=
  ⟨a.attemptId, a.jobId, a.ownerId, a.ownerGeneration, a.attemptNumber, a.phase.stage,
    a.markerId.isSome⟩

structure Hold where
  jobId : Option String
  deviceId : String
  ownerId : String
  ownerGeneration : Nat

def ReservationRow.hold (r : ReservationRow) : Option Hold :=
  if r.reservationKind = .executionTemp ∧ r.state = .held then
    some ⟨r.jobId, r.deviceId, r.ownerId, r.ownerGeneration⟩
  else none

structure Hold.For (h : Hold) (x : Execution) : Prop where
  job : h.jobId = some x.jobId
  owner : h.ownerId = x.ownerId
  generation : h.ownerGeneration = x.ownerGeneration

namespace Db

def executions (db : Db) : List Execution := db.attempts.rows.map AttemptRow.execution

def holds (db : Db) : List Hold := db.reservations.rows.filterMap ReservationRow.hold

def InProgress (db : Db) (jobId : String) : Prop :=
  ∃ j ∈ db.jobs.rows, j.id = jobId ∧ j.state = .inProgress

def OnDevice (db : Db) (jobId deviceId : String) : Prop :=
  ∃ j ∈ db.jobs.rows, j.id = jobId ∧ j.deviceId = deviceId

end Db

namespace SqliteExecutionLedger

variable {db db' : Db} {now : Time} {job : PrintJobRow} {c : ExecutionClaim} {env : LedgerEnv}
  {receipt : ExecutionReceipt} {codes : String → String → Prop} {state : PrintJobState}

lemma jobOf_spec {jobId : String} (h : jobOf db jobId = .ok job) :
    job ∈ db.jobs.rows ∧ job.id = jobId := by
  rw [jobOf, orRaise_ok] at h
  obtain ⟨hmem, hid⟩ := Table.first_spec h
  exact ⟨hmem, by simpa using hid⟩

/-- The row update and the event of one job transition, which show the same if the row was clean. -/
structure JobUpdate (codes : String → String → Prop) (db db' : Db) (job : PrintJobRow)
    (state : PrintJobState) : Prop where
  mem : job ∈ db.jobs.rows
  live : job.state = .accepted ∨ job.state = .inProgress
  write : ∃ (f : PrintJobRow → PrintJobRow) (snap : JobSnapshot) (now : Time),
    db'.jobs.rows = Table.updated db.jobs.rows (fun r => r.id == job.id) f ∧
    db'.events.rows = db.events.rows ++
      [⟨nextSequence db.events, job.id, job.stateVersion + 1, state, snap, now⟩] ∧
    (∀ r, (f r).identity = r.identity ∧ (f r).state = state) ∧
    (JobClean job.view → (f job).view = snap ∧ snap.stateVersion = job.stateVersion + 1 ∧
      JobWrite codes job.view snap)

lemma updated_job {p : PrintJobRow → Bool} {f : PrintJobRow → PrintJobRow}
    (hjob : job ∈ db.jobs.rows) (hp : p job = true) (honly : ∀ r, p r = true → r.id = job.id) :
    Table.updated db.jobs.rows p f = Table.updated db.jobs.rows (fun r => r.id == job.id) f := by
  refine List.map_congr_left fun r hr => ?_
  by_cases hid : r.id = job.id
  · obtain rfl := job_eq_of_id db hr hjob hid
    simp [hp]
  · have hpr : ¬p r = true := fun h => hid (honly r h)
    simp [hpr, hid]

namespace JobUpdate

lemma row_of_mem (hu : JobUpdate codes db db' job state) {r : PrintJobRow}
    (hr : r ∈ db'.jobs.rows) :
    (r.identity = job.identity ∧ r.state = state) ∨ (r.id ≠ job.id ∧ r ∈ db.jobs.rows) := by
  obtain ⟨f, -, -, hjobs, -, hf, -⟩ := hu.write
  rcases Table.updated_cases hjobs hr with ⟨hr, hid⟩ | ⟨x, hx, hid, rfl⟩
  · exact .inr ⟨by simpa using hid, hr⟩
  · obtain rfl := job_eq_of_id db hx hu.mem (by simpa using hid)
    exact .inl (hf x)

lemma row_mem (hu : JobUpdate codes db db' job state) {r : PrintJobRow} (hr : r ∈ db.jobs.rows)
    (hne : r.id ≠ job.id) : r ∈ db'.jobs.rows := by
  obtain ⟨f, -, -, hjobs, -⟩ := hu.write
  exact Table.mem_left hjobs hr (by simp [hne])

lemma exists_row (hu : JobUpdate codes db db' job state) :
    ∃ r ∈ db'.jobs.rows, r.identity = job.identity ∧ r.state = state := by
  obtain ⟨f, -, -, hjobs, -, hf, -⟩ := hu.write
  exact ⟨f job, Table.mem_written hjobs hu.mem (by simp), hf job⟩

end JobUpdate

lemma of_identity {r s : PrintJobRow} (h : r.identity = s.identity) :
    r.id = s.id ∧ r.deviceId = s.deviceId := by
  have hid : r.identity.id = s.identity.id := by rw [h]
  have hdevice : r.identity.deviceId = s.identity.deviceId := by rw [h]
  exact ⟨hid, hdevice⟩

/-- Jobs keep the columns they were published with, ended jobs keep their row, and events are
appended. -/
structure JobFrame (db db' : Db) : Prop where
  identity : db'.jobs.rows.map PrintJobRow.identity = db.jobs.rows.map PrintJobRow.identity
  ended : ∀ r ∈ db.jobs.rows, r.state ≠ .accepted → r.state ≠ .inProgress → r ∈ db'.jobs.rows
  events : db.events.rows <+: db'.events.rows

lemma JobFrame.of_eq (hjobs : db'.jobs = db.jobs) (hevents : db'.events = db.events) :
    JobFrame db db' :=
  ⟨by rw [hjobs], fun r hr _ _ => hjobs ▸ hr, hevents ▸ List.prefix_refl _⟩

lemma JobFrame.trans {a b c : Db} (h : JobFrame a b) (h' : JobFrame b c) : JobFrame a c :=
  ⟨h'.identity.trans h.identity,
    fun r hr h1 h2 => h'.ended r (h.ended r hr h1 h2) h1 h2, h.events.trans h'.events⟩

lemma JobUpdate.frame (hu : JobUpdate codes db db' job state) : JobFrame db db' := by
  obtain ⟨f, snap, t, hjobs, hevents, hf, -⟩ := hu.write
  refine ⟨?_, fun r hr h1 h2 => hu.row_mem hr fun hid => ?_, hevents ▸ List.prefix_append _ _⟩
  · rw [hjobs]
    exact Table.map_updated _ (fun r _ _ => (hf r).1)
  · obtain rfl := job_eq_of_id db hr hu.mem hid
    exact hu.live.elim h1 h2

def releasedRow (now : Time) (r : ReservationRow) : ReservationRow :=
  { r with state := .released, releasedAt := some now }

lemma JobUpdate.steps (hu : JobUpdate codes db db' job state) (hj : db.JournalConsistent codes) :
    JobSteps codes db db' := by
  obtain ⟨f, snap, t, hjobs, hevents, hf, hclean⟩ := hu.write
  obtain ⟨rfl, hversion, hw⟩ := hclean (clean_of_mem hj hu.mem)
  have hid : (f job).id = job.id := (of_identity (hf job).1).1
  have hversion' : (f job).stateVersion = job.stateVersion + 1 := hversion
  refine .single (journal_advance hu.mem (by simp) (by simp) hjobs hevents rfl ?_ hw)
  simp [PrintJobRow.entry, PrintJobEventRow.entry, hid, hversion']

lemma jobSteps_of_eq (hjobs : db'.jobs = db.jobs) (hevents : db'.events = db.events) :
    JobSteps codes db db' := by
  have : db'.journal = db.journal := by simp [Db.journal, hjobs, hevents]
  rw [JobSteps, this]

/-- The reservations an admission holds; execution reservations are left out. -/
def admissionReservations (db : Db) : List ReservationRow :=
  db.reservations.rows.filter (fun r => r.reservationKind == .admission)

/-- The tables of the spool admission are not written, nor are its reservations. -/
structure LedgerFrame (db db' : Db) : Prop where
  admissions : db'.admissions = db.admissions
  proofs : db'.proofs = db.proofs
  admissionKeys : db'.admissionKeys = db.admissionKeys
  reservations : admissionReservations db' = admissionReservations db
  jobs : JobFrame db db'

lemma LedgerFrame.refl (db : Db) : LedgerFrame db db := ⟨rfl, rfl, rfl, rfl, .of_eq rfl rfl⟩

lemma LedgerFrame.trans {a b c : Db} (h : LedgerFrame a b) (h' : LedgerFrame b c) :
    LedgerFrame a c :=
  ⟨h'.1.trans h.1, h'.2.trans h.2, h'.3.trans h.3, h'.4.trans h.4, h.5.trans h'.5⟩

lemma admissionReservations_updated {p : ReservationRow → Bool}
    {f : ReservationRow → ReservationRow} {db db' : Db}
    (h : db'.reservations.rows = Table.updated db.reservations.rows p f)
    (hp : ∀ r, p r = true → r.reservationKind = .executionTemp)
    (hf : ∀ r, (f r).reservationKind = r.reservationKind) :
    admissionReservations db' = admissionReservations db := by
  rw [admissionReservations, h]
  apply Table.filter_updated
  intro r _ hpr
  simp [hf, hp r hpr]

/-- A job ends, and the tables of its execution are left to the caller. -/
structure JobEnds (codes : String → String → Prop) (job : PrintJobRow) (state : PrintJobState)
    (db db' : Db) : Prop where
  update : JobUpdate codes db db' job state
  frame : LedgerFrame db db'
  attempts : db'.attempts = db.attempts
  reservations : db'.reservations = db.reservations

lemma clean_live (h : JobClean job.view) (hlive : job.state = .accepted ∨ job.state = .inProgress) :
    job.terminalAt = none ∧ job.errorCode = none ∧ job.messageKey = none ∧
      job.confirmationEvidence = none := by
  rcases hlive with hstate | hstate <;> simp only [JobClean, PrintJobRow.view, hstate] at h <;>
    exact h.2

lemma expireAccepted_ends (hjob : job ∈ db.jobs.rows) (hstate : job.state = .accepted)
    (h : expireAccepted db job now = .ok db') : JobEnds codes job .expired db db' := by
  simp only [expireAccepted, bind_ok] at h
  obtain ⟨jobs, hjobs, ⟨db1, n⟩, hev, hrel⟩ := h
  obtain ⟨events, rfl, hevents, -⟩ := insertEvent_eq hev
  obtain ⟨artifacts, jobKeys, rfl⟩ := scheduleArtifactRelease_eq hrel
  have hu : JobUpdate codes db { db with jobs, events, artifacts, jobKeys } job .expired := by
    refine ⟨hjob, .inl hstate, _, _, now, (Table.update_rows hjobs).trans
      (updated_job hjob (by simp [hstate]) (by simp +contextual)), hevents, fun _ => ⟨rfl, rfl⟩, ?_⟩
    intro hclean
    obtain ⟨-, herr, hkey, hev⟩ := clean_live hclean (.inl hstate)
    have hw := @JobWrite.expire codes job.view now hstate
    refine ⟨?_, rfl, ?_⟩
    · simp [snapshot, PrintJobRow.view, herr, hkey, hev]
    · simpa [snapshot, PrintJobRow.view, herr, hkey, hev] using hw
  exact ⟨hu, ⟨rfl, rfl, rfl, rfl, hu.frame⟩, rfl, rfl⟩

lemma recoverUnknown_ends (hc : codes "outcome_unknown" "print.outcome_unknown")
    (hjob : job ∈ db.jobs.rows) (hstate : job.state = .inProgress)
    (h : recoverUnknown db job now = .ok db') : JobEnds codes job .outcomeUnknown db db' := by
  simp only [recoverUnknown, bind_ok] at h
  obtain ⟨jobs, hjobs, ⟨db1, n⟩, hev, hrel⟩ := h
  obtain ⟨events, rfl, hevents, -⟩ := insertEvent_eq hev
  obtain ⟨artifacts, jobKeys, rfl⟩ := scheduleArtifactRelease_eq hrel
  have hu : JobUpdate codes db { db with jobs, events, artifacts, jobKeys } job .outcomeUnknown := by
    refine ⟨hjob, .inr hstate, _, _, now, (Table.update_rows hjobs).trans
      (updated_job hjob (by simp [hstate]) (by simp +contextual)), hevents, fun _ => ⟨rfl, rfl⟩, ?_⟩
    intro hclean
    obtain ⟨-, -, -, hev⟩ := clean_live hclean (.inr hstate)
    have hw := @JobWrite.unknown codes job.view now _ _ hstate hc
    refine ⟨?_, rfl, ?_⟩
    · simp [snapshot, PrintJobRow.view, hev]
    · simpa [snapshot, PrintJobRow.view, hev] using hw
  exact ⟨hu, ⟨rfl, rfl, rfl, rfl, hu.frame⟩, rfl, rfl⟩

end SqliteExecutionLedger

end Inari.Agent
