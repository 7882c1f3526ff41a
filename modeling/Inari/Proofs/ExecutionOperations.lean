import Inari.Proofs.LedgerExecutions

/-!
# Ledger operations as execution writes

Each step, with a claim that was issued, claims, starts or ends one execution or leaves them all.
-/

namespace Inari.Agent

open Lib SqliteExecutionLedger

variable {db db' : Db} {now : Time} {codes : String → String → Prop} {state : PrintJobState}
  {p : PrintJobRow → Bool} {f : PrintJobRow → PrintJobRow} {job : PrintJobRow}
  {a : AttemptRow} {c : ExecutionClaim} {env : LedgerEnv} {owner : ExecutionOwner} {ids : ClaimIds}

lemma SqliteExecutionLedger.JobUpdate.onDevice (hu : JobUpdate codes db db' job state)
    (jobId deviceId : String) (h : db.OnDevice jobId deviceId) : db'.OnDevice jobId deviceId := by
  obtain ⟨j, hj, rfl, rfl⟩ := h
  by_cases hid : j.id = job.id
  · obtain rfl := job_eq_of_id db hj hu.mem hid
    obtain ⟨r, hr, hidentity, -⟩ := hu.exists_row
    exact ⟨r, hr, of_identity hidentity⟩
  · exact ⟨j, hu.row_mem hj hid, rfl, rfl⟩

/-- Only the updated job can start or stop being in progress. -/
lemma SqliteExecutionLedger.JobUpdate.inProgress (hu : JobUpdate codes db db' job state)
    (jobId : String) :
    db'.InProgress jobId ↔ if jobId = job.id then state = .inProgress else db.InProgress jobId := by
  constructor
  · rintro ⟨r, hr, rfl, hstate⟩
    rcases hu.row_of_mem hr with ⟨hidentity, hr'⟩ | ⟨hne, hold⟩
    · rw [if_pos (of_identity hidentity).1, ← hr', hstate]
    · rw [if_neg hne]
      exact ⟨r, hold, rfl, hstate⟩
  · intro h
    split_ifs at h with heq
    · obtain ⟨r, hr, hidentity, hstate⟩ := hu.exists_row
      exact ⟨r, hr, (of_identity hidentity).1.trans heq.symm, hstate.trans h⟩
    · obtain ⟨r, hr, rfl, hstate⟩ := h
      exact ⟨r, hu.row_mem hr heq, rfl, hstate⟩

lemma SqliteExecutionLedger.JobUpdate.ended (hu : JobUpdate codes db db' job state)
    (hne : state ≠ .inProgress) (jobId : String) :
    db'.InProgress jobId ↔ db.InProgress jobId ∧ jobId ≠ job.id := by
  rw [hu.inProgress]
  split_ifs with heq
  · exact ⟨fun h => (hne h).elim, fun h => (h.2 heq).elim⟩
  · exact ⟨fun h => ⟨h, heq⟩, fun h => h.1⟩

/-- The end of an accepted job changes no execution. -/
lemma SqliteExecutionLedger.JobEnds.kept (h : JobEnds codes job state db db')
    (hstate : job.state = .accepted) (hne : state ≠ .inProgress) : ExecutionKept db db' := by
  refine ⟨by rw [Db.executions, h.attempts, Db.executions], by rw [Db.holds, h.reservations, Db.holds],
    h.update.onDevice, fun jobId => (h.update.ended hne jobId).trans ⟨And.left, fun hp => ⟨hp, ?_⟩⟩⟩
  rintro rfl
  obtain ⟨r, hr, hid, hprogress⟩ := hp
  rw [job_eq_of_id db hr h.update.mem hid, hstate] at hprogress
  cases hprogress

lemma expiries_kept {start : Db} {deviceId : Option String}
    (h : Relation.ReflTransGen (Expires codes start deviceId now) db db') : ExecutionKept db db' := by
  induction h with
  | refl => exact .refl db
  | tail _ hstep ih =>
    obtain ⟨job, -, hstate, -, -, hends⟩ := hstep
    exact ih.trans (hends.kept hstate nofun)

def Db.JobEnded (db : Db) (jobId : String) : Prop :=
  ∃ r ∈ db.jobs.rows, r.id = jobId ∧ r.state ≠ .accepted ∧ r.state ≠ .inProgress

def newExecution (db : Db) (job : PrintJobRow) (owner : ExecutionOwner) (ids : ClaimIds) :
    Execution where
  attemptId := ids.attemptId
  jobId := job.id
  ownerId := owner.ownerId
  ownerGeneration := owner.generation
  attemptNumber := db.attempts.rows.countP (fun a => a.jobId == job.id) + 1
  stage := .waiting
  marked := false

/-- A claim adds an attempt with the next number, and its reservation. -/
lemma claim_added {lease : Time} (hjob : db.OnDevice job.id job.deviceId)
    (h : claim env db job owner now lease ids = .ok (db', c)) :
    ExecutionAdded (newExecution db job owner ids) job.deviceId db db' ∧
      (newExecution db job owner ids).ClaimedBy c := by
  simp only [claim, bind_ok, pure_ok, Prod.mk.injEq] at h
  obtain ⟨_, -, _, -, _, -, _, -, _, -, _, -, reservations, hres, attempts, hatt, rfl, rfl⟩ := h
  have hrows := Table.insert_rows hatt
  refine ⟨⟨rfl, rfl, ?_, ?_, ?_, hjob, ?_, ?_, rfl⟩, rfl, rfl, rfl, rfl⟩
  · intro y hy hyjob
    obtain ⟨a, ha, rfl⟩ := List.mem_map.mp hy
    have hne := Table.append_fresh hrows (u := AttemptRow.uqActiveJob) (by simp [AttemptRow.spec])
      (k := job.id) rfl ha
    by_contra hover
    have hact : a.phase.active = true := (AttemptPhase.active_iff _).mpr hover
    exact hne (by simp [AttemptRow.uqActiveJob, hact, show a.jobId = job.id from hyjob])
  · intro y hy hyid
    obtain ⟨a, ha, rfl⟩ := List.mem_map.mp hy
    have hne := Table.append_fresh hrows (u := AttemptRow.primaryKey) (by simp [AttemptRow.spec])
      (k := ids.attemptId) rfl ha
    exact hne (congrArg some hyid)
  · simp only [Db.executions, List.countP_map]
    rfl
  · simp only [Db.executions, hrows, List.map_append]
    rfl
  · simp only [Db.holds, Table.insert_rows hres, List.filterMap_append]
    rfl

lemma SqliteExecutionLedger.Touches.execution (h : Touches db db') : ExecutionKept db db' := by
  refine ⟨h.executions, h.holds, fun _ _ hon => ?_, fun jobId => ?_⟩
  · rwa [Db.OnDevice, h.jobs]
  · rw [Db.InProgress, h.jobs, Db.InProgress]

/-- The attempt a claim names is the one it was issued for. -/
lemma Issued.attempt (hi : Issued db c) (ha : a ∈ db.attempts.rows)
    (hid : a.attemptId = c.attemptId) :
    a.jobId = c.jobId ∧ a.ownerId = c.owner.ownerId ∧ a.ownerGeneration = c.owner.generation := by
  obtain ⟨x, hx, hxid, hx'⟩ := hi
  have heq : a.execution = x :=
    execution_eq_of_id (List.mem_map_of_mem ha) hx (hid.trans hxid.symm)
  subst heq
  exact hx'

lemma SqliteExecutionLedger.IoStarts.starts (h : IoStarts codes c db db') (hi : Issued db c) :
    ∃ x, x.attemptId = c.attemptId ∧ ExecutionStarted x db db' := by
  obtain ⟨attempt, ha, hid, hphase, hexec⟩ := h.attempt
  obtain ⟨job, hjob, -, hu⟩ := h.job
  refine ⟨attempt.execution, hid, List.mem_map_of_mem ha, ?_, hexec, ?_, hu.onDevice, fun jobId => ?_⟩
  · simp [AttemptRow.execution, hphase, AttemptPhase.stage]
  · rw [Db.holds, h.reservations, Db.holds]
  · have hjobId : attempt.execution.jobId = job.id := ((hi.attempt ha hid).1).trans hjob.symm
    rw [hu.inProgress, hjobId]
    by_cases heq : jobId = job.id <;> simp [heq]

/-- The reservation that a claim releases is the one of its attempt. -/
lemma Issued.covers (hi : Issued db c) (ha : a ∈ db.attempts.rows) (hid : a.attemptId = c.attemptId) :
    (∀ h, coveredBy c h = true → h.jobId = some a.execution.jobId) ∧
      ∀ h : Hold, h.For a.execution → coveredBy c h = true := by
  obtain ⟨hjob, howner, hgen⟩ := hi.attempt ha hid
  constructor
  · intro h hh
    simp only [coveredBy, Bool.and_eq_true, beq_iff_eq] at hh
    exact hh.1.1.trans (congrArg some hjob.symm)
  · intro h hh
    simp only [coveredBy, Bool.and_eq_true, beq_iff_eq]
    exact ⟨⟨hh.job.trans (congrArg some hjob), hh.owner.trans howner⟩, hh.generation.trans hgen⟩

def EndsClaim (c : ExecutionClaim) (db db' : Db) : Prop :=
  ∃ x, x.attemptId = c.attemptId ∧ ExecutionEnded x db db' ∧ db'.JobEnded x.jobId

lemma SqliteExecutionLedger.ClaimEnds.ends {before : PrintJobState} (h : ClaimEnds codes c before db db')
    (hi : Issued db c) : EndsClaim c db db' := by
  obtain ⟨attempt, ha, hid, hactive, hexec⟩ := h.attempt
  obtain ⟨job, state, hjob, -, hne, hne', hu⟩ := h.job
  obtain ⟨hcovered, hall⟩ := hi.covers ha hid
  have hjobId : attempt.execution.jobId = job.id := ((hi.attempt ha hid).1).trans hjob.symm
  refine ⟨attempt.execution, hid, ⟨List.mem_map_of_mem ha, (AttemptPhase.active_iff _).mp hactive,
    hexec, ⟨coveredBy c, hcovered, hall, h.holds⟩, hu.onDevice, ?_⟩, ?_⟩
  · rw [hjobId]
    exact hu.ended hne'
  · obtain ⟨r, hr, hidentity, hstate⟩ := hu.exists_row
    rw [hjobId]
    exact ⟨r, hr, (of_identity hidentity).1, by rwa [hstate], by rwa [hstate]⟩

/-- Recovery ends the execution of the attempt. -/
lemma SqliteExecutionLedger.Recovers.ended (h : Recovers codes a now db db') (hc : Coupled db)
    (ha : a ∈ db.attempts.rows) (hactive : a.phase.active = true) :
    ExecutionEnded a.execution db db' := by
  have hx : a.execution ∈ db.executions := List.mem_map_of_mem ha
  have hxs : a.execution.stage ≠ .over := (AttemptPhase.active_iff _).mp hactive
  have hexec : db'.executions = db.executions.map
      (Function.update id a.execution { a.execution with stage := .over }) :=
    executions_updated ha h.attempts (by simp) (by simp) rfl
  have hholds : ∃ q : Hold → Bool, (∀ h, q h = true → h.jobId = some a.execution.jobId) ∧
      (∀ h : Hold, h.For a.execution → q h = true) ∧
        db'.holds = db.holds.filter (fun h => !q h) :=
    ⟨fun h => h.jobId == some a.jobId, fun h hh => beq_iff_eq.mp hh,
      fun h hh => beq_iff_eq.mpr hh.job, h.holds⟩
  rcases h.job with ⟨hjobs, -, hidle⟩ | ⟨job, state, hid, -, -, hne, hu⟩
  · have hno : ¬db.InProgress a.jobId := by
      rcases hidle with hmarker | hstates
      · rw [hc.progress]
        rintro ⟨y, hy, hyjob, hystage⟩
        obtain rfl := hc.eq_of_job hy hx (by rw [hystage]; exact nofun) hxs hyjob
        have hmarked := hc.started _ hx hystage
        simp [AttemptRow.execution, hmarker] at hmarked
      · rintro ⟨j, hj, hjid, hjstate⟩
        exact hstates j hj hjid hjstate
    refine ⟨hx, hxs, hexec, hholds, fun _ _ hon => ?_, fun jobId => ?_⟩
    · rwa [Db.OnDevice, hjobs]
    · rw [Db.InProgress, hjobs]
      exact ⟨fun hp => ⟨hp, by rintro rfl; exact hno hp⟩, And.left⟩
  · refine ⟨hx, hxs, hexec, hholds, hu.onDevice, ?_⟩
    have hprogress := hu.ended hne
    rwa [hid] at hprogress

/-- Each step of the ledger is one of the abstract writes of executions. -/
theorem LedgerStep.write {start : Db} {call : LedgerCall}
    (h : LedgerStep codes env start call db db') (hc : Coupled db)
    (hissued : ∀ claim ∈ call.claim?, Issued db claim) : ExecutionWrite db db' := by
  cases h with
  | touches h => exact .keep h.execution
  | expires h =>
    obtain ⟨job, -, hstate, -, -, hends⟩ := h
    exact .keep (hends.kept hstate nofun)
  | claims hjob _ _ h => exact .claim _ _ (claim_added ⟨_, hjob, rfl, rfl⟩ h).1
  | starts h =>
    obtain ⟨x, -, hstarted⟩ := h.starts (hissued _ rfl)
    exact .start x hstarted
  | ends hcall _ h =>
    obtain ⟨x, -, hended, -⟩ := h.ends (hissued _ hcall)
    exact .finish x hended
  | recovers ha hactive _ h => exact .finish _ (h.ended hc ha hactive)

end Inari.Agent
