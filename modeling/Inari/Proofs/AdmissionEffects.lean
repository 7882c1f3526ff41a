import Inari.Agent.System
import Inari.Proofs.LedgerEffects

/-!
# What a step of the spool admission can write

A small set of writes; invariants are checked once for each.
-/

namespace Inari.Agent

open Lib

def Unaccepted (db : Db) (admissionId : String) : Prop :=
  ∃ a ∈ db.admissions.rows, a.id = admissionId ∧ (a.state = .staging ∨ a.state = .finalizing)

def acceptedRow (jobId : String) (now : Time) (r : AdmissionRow) : AdmissionRow :=
  { r with state := .accepted, jobId := some jobId, acceptedAt := some now, updatedAt := now }

def abortedRow (code : ProblemCode) (now : Time) (r : AdmissionRow) : AdmissionRow :=
  { r with state := .aborted, failedAt := some now, failureCode := some code, updatedAt := now }

def committedRow (jobId : String) (r : ReservationRow) : ReservationRow :=
  { r with jobId := some jobId, state := .committed }

def contentLostRow (job : PrintJobRow) (now : Time) (r : PrintJobRow) : PrintJobRow :=
  { r with
    state := .failed
    stateVersion := job.stateVersion + 1
    terminalAt := some now
    retryable := false
    errorCode := some ProblemCode.serviceUnavailable.value
    messageKey := some "print.service_unavailable" }

def contentLostView (job : PrintJobRow) (now : Time) : JobSnapshot :=
  { job.view with
    state := .failed
    stateVersion := job.stateVersion + 1
    startedAt := none
    terminalAt := some now
    errorCode := some ProblemCode.serviceUnavailable.value
    messageKey := some "print.service_unavailable"
    confirmationEvidence := none }

def stillAccepted (job r : PrintJobRow) : Bool :=
  r.id == job.id && r.state == .accepted && r.stateVersion == job.stateVersion

/-- The admission and the reservation a plan names, before its job is published. -/
structure PlanOk (db : Db) (plan : AdmissionPlan) : Prop where
  admission : Unaccepted db plan.admissionId
  reservation : ∃ r ∈ db.reservations.rows, r.id = plan.reservationId ∧
    r.reservationKind = .admission ∧ r.admissionId = some plan.admissionId

/-- The writes of the spool admission. `F` holds of the jobs that may be failed. -/
inductive SpoolWrite (F : PrintJobRow → Prop) (db db' : Db) : Prop
  /-- Artifacts, keys and proofs only. -/
  | other (hadm : db'.admissions = db.admissions) (hres : db'.reservations = db.reservations)
      (hjobs : db'.jobs = db.jobs) (hevents : db'.events = db.events)
      (hatt : db'.attempts = db.attempts)
  /-- A new admission; none of its scope has its origin submission key. -/
  | stage (admissionId jobId : String) (m : AdmissionManifest) (now : Time)
      (hnew : ∀ a ∈ db.admissions.rows, SpoolAdmissionLedger.inScope m a = true →
        a.originSubmissionKey ≠ m.originSubmissionKey)
      (hadm : db'.admissions.rows = db.admissions.rows ++
        [SpoolAdmissionLedger.stagingRow admissionId jobId m now])
      (hres : db'.reservations = db.reservations)
      (hjobs : db'.jobs = db.jobs) (hevents : db'.events = db.events)
      (hatt : db'.attempts = db.attempts)
  /-- A reservation for an admission that has no job yet. -/
  | hold (held : ReservationRow) (admissionId : String)
      (hkind : held.reservationKind = .admission) (hadmission : held.admissionId = some admissionId)
      (hjob : held.jobId = none) (hstate : held.state = .held)
      (hopen : Unaccepted db admissionId)
      (hres : db'.reservations.rows = db.reservations.rows ++ [held])
      (hadm : db'.admissions = db.admissions)
      (hjobs : db'.jobs = db.jobs) (hevents : db'.events = db.events)
      (hatt : db'.attempts = db.attempts)
  /-- The release of reservations of an admission that has no job yet. -/
  | release (p : ReservationRow → Bool) (now : Time)
      (hopen : ∀ r ∈ db.reservations.rows, p r = true →
        ∃ admissionId, r.admissionId = some admissionId ∧ Unaccepted db admissionId)
      (hres : db'.reservations.rows = Table.updated db.reservations.rows
        (fun r => p r && r.state.active) (SqliteExecutionLedger.releasedRow now))
      (hadm : db'.admissions = db.admissions)
      (hjobs : db'.jobs = db.jobs) (hevents : db'.events = db.events)
      (hatt : db'.attempts = db.attempts)
  /-- The end of an admission whose reservations are released. -/
  | abort (admissionId : String) (code : ProblemCode) (now : Time)
      (hfree : ∀ r ∈ db.reservations.rows, r.admissionId = some admissionId →
        r.state.active = false)
      (hadm : db'.admissions.rows = Table.updated db.admissions.rows
        (fun r => r.id == admissionId && (r.state == .staging || r.state == .finalizing))
        (abortedRow code now))
      (hres : db'.reservations = db.reservations)
      (hjobs : db'.jobs = db.jobs) (hevents : db'.events = db.events)
      (hatt : db'.attempts = db.attempts)
  /-- The publication of the job of an admission, with its reservation. -/
  | publish (plan : AdmissionPlan) (row : AdmissionRow) (now : Time)
      (hrow : row ∈ db.admissions.rows) (hid : row.id = plan.admissionId)
      (hopen : row.state = .staging ∨ row.state = .finalizing) (hplan : PlanOk db plan)
      (hadm : db'.admissions.rows = Table.updated db.admissions.rows
        (fun r => r.id == plan.admissionId) (acceptedRow plan.jobId now))
      (hres : db'.reservations.rows = Table.updated db.reservations.rows
        (fun r => r.id == plan.reservationId) (committedRow plan.jobId))
      (hjobs : db'.jobs.rows = db.jobs.rows ++
        [DurableSpoolAdmissionStore.publishedRow plan row now])
      (hevents : db'.events.rows = db.events.rows ++ [⟨nextSequence db.events, plan.jobId, 1,
        .accepted, (DurableSpoolAdmissionStore.publishedRow plan row now).view, now⟩])
      (hatt : db'.attempts = db.attempts)
  /-- The failure of an accepted job whose document is gone, and the release of its
  reservation. -/
  | fail (job : PrintJobRow) (now : Time) (hF : F job) (hjob : job.entry ∈ db.journal.log)
      (hmatched : ∃ r ∈ db.jobs.rows, stillAccepted job r = true)
      (hjobs : db'.jobs.rows = Table.updated db.jobs.rows (stillAccepted job)
        (contentLostRow job now))
      (hevents : db'.events.rows = db.events.rows ++ [⟨nextSequence db.events, job.id,
        job.stateVersion + 1, .failed, contentLostView job now, now⟩])
      (hres : db'.reservations.rows = Table.updated db.reservations.rows
        (fun r => r.jobId == some job.id && r.state == .committed)
        (SqliteExecutionLedger.releasedRow now))
      (hadm : db'.admissions = db.admissions) (hatt : db'.attempts = db.attempts)

abbrev SpoolWrites (F : PrintJobRow → Prop) : Db → Db → Prop :=
  Relation.ReflTransGen (SpoolWrite F)

def OthersOpen (db db' : Db) (admissionId : String) : Prop :=
  ∀ x, x ≠ admissionId → Unaccepted db x → Unaccepted db' x

section Keys

variable {db db' : Db}

lemma admission_eq_of_id (db : Db) {a b : AdmissionRow} (ha : a ∈ db.admissions.rows)
    (hb : b ∈ db.admissions.rows) (h : a.id = b.id) : a = b :=
  db.admissions.eq_of_key (u := AdmissionRow.primaryKey) (by simp [AdmissionRow.spec]) ha hb
    (k := b.id) (by simp [AdmissionRow.primaryKey, h]) rfl

lemma reservation_eq_of_id (db : Db) {a b : ReservationRow} (ha : a ∈ db.reservations.rows)
    (hb : b ∈ db.reservations.rows) (h : a.id = b.id) : a = b :=
  db.reservations.eq_of_key (u := ReservationRow.primaryKey) (by simp [ReservationRow.spec]) ha hb
    (k := b.id) (by simp [ReservationRow.primaryKey, h]) rfl

variable {x : String} {plan : AdmissionPlan}

lemma Unaccepted.of_admissions (h : Unaccepted db x) (hadm : db'.admissions = db.admissions) :
    Unaccepted db' x := by
  obtain ⟨a, ha, hx⟩ := h
  exact ⟨a, hadm ▸ ha, hx⟩

lemma OthersOpen.of_admissions (hadm : db'.admissions = db.admissions) : OthersOpen db db' x :=
  fun _ _ h => h.of_admissions hadm

lemma OthersOpen.refl (db : Db) (x : String) : OthersOpen db db x := fun _ _ h => h

lemma PlanOk.admission_of_reservation (hplan : PlanOk db plan) {r : ReservationRow}
    (hr : r ∈ db.reservations.rows) (hid : r.id = plan.reservationId) :
    r.reservationKind = .admission ∧ r.admissionId = some plan.admissionId := by
  obtain ⟨r', hr', hid', hkind, hadm⟩ := hplan.reservation
  obtain rfl := reservation_eq_of_id db hr hr' (hid.trans hid'.symm)
  exact ⟨hkind, hadm⟩

lemma admissionKind_of_admissionId {r : ReservationRow} (hr : r ∈ db.reservations.rows)
    (hx : r.admissionId = some x) : r.reservationKind = .admission := by
  have hcheck := db.reservations.check_of_mem hr
  cases hkind : r.reservationKind with
  | admission => rfl
  | executionTemp =>
    simp [ReservationRow.spec, ReservationRow.check, ReservationRow.dimensions, hkind, hx] at hcheck

lemma PlanOk.of_eq (hplan : PlanOk db plan) (hadm : db'.admissions = db.admissions)
    (hres : db'.reservations = db.reservations) : PlanOk db' plan :=
  ⟨hplan.admission.of_admissions hadm, by rw [hres]; exact hplan.reservation⟩

end Keys

/-- The admission repeats the submission of the request's origin, and under the same key the
request. -/
structure Matches (m : AdmissionManifest) (a : AdmissionRow) : Prop where
  origin : a.comparison.toOriginComparison = m.comparison.toOriginComparison
  exact_key : a.idempotencyKey = m.idempotencyKey → a.comparison = m.comparison

def admissionOf (db : Db) (m : AdmissionManifest) : Option AdmissionRow :=
  (SpoolAdmissionLedger.findIdempotency db m).or (SpoolAdmissionLedger.findOrigin db m)

namespace SpoolAdmissionLedger

variable {F : PrintJobRow → Prop} {db db' : Db} {now : Time}

lemma releaseWhere_eq {p : ReservationRow → Bool} (h : releaseWhere db p now = .ok db') :
    ∃ reservations, db' = { db with reservations := reservations } ∧
      reservations.rows = Table.updated db.reservations.rows (fun r => p r && r.state.active)
        (SqliteExecutionLedger.releasedRow now) := by
  simp only [releaseWhere, bind_ok, pure_ok] at h
  obtain ⟨reservations, hres, rfl⟩ := h
  exact ⟨reservations, rfl, Table.update_rows hres⟩

structure PlanWrites (F : PrintJobRow → Prop) (db db' : Db) (admissionId : String) : Prop where
  writes : SpoolWrites F db db'
  others : OthersOpen db db' admissionId

lemma PlanWrites.refl (F : PrintJobRow → Prop) (db : Db) (x : String) : PlanWrites F db db x :=
  ⟨.refl, .refl db x⟩

variable {plan : AdmissionPlan} {x : String} {owner : SpoolOwner} {policy : SpoolCapacityPolicy}
  {row : AdmissionRow} {ids : PlanIds} {m : AdmissionManifest} {graphOk : Bool}

lemma releaseWhere_writes {p : ReservationRow → Bool} {artifacts : Table ArtifactRow.spec}
    (hopen : Unaccepted db x) (h : releaseWhere { db with artifacts } p now = .ok db')
    (hp : ∀ r ∈ db.reservations.rows, p r = true → r.admissionId = some x) :
    PlanWrites F db db' x := by
  obtain ⟨reservations, rfl, hres⟩ := releaseWhere_eq h
  refine ⟨.single (.release p now ?_ hres rfl rfl rfl rfl), .of_admissions rfl⟩
  intro r hr hpr
  exact ⟨x, hp r hr hpr, hopen⟩

lemma releaseReservation_writes (hplan : PlanOk db plan)
    (h : releaseReservation db plan.reservationId now = .ok db') :
    PlanWrites F db db' plan.admissionId :=
  releaseWhere_writes hplan.admission h fun _ hr hid =>
    (hplan.admission_of_reservation hr (by simpa using hid)).2

lemma removeMissingArtifact_writes {storageRef : String} (hplan : PlanOk db plan)
    (h : removeMissingArtifact db plan storageRef now = .ok db') :
    PlanWrites F db db' plan.admissionId :=
  releaseWhere_writes hplan.admission h fun _ hr hid =>
    (hplan.admission_of_reservation hr (by simpa using hid)).2

lemma releaseAdmissionReservations_writes (hopen : Unaccepted db x)
    (h : releaseAdmissionReservations db x now = .ok db') : PlanWrites F db db' x :=
  releaseWhere_writes hopen h fun _ _ hx => by simpa using hx

lemma recordStagedArtifact_eq {staged : StagedDocument}
    (h : recordStagedArtifact db plan staged now = .ok db') :
    ∃ artifacts, db' = { db with artifacts := artifacts } := by
  unfold recordStagedArtifact at h
  split at h
  · split at h
    · cases h
      exact ⟨db.artifacts, rfl⟩
    · cases h
  · simp only [bind_ok, pure_ok] at h
    obtain ⟨artifacts, -, rfl⟩ := h
    exact ⟨artifacts, rfl⟩

lemma abortPreaccept_writes {code : AbortCode} (hopen : Unaccepted db x)
    (h : abortPreaccept db x code now = .ok db') : PlanWrites F db db' x := by
  simp only [abortPreaccept, bind_ok, pure_ok] at h
  obtain ⟨db1, hrel, admissions, hadm, rfl⟩ := h
  obtain ⟨reservations, rfl, hres⟩ := releaseWhere_eq hrel
  have hfree : ∀ r ∈ reservations.rows, r.admissionId = some x → r.state.active = false := by
    intro r hr hx
    rcases Table.updated_cases hres hr with ⟨-, hp⟩ | ⟨a, -, -, rfl⟩
    · simpa [hx] using hp
    · rfl
  have hrows := Table.update_rows hadm
  refine ⟨.tail (b := { db with
    artifacts := db.artifacts.delete (fun a => a.admissionId == x && a.state == .staging)
    admissionKeys := db.admissionKeys.delete (fun k => k.admissionId == x)
    reservations := reservations }) (.single (.release _ now ?_ hres rfl rfl rfl rfl))
    (.abort x code.problem now hfree hrows rfl rfl rfl rfl), ?_⟩
  · intro r _ hr
    exact ⟨x, by simpa using hr, hopen⟩
  · intro y hy hopen
    obtain ⟨a, ha, hid, hstate⟩ := hopen
    exact ⟨a, Table.mem_left hrows ha (by simp [hid, hy]), hid, hstate⟩

lemma holdReservation_writes {bytes : Nat} (hopen : Unaccepted db plan.admissionId)
    (h : holdReservation owner db plan bytes now = .ok db') :
    SpoolWrite F db db' ∧ db'.admissions = db.admissions ∧ PlanOk db' plan := by
  simp only [holdReservation, bind_ok, pure_ok] at h
  obtain ⟨reservations, hins, rfl⟩ := h
  have hres := Table.insert_rows hins
  refine ⟨.hold _ plan.admissionId rfl rfl rfl rfl hopen hres rfl rfl rfl rfl, rfl,
    hopen.of_admissions rfl, ?_⟩
  rw [hres]
  exact ⟨_, List.mem_append_right _ (List.mem_singleton_self _), rfl, rfl, rfl⟩

/-! ## What `prepare` can do -/

structure Found (db : Db) (m : AdmissionManifest) (row : AdmissionRow) : Prop where
  mem : row ∈ db.admissions.rows
  found : admissionOf db m = some row
  same : Matches m row

/-- The answer of an accepted admission, or the plan of an open or a new one. -/
inductive Preparing (policy : SpoolCapacityPolicy) (owner : SpoolOwner) (db : Db)
    (m : AdmissionManifest) (now : Time) : Db → Prepared → Prop
  | replayed (row : AdmissionRow) (a : AdmissionAccepted) (hrow : Found db m row)
      (hstate : row.state = .accepted) (hok : acceptedFromRow row true = .ok a) :
      Preparing policy owner db m now db (.accepted a)
  | resumed (row : AdmissionRow) (proof : AuthorityProof) (active : ReservationRow)
      (artifactId : String) (hrow : Found db m row)
      (hopen : row.state = .staging ∨ row.state = .finalizing)
      (hactive : active ∈ db.reservations.rows ∧ active.admissionId = some row.id ∧
        active.state.active = true) :
      Preparing policy owner db m now db
        (.plan ⟨row.id, row.plannedJobId, active.id, artifactId, row.manifest proof⟩)
  | held (row : AdmissionRow) (proof : AuthorityProof) (plan : AdmissionPlan) (db' : Db)
      (hrow : Found db m row) (hopen : row.state = .staging ∨ row.state = .finalizing)
      (hplan : plan = ⟨row.id, row.plannedJobId, plan.reservationId, plan.artifactId,
        row.manifest proof⟩)
      (hquota : assertQuota policy db row.deviceId row.originalSizeBytes
        (persistentBytes plan.manifest) = .ok ())
      (hhold : holdReservation owner db plan (persistentBytes plan.manifest) now = .ok db') :
      Preparing policy owner db m now db' (.plan plan)
  | created (plan : AdmissionPlan) (admissions : Table AdmissionRow.spec)
      (proofs : Table AuthorityProofRow.spec) (db' : Db) (hkey : findIdempotency db m = none)
      (horigin : findOrigin db m = none) (hmanifest : plan.manifest = m)
      (hadm : admissions.rows =
        db.admissions.rows ++ [stagingRow plan.admissionId plan.jobId m now])
      (hquota : assertQuota policy db m.deviceId m.originalSizeBytes (persistentBytes m) = .ok ())
      (hhold : holdReservation owner { db with admissions := admissions, proofs := proofs } plan
        (persistentBytes m) now = .ok db') :
      Preparing policy owner db m now db' (.plan plan)

lemma matches_of_exact (hexact : row.comparison = m.comparison) : Matches m row :=
  ⟨by rw [hexact], fun _ => hexact⟩

lemma matches_of_findOrigin (hnone : findIdempotency db m = none) (h : findOrigin db m = some row)
    (hsame : sameOriginSubmission row m = true) : Matches m row := by
  obtain ⟨ha, hp⟩ := Table.first_spec h
  simp only [Bool.and_eq_true] at hp
  refine ⟨by simpa [sameOriginSubmission] using hsame, fun hkey => ?_⟩
  have := Table.first_none hnone ha
  simp [hp.1, hkey] at this

lemma raiseIfAborted_ok {u : Unit} (h : raiseIfAborted row = .ok u) : row.state ≠ .aborted := by
  unfold raiseIfAborted at h
  split at h
  · split at h <;> cases h
  · assumption

lemma resumeOrReplay_preparing {prepared : Prepared} (hrow : Found db m row)
    (h : resumeOrReplay policy owner db row now ids = .ok (db', prepared)) :
    Preparing policy owner db m now db' prepared := by
  simp only [resumeOrReplay, bind_ok] at h
  obtain ⟨_, hab, h⟩ := h
  split at h
  · rename_i hstate
    simp only [bind_ok, pure_ok, Prod.mk.injEq] at h
    obtain ⟨a, hok, rfl, rfl⟩ := h
    exact .replayed row a hrow hstate hok
  · rename_i hacc
    simp only [resumePlan, bind_ok, pure_ok, Prod.mk.injEq] at h
    obtain ⟨⟨db1, plan⟩, ⟨proof, -, h⟩, rfl, rfl⟩ := h
    have hopen : row.state = .staging ∨ row.state = .finalizing := by
      have hab := raiseIfAborted_ok hab
      cases hstate : row.state <;> simp_all
    split at h
    · simp only [bind_ok, pure_ok, Prod.mk.injEq] at h
      obtain ⟨_, hquota, reservationId, -, artifactId, -, db1, hhold, rfl, rfl⟩ := h
      exact .held row proof _ _ hrow hopen rfl hquota hhold
    · rename_i active hactive
      simp only [bind_ok, pure_ok, Prod.mk.injEq] at h
      obtain ⟨artifactId, -, rfl, rfl⟩ := h
      obtain ⟨hmem, hp⟩ := Table.first_spec hactive
      simp only [Bool.and_eq_true, beq_iff_eq] at hp
      exact .resumed row proof active artifactId hrow hopen ⟨hmem, hp⟩

lemma insertAuthorityProof_eq (h : insertAuthorityProof db x m graphOk = .ok db') :
    ∃ proofs, db' = { db with proofs := proofs } := by
  simp only [insertAuthorityProof] at h
  split at h
  · simp only [bind_ok, require_ok, pure_ok] at h
    obtain ⟨-, -, rfl⟩ := h
    exact ⟨db.proofs, rfl⟩
  · simp only [bind_ok, require_ok, pure_ok] at h
    obtain ⟨-, -, proofs, -, rfl⟩ := h
    exact ⟨proofs, rfl⟩

theorem prepare_preparing {prepared : Prepared}
    (h : prepare policy owner db m now ids graphOk = .ok (db', prepared)) :
    Preparing policy owner db m now db' prepared := by
  unfold prepare at h
  split at h
  · rename_i existing hfind
    rw [bind_ok] at h
    obtain ⟨_, hexact, h⟩ := h
    have hexact : existing.comparison = m.comparison := by simpa [assertExactReplay] using hexact
    refine resumeOrReplay_preparing ⟨(Table.first_spec hfind).1, ?_, matches_of_exact hexact⟩ h
    rw [admissionOf, hfind, Option.some_or]
  · rename_i hkey
    split at h
    · rename_i origin hfind
      rw [bind_ok] at h
      obtain ⟨_, hsame, h⟩ := h
      refine resumeOrReplay_preparing ⟨(Table.first_spec hfind).1, ?_,
        matches_of_findOrigin hkey hfind (require_ok.mp hsame)⟩ h
      rw [admissionOf, hkey, Option.none_or, hfind]
    · rename_i horigin
      simp only [createAdmission, bind_ok, pure_ok, Prod.mk.injEq] at h
      obtain ⟨_, ⟨_, hquota, x, -, jobId, -, reservationId, -, artifactId, -, admissions, hins, db1,
        hproof, db2, hhold, rfl⟩, rfl, rfl⟩ := h
      obtain ⟨proofs, rfl⟩ := insertAuthorityProof_eq hproof
      exact .created _ admissions proofs _ hkey horigin rfl (Table.insert_rows hins) hquota hhold

def PreparedOk (db : Db) : Prepared → Prop
  | .accepted _ => True
  | .plan plan => PlanOk db plan

theorem Preparing.writes {prepared : Prepared} (h : Preparing policy owner db m now db' prepared) :
    SpoolWrites F db db' ∧ PreparedOk db' prepared := by
  cases h with
  | replayed => exact ⟨.refl, trivial⟩
  | resumed row proof active artifactId hrow hopen hactive =>
    obtain ⟨hmem, hadmission, -⟩ := hactive
    exact ⟨.refl, ⟨row, hrow.mem, rfl, hopen⟩, active, hmem, rfl,
      admissionKind_of_admissionId hmem hadmission, hadmission⟩
  | held row proof plan _ hrow hopen hplan _ hhold =>
    have hopen : Unaccepted db plan.admissionId := by
      rw [hplan]
      exact ⟨row, hrow.mem, rfl, hopen⟩
    obtain ⟨hw, -, hplan⟩ := holdReservation_writes hopen hhold
    exact ⟨.single hw, hplan⟩
  | created plan admissions proofs _ _ horigin _ hadm _ hhold =>
    have hopen : Unaccepted { db with admissions := admissions, proofs := proofs }
        plan.admissionId := by
      refine ⟨stagingRow plan.admissionId plan.jobId m now, ?_, rfl, .inl rfl⟩
      show _ ∈ admissions.rows
      rw [hadm]
      exact List.mem_append_right _ (List.mem_singleton_self _)
    obtain ⟨hw, -, hplan⟩ := holdReservation_writes hopen hhold
    have hnew : ∀ a ∈ db.admissions.rows, inScope m a = true →
        a.originSubmissionKey ≠ m.originSubmissionKey := by
      intro a ha hscope hkey
      have := Table.first_none horigin ha
      simp [hscope, hkey] at this
    have hadmit : SpoolWrite F db { db with admissions := admissions, proofs := proofs } :=
      .stage plan.admissionId plan.jobId m now hnew hadm rfl rfl rfl rfl
    exact ⟨.tail (.single hadmit) hw, hplan⟩

end SpoolAdmissionLedger

namespace DurableSpoolAdmissionStore

open SpoolAdmissionLedger

variable {F : PrintJobRow → Prop} {db db' : Db} {now : Time} {plan : AdmissionPlan}

structure PublishesJob (db db' : Db) (plan : AdmissionPlan) (row : AdmissionRow) (now : Time) : Prop
    where
  admissions : db'.admissions.rows = Table.updated db.admissions.rows
    (fun r => r.id == plan.admissionId) (acceptedRow plan.jobId now)
  reservations : db'.reservations.rows = Table.updated db.reservations.rows
    (fun r => r.id == plan.reservationId) (committedRow plan.jobId)
  jobs : db'.jobs.rows = db.jobs.rows ++ [publishedRow plan row now]
  events : db'.events.rows = db.events.rows ++ [⟨nextSequence db.events, plan.jobId, 1, .accepted,
    (publishedRow plan row now).view, now⟩]
  attempts : db'.attempts = db.attempts

lemma publish_job {row : AdmissionRow} {artifact : ArtifactRow} {key : AdmissionKeyRow}
    (h : publish db plan row artifact key now = .ok db') : PublishesJob db db' plan row now := by
  simp only [publish, bind_ok, pure_ok] at h
  obtain ⟨adm1, hadm1, jobs, hjobs, jobKeys, -, reservations, hres, artifacts, -, admissions, hadm,
    ⟨db1, n⟩, hev, rfl⟩ := h
  obtain ⟨events, rfl, hevents, -⟩ := insertEvent_eq hev
  refine ⟨?_, Table.update_rows hres, Table.insert_rows hjobs, hevents, rfl⟩
  show admissions.rows = _
  rw [Table.update_rows hadm, Table.update_rows hadm1]
  apply Table.updated_updated
  intro r _ hp
  simp only [Bool.and_eq_true, beq_iff_eq] at hp
  simp [hp.1]

lemma finalize_cases {env : AdmissionEnv} {a : AdmissionAccepted}
    (h : finalize env db plan now = .ok (db', a)) :
    ∃ row ∈ db.admissions.rows, row.id = plan.admissionId ∧
      (db' = db ∧ row.state = .accepted ∧ (∃ replayed, acceptedFromRow row replayed = .ok a) ∨
        PublishesJob db db' plan row now ∧ a.printJobId = plan.jobId ∧
          (plan.manifest.managedWorkId.isNone ||
            env.managedDeviceIsShared plan.manifest.deviceId) = true) := by
  simp only [finalize, bind_ok] at h
  obtain ⟨row, hone, h⟩ := h
  obtain ⟨hrow, hid⟩ := Table.one_spec hone
  refine ⟨row, hrow, by simpa using hid, ?_⟩
  split at h
  · rename_i hstate
    simp only [bind_ok, pure_ok, Prod.mk.injEq] at h
    obtain ⟨_, hok, rfl, rfl⟩ := h
    exact .inl ⟨rfl, hstate, _, hok⟩
  · simp only [bind_ok, pure_ok, Prod.mk.injEq] at h
    obtain ⟨_, hshared, -, -, artifact, -, present, -, -, -, key, -, -, -, db1, hpub, rfl, rfl⟩ := h
    exact .inr ⟨publish_job hpub, rfl, require_ok.mp hshared⟩

lemma finalize_writes {env : AdmissionEnv} {a : AdmissionAccepted} (hplan : PlanOk db plan)
    (h : finalize env db plan now = .ok (db', a)) : PlanWrites F db db' plan.admissionId := by
  obtain ⟨row, hrow, hid, ⟨rfl, -⟩ | ⟨hpub, -⟩⟩ := finalize_cases h
  · exact .refl F _ _
  · have hopen : row.state = .staging ∨ row.state = .finalizing := by
      obtain ⟨a, ha, hida, hstate⟩ := hplan.admission
      obtain rfl := admission_eq_of_id db hrow ha (hid.trans hida.symm)
      exact hstate
    refine ⟨.single (.publish plan row now hrow hid hopen hplan hpub.admissions
      hpub.reservations hpub.jobs hpub.events hpub.attempts), ?_⟩
    rintro x hx ⟨a, ha, hida, hstate⟩
    exact ⟨a, Table.mem_left hpub.admissions ha (by simp [hida, hx]), hida, hstate⟩

lemma failAcceptedJobWithoutContent_writes {job : PrintJobRow} {artifact : Option ArtifactRow}
    (hF : F job) (hjob : job.entry ∈ db.journal.log)
    (h : failAcceptedJobWithoutContent db job artifact now = .ok db') : SpoolWrites F db db' := by
  simp only [failAcceptedJobWithoutContent, bind_ok] at h
  obtain ⟨jobs, hjobs, h⟩ := h
  split at h
  · rw [pure_ok] at h
    exact h ▸ .refl
  · rename_i hcount
    simp only [bind_ok, pure_ok] at h
    obtain ⟨⟨db1, n⟩, hev, artifacts, -, jobKeys, -, reservations, hres, rfl⟩ := h
    obtain ⟨events, rfl, hevents, -⟩ := insertEvent_eq hev
    have hpos : 0 < db.jobs.rows.countP (stillAccepted job) := Nat.pos_of_ne_zero hcount
    exact .single (.fail job now hF hjob (List.countP_pos_iff.mp hpos) (Table.update_rows hjobs)
      hevents (Table.update_rows hres) rfl rfl)

end DurableSpoolAdmissionStore

end Inari.Agent
