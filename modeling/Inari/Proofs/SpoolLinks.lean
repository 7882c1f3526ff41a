import Inari.Proofs.AgentJournal

/-!
# Admissions, reservations and jobs belong together

The links say which states of the rows go together.
-/

namespace Inari.Agent

open Lib SqliteExecutionLedger DurableSpoolAdmissionStore

variable {F : PrintJobRow → Prop} {db db' : Db}

abbrev Scope := ScopeKind × String × String × Option String × Option String

def AdmissionRow.scope (a : AdmissionRow) : Scope :=
  (a.scopeKind, a.organizationId, a.siteId, a.posConfigurationId, a.pairedClientId)

def PrintJobRow.scope (j : PrintJobRow) : Scope :=
  (j.scopeKind, j.organizationId, j.siteId, j.posConfigurationId, j.pairedClientId)

/-- The admission a job was published from. -/
structure Published (a : AdmissionRow) (j : PrintJobRow) : Prop where
  id : a.id = j.admissionId
  state : a.state = .accepted
  jobId : a.jobId = some j.id
  scope : a.scope = j.scope
  managedWorkId : a.managedWorkId = j.managedWorkId

structure ReservedFor (a : AdmissionRow) (r : ReservationRow) : Prop where
  id : r.admissionId = some a.id
  held : r.state = .held → a.state = .staging ∨ a.state = .finalizing
  published : ∀ jobId, r.jobId = some jobId → a.state = .accepted ∧ a.jobId = some jobId

/-- Admissions of one scope have different origin submission keys. -/
def OneOrigin (db : Db) : Prop :=
  ∀ a ∈ db.admissions.rows, ∀ b ∈ db.admissions.rows, a.scope = b.scope →
    a.originSubmissionKey = b.originSubmissionKey → a = b

structure SpoolLinks (db : Db) : Prop where
  reservation : ∀ r ∈ db.reservations.rows, r.reservationKind = .admission →
    ∃ a ∈ db.admissions.rows, ReservedFor a r
  job : ∀ j ∈ db.jobs.rows, ∃ a ∈ db.admissions.rows, Published a j
  covered : ∀ j ∈ db.jobs.rows, ∃ r ∈ db.reservations.rows,
    r.reservationKind = .admission ∧ r.jobId = some j.id
  owner : ∀ r ∈ db.reservations.rows, r.reservationKind = .admission →
    ∀ jobId, r.jobId = some jobId → ∃ j ∈ db.jobs.rows, j.id = jobId ∧
      (r.state.active = false → j.state.terminal = true)
  origin : OneOrigin db

lemma spoolLinks_empty : SpoolLinks ({} : Db) := by
  constructor <;> simp [OneOrigin]

lemma SpoolLinks.of_eq (h : SpoolLinks db) (hadm : db'.admissions = db.admissions)
    (hres : db'.reservations = db.reservations) (hjobs : db'.jobs = db.jobs) : SpoolLinks db' := by
  constructor
  · rw [hres, hadm]; exact h.reservation
  · rw [hjobs, hadm]; exact h.job
  · rw [hjobs, hres]; exact h.covered
  · rw [hres, hjobs]; exact h.owner
  · rw [OneOrigin, hadm]; exact h.origin

variable {x : String} {now : Time} {j : PrintJobRow}

/-- A reservation has no job before its admission is accepted. -/
lemma SpoolLinks.no_job (h : SpoolLinks db) {r : ReservationRow} (hr : r ∈ db.reservations.rows)
    (hx : r.admissionId = some x) (hopen : Unaccepted db x) : r.jobId = none := by
  obtain ⟨a, ha, hlink⟩ := h.reservation r hr (admissionKind_of_admissionId hr hx)
  obtain ⟨b, hb, hid, hstate⟩ := hopen
  have hab : a = b := by
    apply admission_eq_of_id db ha hb
    have := hlink.id.symm.trans hx
    exact (Option.some.inj this).trans hid.symm
  subst hab
  cases hjob : r.jobId with
  | none => rfl
  | some jobId =>
    have hacc := (hlink.published jobId hjob).1
    rcases hstate with h | h <;> simp [hacc] at h

/-- The unique index does not cover rows without a POS configuration: `prepare` looks for the key.
-/
lemma stage_origin {jobId : String} {m : AdmissionManifest} (h : SpoolLinks db)
    (hnew : ∀ a ∈ db.admissions.rows, SpoolAdmissionLedger.inScope m a = true →
      a.originSubmissionKey ≠ m.originSubmissionKey)
    (hadm : db'.admissions.rows = db.admissions.rows ++
      [SpoolAdmissionLedger.stagingRow x jobId m now]) : OneOrigin db' := by
  -- an old row in the scope of the new one has another key
  have fresh : ∀ a ∈ db.admissions.rows, m.posConfigurationId = none →
      a.scope = (SpoolAdmissionLedger.stagingRow x jobId m now).scope →
      a.originSubmissionKey ≠ m.originSubmissionKey := by
    intro a ha hpos hscope
    apply hnew a ha
    simp only [AdmissionRow.scope, SpoolAdmissionLedger.stagingRow, Prod.mk.injEq] at hscope
    obtain ⟨hkind, horg, hsite, hapos, -⟩ := hscope
    have hshape := db.admissions.check_of_mem ha
    simp only [AdmissionRow.spec, AdmissionRow.check, Bool.and_eq_true] at hshape
    have hshape : scopeShape a.scopeKind a.posConfigurationId a.pairedClientId = true := hshape.1.2
    rw [hapos, hpos] at hshape
    cases hk : m.scopeKind with
    | pairedClient => simp [scopeShape, hkind, hk] at hshape
    | deviceManager =>
      simp only [scopeShape, hkind, hk] at hshape
      have hnone : a.pairedClientId = none := by simpa using hshape
      simp [SpoolAdmissionLedger.inScope, hkind, hk, horg, hsite, hapos, hpos, hnone]
  intro a ha b hb hscope hkey
  by_cases hpos : a.posConfigurationId = none
  · have hposb : b.posConfigurationId = none := by
      simp only [AdmissionRow.scope, Prod.mk.injEq] at hscope
      exact hscope.2.2.2.1.symm.trans hpos
    rw [hadm, List.mem_append, List.mem_singleton] at ha hb
    rcases ha with ha | rfl <;> rcases hb with hb | rfl
    · exact h.origin a ha b hb hscope hkey
    · exact absurd hkey (fresh a ha hposb hscope)
    · exact absurd hkey.symm (fresh b hb hpos hscope.symm)
    · rfl
  · simp only [AdmissionRow.scope, Prod.mk.injEq] at hscope
    obtain ⟨hkind, horg, hsite, hposb, hclient⟩ := hscope
    refine db'.admissions.eq_of_key (u := AdmissionRow.uqOriginSubmission)
      (by simp [AdmissionRow.spec]) ha hb (k := (b.scopeKind, b.organizationId, b.siteId,
        b.posConfigurationId, b.pairedClientId, b.originSubmissionKey)) ?_ ?_
    · simp [AdmissionRow.uqOriginSubmission, hkind, horg, hsite, ← hposb, hclient, hkey, hpos]
    · simp [AdmissionRow.uqOriginSubmission, ← hposb, hpos]

/-- The links hold after a write of admissions that keeps the accepted ones. -/
lemma SpoolLinks.admissions (h : SpoolLinks db)
    (hreserved : ∀ r ∈ db.reservations.rows, ∀ a ∈ db.admissions.rows, ReservedFor a r →
      ∃ a' ∈ db'.admissions.rows, ReservedFor a' r)
    (haccepted : ∀ a ∈ db.admissions.rows, a.state = .accepted → a ∈ db'.admissions.rows)
    (horigin : OneOrigin db')
    (hres : db'.reservations = db.reservations) (hjobs : db'.jobs = db.jobs) : SpoolLinks db' := by
  refine ⟨?_, ?_, ?_, ?_, horigin⟩
  · rw [hres]
    intro r hr hkind
    obtain ⟨a, ha, hlink⟩ := h.reservation r hr hkind
    exact hreserved r hr a ha hlink
  · rw [hjobs]
    intro j hj
    obtain ⟨a, ha, hlink⟩ := h.job j hj
    exact ⟨a, haccepted a ha hlink.state, hlink⟩
  · rw [hjobs, hres]; exact h.covered
  · rw [hres, hjobs]; exact h.owner

/-- The links hold after a write of reservations that have no job. -/
lemma SpoolLinks.reservations (h : SpoolLinks db)
    (hback : ∀ r ∈ db'.reservations.rows, r ∈ db.reservations.rows ∨
      r.jobId = none ∧ ∃ a ∈ db.admissions.rows, ReservedFor a r)
    (hkept : ∀ r ∈ db.reservations.rows, r.jobId ≠ none → r ∈ db'.reservations.rows)
    (hadm : db'.admissions = db.admissions) (hjobs : db'.jobs = db.jobs) : SpoolLinks db' := by
  refine ⟨?_, ?_, ?_, ?_, ?_⟩
  · rw [hadm]
    intro r hr hkind
    rcases hback r hr with hr | hnew
    · exact h.reservation r hr hkind
    · exact hnew.2
  · rw [hjobs, hadm]; exact h.job
  · rw [hjobs]
    intro j hj
    obtain ⟨r, hr, hkind, hjob⟩ := h.covered j hj
    exact ⟨r, hkept r hr (by simp [hjob]), hkind, hjob⟩
  · rw [hjobs]
    intro r hr hkind jobId hjob
    rcases hback r hr with hr | ⟨hnone, -⟩
    · exact h.owner r hr hkind jobId hjob
    · simp [hnone] at hjob
  · rw [OneOrigin, hadm]; exact h.origin

lemma SpoolLinks.stage {jobId : String} {m : AdmissionManifest} (h : SpoolLinks db)
    (hnew : ∀ a ∈ db.admissions.rows, SpoolAdmissionLedger.inScope m a = true →
      a.originSubmissionKey ≠ m.originSubmissionKey)
    (hadm : db'.admissions.rows = db.admissions.rows ++
      [SpoolAdmissionLedger.stagingRow x jobId m now]) (hres : db'.reservations = db.reservations)
    (hjobs : db'.jobs = db.jobs) : SpoolLinks db' := by
  have old : ∀ a ∈ db.admissions.rows, a ∈ db'.admissions.rows := by
    intro a ha
    rw [hadm]
    exact List.mem_append_left _ ha
  exact h.admissions (fun r _ a ha hlink => ⟨a, old a ha, hlink⟩) (fun a ha _ => old a ha)
    (stage_origin h hnew hadm) hres hjobs

lemma SpoolLinks.hold {held : ReservationRow} (h : SpoolLinks db) (hx : held.admissionId = some x)
    (hjob : held.jobId = none) (hopen : Unaccepted db x)
    (hres : db'.reservations.rows = db.reservations.rows ++ [held])
    (hadm : db'.admissions = db.admissions) (hjobs : db'.jobs = db.jobs) : SpoolLinks db' := by
  refine h.reservations (fun r hr => ?_) (fun r hr _ => ?_) hadm hjobs
  · rw [hres, List.mem_append, List.mem_singleton] at hr
    rcases hr with hr | rfl
    · exact .inl hr
    · obtain ⟨a, ha, hid, hstate⟩ := hopen
      exact .inr ⟨hjob, a, ha, hx.trans (congrArg some hid.symm), fun _ => hstate, by simp [hjob]⟩
  · rw [hres]
    exact List.mem_append_left _ hr

lemma SpoolLinks.release {p : ReservationRow → Bool} (h : SpoolLinks db)
    (hopen : ∀ r ∈ db.reservations.rows, p r = true →
      ∃ x, r.admissionId = some x ∧ Unaccepted db x)
    (hres : db'.reservations.rows = Table.updated db.reservations.rows
      (fun r => p r && r.state.active) (releasedRow now)) (hadm : db'.admissions = db.admissions)
    (hjobs : db'.jobs = db.jobs) : SpoolLinks db' := by
  have nojob : ∀ r ∈ db.reservations.rows, p r = true → r.reservationKind = .admission ∧
      r.jobId = none := by
    intro r hr hp
    obtain ⟨x, hx, hun⟩ := hopen r hr hp
    exact ⟨admissionKind_of_admissionId hr hx, h.no_job hr hx hun⟩
  refine h.reservations (fun r hr => ?_) (fun r hr hjob => Table.mem_left hres hr ?_) hadm hjobs
  · rcases Table.updated_cases hres hr with ⟨hr, -⟩ | ⟨r₀, hr₀, hp, rfl⟩
    · exact .inl hr
    · obtain ⟨hkind, hnone⟩ := nojob r₀ hr₀ (Bool.and_eq_true_iff.mp hp).1
      obtain ⟨a, ha, hlink⟩ := h.reservation r₀ hr₀ hkind
      exact .inr ⟨hnone, a, ha, hlink.id, by simp [releasedRow], hlink.published⟩
  · rw [Bool.and_eq_false_iff, Bool.eq_false_iff]
    exact .inl fun hp => hjob (nojob r hr hp).2

/-- An update does not move a row to another scope or key. -/
lemma origin_updated {p : AdmissionRow → Bool} {f : AdmissionRow → AdmissionRow}
    (h : SpoolLinks db) (hadm : db'.admissions.rows = Table.updated db.admissions.rows p f)
    (hf : ∀ a, (f a).scope = a.scope ∧ (f a).originSubmissionKey = a.originSubmissionKey) :
    OneOrigin db' := by
  have keep : ∀ a, (if p a then f a else a).scope = a.scope ∧
      (if p a then f a else a).originSubmissionKey = a.originSubmissionKey := by
    intro a
    split
    · exact hf a
    · exact ⟨rfl, rfl⟩
  intro a ha b hb hscope hkey
  rw [hadm, Table.mem_updated] at ha hb
  obtain ⟨a, ha, rfl⟩ := ha
  obtain ⟨b, hb, rfl⟩ := hb
  rw [(keep a).1, (keep b).1] at hscope
  rw [(keep a).2, (keep b).2] at hkey
  rw [h.origin a ha b hb hscope hkey]

lemma SpoolLinks.abort {code : ProblemCode} (h : SpoolLinks db)
    (hfree : ∀ r ∈ db.reservations.rows, r.admissionId = some x → r.state.active = false)
    (hadm : db'.admissions.rows = Table.updated db.admissions.rows
      (fun r => r.id == x && (r.state == .staging || r.state == .finalizing))
      (abortedRow code now)) (hres : db'.reservations = db.reservations)
    (hjobs : db'.jobs = db.jobs) : SpoolLinks db' := by
  refine h.admissions (fun r hr a ha hlink => ?_)
    (fun a ha hstate => Table.mem_left hadm ha (by simp [hstate]))
    (origin_updated h hadm (fun _ => ⟨rfl, rfl⟩)) hres hjobs
  cases hp : a.id == x && (a.state == .staging || a.state == .finalizing) with
  | false => exact ⟨a, Table.mem_left hadm ha hp, hlink⟩
  | true =>
    -- the aborted admission has no reservation in force
    refine ⟨_, Table.mem_written hadm ha hp, hlink.id, ?_, ?_⟩
    all_goals simp only [Bool.and_eq_true, Bool.or_eq_true, beq_iff_eq] at hp
    · intro hheld
      have hfree' := hfree r hr (hlink.id.trans (congrArg some hp.1))
      simp [hheld, ReservationState.active] at hfree'
    · intro jobId hjob
      have hacc := (hlink.published jobId hjob).1
      rcases hp.2 with hs | hs <;> simp [hacc] at hs

/-- The committed reservation of an admission is its only active one. -/
lemma PlanOk.not_held {plan : AdmissionPlan} (hplan : PlanOk db plan)
    (hres : db'.reservations.rows = Table.updated db.reservations.rows
      (fun r => r.id == plan.reservationId) (committedRow plan.jobId))
    {r : ReservationRow} (hr : r ∈ db.reservations.rows) (hne : r.id ≠ plan.reservationId)
    (hx : r.admissionId = some plan.admissionId) : r.state ≠ .held := by
  intro hstate
  obtain ⟨c, hc, hcid, -, hcx⟩ := hplan.reservation
  have hmem : r ∈ db'.reservations.rows := Table.mem_left hres hr (by simp [hne])
  have hcmem : committedRow plan.jobId c ∈ db'.reservations.rows :=
    Table.mem_written hres hc (by simp [hcid])
  have heq : r = committedRow plan.jobId c := by
    refine db'.reservations.eq_of_key (u := ReservationRow.uqAdmissionActive)
      (by simp [ReservationRow.spec]) hmem hcmem (k := plan.admissionId) ?_ ?_
    · simp [ReservationRow.uqAdmissionActive, hstate, ReservationState.active, hx]
    · simp [ReservationRow.uqAdmissionActive, committedRow, ReservationState.active, hcx]
  exact hne (heq ▸ hcid)

/-- Admission, reservation and job change together. -/
lemma SpoolLinks.publish {plan : AdmissionPlan} {row : AdmissionRow} (h : SpoolLinks db)
    (hrow : row ∈ db.admissions.rows) (hid : row.id = plan.admissionId) (hplan : PlanOk db plan)
    (hadm : db'.admissions.rows = Table.updated db.admissions.rows
      (fun r => r.id == plan.admissionId) (acceptedRow plan.jobId now))
    (hres : db'.reservations.rows = Table.updated db.reservations.rows
      (fun r => r.id == plan.reservationId) (committedRow plan.jobId))
    (hjobs : db'.jobs.rows = db.jobs.rows ++ [publishedRow plan row now]) : SpoolLinks db' := by
  have accepted : acceptedRow plan.jobId now row ∈ db'.admissions.rows :=
    Table.mem_written hadm hrow (by simp [hid])
  have keep : ∀ a ∈ db.admissions.rows, a.id ≠ plan.admissionId → a ∈ db'.admissions.rows :=
    fun a ha hne => Table.mem_left hadm ha (by simp [hne])
  have ofPlan : ∀ r ∈ db.reservations.rows, r.id = plan.reservationId →
      r.admissionId = some plan.admissionId :=
    fun r hr hrid => (hplan.admission_of_reservation hr hrid).2
  have jobs : ∀ j, j ∈ db'.jobs.rows ↔ j ∈ db.jobs.rows ∨ j = publishedRow plan row now := by
    intro j
    rw [hjobs, List.mem_append, List.mem_singleton]
  refine ⟨?_, ?_, ?_, ?_, origin_updated h hadm (fun _ => ⟨rfl, rfl⟩)⟩
  · intro r hr hkind
    rcases Table.updated_cases hres hr with ⟨hr, hrid⟩ | ⟨r₀, hr₀, hrid, rfl⟩
    · rw [beq_eq_false_iff_ne] at hrid
      obtain ⟨a, ha, hlink⟩ := h.reservation r hr hkind
      by_cases haid : a.id = plan.admissionId
      · -- another reservation of the same admission is out of force and has no job
        have hx : r.admissionId = some plan.admissionId := hlink.id.trans (congrArg some haid)
        refine ⟨_, accepted, hx.trans (congrArg some hid.symm), ?_, ?_⟩
        · intro hstate
          exact absurd hstate (hplan.not_held hres hr hrid hx)
        · intro jobId hjob
          simp [h.no_job hr hx hplan.admission] at hjob
      · exact ⟨a, keep a ha haid, hlink⟩
    · refine ⟨_, accepted, ?_, by simp [committedRow], fun jobId hjob => ⟨rfl, hjob⟩⟩
      exact (ofPlan r₀ hr₀ (beq_iff_eq.mp hrid)).trans (congrArg some hid.symm)
  · intro j hj
    rcases (jobs j).mp hj with hj | rfl
    · obtain ⟨a, ha, hlink⟩ := h.job j hj
      have hne : a.id ≠ plan.admissionId := by
        intro haid
        obtain ⟨b, hb, hbid, hopen⟩ := hplan.admission
        obtain rfl := admission_eq_of_id db ha hb (haid.trans hbid.symm)
        rcases hopen with hs | hs <;> simp [hlink.state] at hs
      exact ⟨a, keep a ha hne, hlink⟩
    · exact ⟨_, accepted, hid, rfl, rfl, rfl, rfl⟩
  · intro j hj
    rcases (jobs j).mp hj with hj | rfl
    · obtain ⟨r, hr, hkind, hjob⟩ := h.covered j hj
      have hrid : r.id ≠ plan.reservationId := by
        intro hrid
        simp [h.no_job hr (ofPlan r hr hrid) hplan.admission] at hjob
      exact ⟨r, Table.mem_left hres hr (by simp [hrid]), hkind, hjob⟩
    · obtain ⟨c, hc, hcid, hckind, -⟩ := hplan.reservation
      exact ⟨_, Table.mem_written hres hc (by simp [hcid]), hckind, rfl⟩
  · intro r hr hkind jobId hjob
    rcases Table.updated_cases hres hr with ⟨hr, -⟩ | ⟨_, _, -, rfl⟩
    · obtain ⟨j, hj, hlink⟩ := h.owner r hr hkind jobId hjob
      exact ⟨j, (jobs j).mpr (.inl hj), hlink⟩
    · refine ⟨_, (jobs _).mpr (.inr rfl), Option.some.inj hjob, ?_⟩
      simp [committedRow, ReservationState.active]

/-- The reservation of a failed job is released with it. -/
lemma SpoolLinks.fail {job : PrintJobRow} (h : SpoolLinks db)
    (hmatched : ∃ r ∈ db.jobs.rows, stillAccepted job r = true)
    (hjobs : db'.jobs.rows = Table.updated db.jobs.rows (stillAccepted job)
      (contentLostRow job now)) (hres : db'.reservations.rows = Table.updated db.reservations.rows
      (fun r => r.jobId == some job.id && r.state == .committed) (releasedRow now))
    (hadm : db'.admissions = db.admissions) : SpoolLinks db' := by
  have failed : ∀ j ∈ db.jobs.rows, j.id = job.id → stillAccepted job j = true := by
    intro j hj hid
    obtain ⟨m, hm, hmp⟩ := hmatched
    have hmid := hmp
    simp only [stillAccepted, Bool.and_eq_true, beq_iff_eq] at hmid
    obtain rfl := job_eq_of_id db hj hm (hid.trans hmid.1.1.symm)
    exact hmp
  refine ⟨?_, ?_, ?_, ?_, ?_⟩
  · rw [hadm]
    intro r hr hkind
    rcases Table.updated_cases hres hr with ⟨hr, -⟩ | ⟨r₀, hr₀, -, rfl⟩
    · exact h.reservation r hr hkind
    · obtain ⟨a, ha, hlink⟩ := h.reservation r₀ hr₀ hkind
      exact ⟨a, ha, hlink.id, by simp [releasedRow], hlink.published⟩
  · rw [hadm]
    intro j hj
    rcases Table.updated_cases hjobs hj with ⟨hj, -⟩ | ⟨j₀, hj₀, -, rfl⟩
    · exact h.job j hj
    · obtain ⟨a, ha, hlink⟩ := h.job j₀ hj₀
      exact ⟨a, ha, hlink.id, hlink.state, hlink.jobId, hlink.scope, hlink.managedWorkId⟩
  · have covered : ∀ j ∈ db.jobs.rows, ∃ r ∈ db'.reservations.rows,
        r.reservationKind = .admission ∧ r.jobId = some j.id := by
      intro j hj
      obtain ⟨r, hr, hlink⟩ := h.covered j hj
      cases hp : r.jobId == some job.id && r.state == .committed with
      | false => exact ⟨r, Table.mem_left hres hr hp, hlink⟩
      | true => exact ⟨_, Table.mem_written hres hr hp, hlink⟩
    intro j hj
    rcases Table.updated_cases hjobs hj with ⟨hj, -⟩ | ⟨j₀, hj₀, -, rfl⟩
    · exact covered j hj
    · exact covered j₀ hj₀
  · have owner : ∀ r ∈ db.reservations.rows, r.reservationKind = .admission → ∀ jobId,
        r.jobId = some jobId → ∃ j ∈ db'.jobs.rows, j.id = jobId ∧
          (r.state.active = false ∨ jobId = job.id → j.state.terminal = true) := by
      intro r hr hkind jobId hjob
      obtain ⟨j, hj, hjid, hterm⟩ := h.owner r hr hkind jobId hjob
      cases hfail : stillAccepted job j with
      -- the failed job is terminal, whatever the reservation is
      | true => exact ⟨_, Table.mem_written hjobs hj hfail, hjid, fun _ => rfl⟩
      | false =>
        refine ⟨j, Table.mem_left hjobs hj hfail, hjid, fun hended => ?_⟩
        rcases hended with hfree | hsame
        · exact hterm hfree
        · rw [failed j hj (hjid.trans hsame)] at hfail
          cases hfail
    intro r hr hkind jobId hjob
    rcases Table.updated_cases hres hr with ⟨hr, -⟩ | ⟨r₀, hr₀, hp, rfl⟩
    · obtain ⟨j, hj, hjid, hterm⟩ := owner r hr hkind jobId hjob
      exact ⟨j, hj, hjid, fun hfree => hterm (.inl hfree)⟩
    · obtain ⟨j, hj, hjid, hterm⟩ := owner r₀ hr₀ hkind jobId hjob
      simp only [Bool.and_eq_true, beq_iff_eq] at hp
      exact ⟨j, hj, hjid, fun _ => hterm (.inr (Option.some.inj (hjob.symm.trans hp.1)))⟩
  · rw [OneOrigin, hadm]; exact h.origin

lemma SpoolLinks.write (h : SpoolLinks db) (hw : SpoolWrite F db db') : SpoolLinks db' := by
  cases hw with
  | other hadm hres hjobs => exact h.of_eq hadm hres hjobs
  | stage x jobId m now hnew hadm hres hjobs => exact h.stage hnew hadm hres hjobs
  | hold held x hkind hx hjob hstate hopen hres hadm hjobs =>
    exact h.hold hx hjob hopen hres hadm hjobs
  | release p now hopen hres hadm hjobs => exact h.release hopen hres hadm hjobs
  | abort x code now hfree hadm hres hjobs => exact h.abort hfree hadm hres hjobs
  | publish plan row now hrow hid _ hplan hadm hres hjobs =>
    exact h.publish hrow hid hplan hadm hres hjobs
  | fail job now _ hjob hmatched hjobs hevents hres hadm => exact h.fail hmatched hjobs hres hadm

/-- Any writes of the spool keep the links. -/
theorem SpoolLinks.writes (h : SpoolLinks db) (hw : SpoolWrites F db db') : SpoolLinks db' := by
  induction hw with
  | refl => exact h
  | tail _ hstep ih => exact ih.write hstep

lemma columns_of_identity {j' : PrintJobRow} (h : j.identity = j'.identity) :
    j.id = j'.id ∧ j.admissionId = j'.admissionId ∧ j.scope = j'.scope ∧
      j.managedWorkId = j'.managedWorkId := by
  have hid : j.identity.id = j'.identity.id := by rw [h]
  have hadm : j.identity.admissionId = j'.identity.admissionId := by rw [h]
  have hscope : j.identity.scope = j'.identity.scope := by rw [h]
  have hwork : j.identity.managedWorkId = j'.identity.managedWorkId := by rw [h]
  exact ⟨hid, hadm, hscope, hwork⟩

lemma JobFrame.before (h : JobFrame db db') (hj : j ∈ db'.jobs.rows) :
    ∃ j0 ∈ db.jobs.rows, j0.identity = j.identity := by
  have hmem : j.identity ∈ db'.jobs.rows.map PrintJobRow.identity := List.mem_map_of_mem hj
  rw [h.identity, List.mem_map] at hmem
  exact hmem

lemma JobFrame.after (h : JobFrame db db') (hj : j ∈ db.jobs.rows) :
    ∃ j' ∈ db'.jobs.rows, j'.identity = j.identity := by
  have hmem : j.identity ∈ db.jobs.rows.map PrintJobRow.identity := List.mem_map_of_mem hj
  rw [← h.identity, List.mem_map] at hmem
  exact hmem

/-- The ledger ends jobs and leaves their admissions as they are. -/
theorem SpoolLinks.ledger (h : SpoolLinks db) (hf : LedgerFrame db db') : SpoolLinks db' := by
  have before : ∀ r ∈ db'.reservations.rows, r.reservationKind = .admission →
      r ∈ db.reservations.rows := by
    intro r hr hkind
    have hmem : r ∈ admissionReservations db' := List.mem_filter.mpr ⟨hr, by simp [hkind]⟩
    rw [hf.reservations] at hmem
    exact List.mem_of_mem_filter hmem
  refine ⟨?_, ?_, ?_, ?_, ?_⟩
  · rw [hf.admissions]
    intro r hr hkind
    exact h.reservation r (before r hr hkind) hkind
  · rw [hf.admissions]
    intro j hj
    obtain ⟨j0, hj0, hident⟩ := JobFrame.before hf.jobs hj
    obtain ⟨hid, hadm, hscope, hwork⟩ := columns_of_identity hident
    obtain ⟨a, ha, hlink⟩ := h.job j0 hj0
    exact ⟨a, ha, hlink.id.trans hadm, hlink.state, hlink.jobId.trans (congrArg some hid),
      hlink.scope.trans hscope, hlink.managedWorkId.trans hwork⟩
  · intro j hj
    obtain ⟨j0, hj0, hident⟩ := JobFrame.before hf.jobs hj
    have hid : j0.id = j.id := (columns_of_identity hident).1
    obtain ⟨r, hr, hkind, hjob⟩ := h.covered j0 hj0
    exact ⟨r, admission_kept hf hr hkind, hkind, hjob.trans (congrArg some hid)⟩
  · intro r hr hkind jobId hjob
    obtain ⟨j, hj, hjid, hterm⟩ := h.owner r (before r hr hkind) hkind jobId hjob
    by_cases hactive : r.state.active = false
    · have hend := hterm hactive
      have h1 : j.state ≠ .accepted := by
        intro hs
        simp [hs, PrintJobState.terminal] at hend
      have h2 : j.state ≠ .inProgress := by
        intro hs
        simp [hs, PrintJobState.terminal] at hend
      exact ⟨j, hf.jobs.ended j hj h1 h2, hjid, fun _ => hend⟩
    · obtain ⟨j', hj', hident⟩ := JobFrame.after hf.jobs hj
      have hid : j'.id = j.id := (columns_of_identity hident).1
      exact ⟨j', hj', hid.trans hjid, fun hno => absurd hno hactive⟩
  · rw [OneOrigin, hf.admissions]; exact h.origin

/-- Every event of the Agent keeps the links. -/
theorem SpoolLinks.event {codes : String → String → Prop} (h : SpoolLinks db)
    (hspec : EventSpec F codes db db') : SpoolLinks db' := by
  rcases hspec.writes with hframe | hw
  · exact h.ledger hframe
  · exact h.writes hw

end Inari.Agent
