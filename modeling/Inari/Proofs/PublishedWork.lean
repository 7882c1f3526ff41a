import Inari.Proofs.Retries

/-!
# Which Print Jobs a step of the Agent adds

Only the publication of an admission adds a Print Job, as the plan of the call names it.
-/

namespace Inari.Agent

open Lib DurableSpoolAdmissionStore SpoolAdmissionLedger

variable {db db' : Db} {now : Time} {inp : StepInput} {plan : AdmissionPlan}

def PrintJobRow.work (j : PrintJobRow) : Option String × String × String :=
  (j.managedWorkId, j.id, j.deviceId)

/-- The plan has the Managed Work and the Device of its admission. -/
def PlanNames (db : Db) (plan : AdmissionPlan) : Prop :=
  ∃ a ∈ db.admissions.rows, a.id = plan.admissionId ∧
    a.managedWorkId = plan.manifest.managedWorkId ∧ a.deviceId = plan.manifest.deviceId

lemma SameRequest.columns {a b : AdmissionRow} (h : SameRequest a b) :
    b.managedWorkId = a.managedWorkId ∧ b.deviceId = a.deviceId := by
  have hwork : b.comparison.managedWorkId = a.comparison.managedWorkId := by rw [h.fields]
  have hdevice : b.comparison.deviceId = a.comparison.deviceId := by rw [h.fields]
  exact ⟨hwork, hdevice⟩

lemma PlanNames.kept (h : PlanNames db plan) (hkept : AdmissionsKept db db') :
    PlanNames db' plan := by
  obtain ⟨a, ha, hid, hwork, hdevice⟩ := h
  obtain ⟨b, hb, hab, -⟩ := hkept a ha
  obtain ⟨hwork', hdevice'⟩ := hab.columns
  exact ⟨b, hb, hab.id.trans hid, hwork'.trans hwork, hdevice'.trans hdevice⟩

variable {policy : SpoolCapacityPolicy} {owner : SpoolOwner} {row : AdmissionRow} {ids : PlanIds}
  {m : AdmissionManifest} {next : Call ⊕ Outcome}

def PreparedNames (db : Db) : Prepared → Prop
  | .accepted _ => True
  | .plan plan => PlanNames db plan

/-- `prepare` plans what the stored admission names, and publishes no job. -/
lemma prepare_names {graphOk : Bool} {prepared : Prepared}
    (h : prepare policy owner db m now ids graphOk = .ok (db', prepared)) :
    PreparedNames db' prepared ∧ db'.jobs = db.jobs := by
  cases prepare_preparing h with
  | replayed => exact ⟨trivial, rfl⟩
  | resumed row proof active artifactId hrow => exact ⟨⟨row, hrow.mem, rfl, rfl, rfl⟩, rfl⟩
  | held row proof plan _ hrow _ hplan _ hhold =>
    simp only [holdReservation, bind_ok, pure_ok] at hhold
    obtain ⟨reservations, -, rfl⟩ := hhold
    refine ⟨⟨row, hrow.mem, ?_⟩, rfl⟩
    rw [hplan]
    exact ⟨rfl, rfl, rfl⟩
  | created plan admissions proofs _ _ _ hmanifest hadm _ hhold =>
    simp only [holdReservation, bind_ok, pure_ok] at hhold
    obtain ⟨reservations, -, rfl⟩ := hhold
    refine ⟨⟨stagingRow plan.admissionId plan.jobId m now, ?_, rfl, ?_⟩, rfl⟩
    · show _ ∈ admissions.rows
      rw [hadm]
      exact List.mem_append_right _ (List.mem_singleton_self _)
    · rw [hmanifest]
      exact ⟨rfl, rfl⟩

def AddsPlanned (inp : StepInput) (plan : AdmissionPlan) (db db' : Db) : Prop :=
  db'.jobs = db.jobs ∨ ∃ row ∈ db.admissions.rows, ∃ t, row.id = plan.admissionId ∧
    db'.jobs.rows = db.jobs.rows ++ [publishedRow plan row t] ∧
    (plan.manifest.managedWorkId.isNone ||
      inp.env.managedDeviceIsShared plan.manifest.deviceId) = true

/-- Managed Work is published only on a shared Device. -/
lemma finalize_adds {a : AdmissionAccepted} (h : finalize inp.env db plan now = .ok (db', a)) :
    AddsPlanned inp plan db db' := by
  obtain ⟨row, hrow, hid, ⟨rfl, -⟩ | ⟨hpub, -, hshared⟩⟩ := finalize_cases h
  · exact .inl rfl
  · exact .inr ⟨row, hrow, now, hid, hpub.jobs, hshared⟩

lemma releaseWhere_jobs {p : ReservationRow → Bool} (h : releaseWhere db p now = .ok db') :
    db'.jobs = db.jobs := by
  obtain ⟨reservations, rfl, -⟩ := releaseWhere_eq h
  rfl

lemma abortPreaccept_jobs {x : String} {code : AbortCode}
    (h : abortPreaccept db x code now = .ok db') : db'.jobs = db.jobs := by
  simp only [abortPreaccept, bind_ok, pure_ok] at h
  obtain ⟨db1, hrelease, admissions, -, rfl⟩ := h
  have hjobs := releaseWhere_jobs hrelease
  exact hjobs

/-- No other stage publishes a job. -/
lemma DurableSpoolAdmissionStore.StageTx.addsPlanned {result : StageResult}
    (htx : StageTx inp db plan now db' result) : AddsPlanned inp plan db db' := by
  cases htx with
  | dataKey | recordStaged => exact .inl rfl
  | finalize hok => exact finalize_adds hok
  | removeMissing hok => exact .inl ((releaseWhere_jobs hok).trans rfl)
  | abort hok => exact .inl (abortPreaccept_jobs hok)
  | release hok => exact .inl (releaseWhere_jobs hok)

def Stored (db : Db) (row : AdmissionRow) : Prop := ∃ a ∈ db.admissions.rows, SameRequest row a

lemma Stored.kept (h : Stored db row) (hkept : AdmissionsKept db db') : Stored db' row := by
  obtain ⟨a, ha, hrow⟩ := h
  obtain ⟨b, hb, hab, -⟩ := hkept a ha
  exact ⟨b, hb, hrow.trans hab⟩

/-- Reconciliation plans from the stored row. -/
lemma Stored.planFromRows {artifact : ArtifactRow} (hrow : Stored db row)
    (h : planFromRows db row artifact = .ok plan) : PlanNames db plan := by
  obtain ⟨a, ha, hsame⟩ := hrow
  obtain ⟨hwork, hdevice⟩ := hsame.columns
  simp only [SpoolAdmissionLedger.planFromRows, bind_ok, pure_ok] at h
  obtain ⟨proof, -, reservation, -, rfl⟩ := h
  exact ⟨a, ha, hsame.id, hwork, hdevice⟩

def NamesInv (db : Db) : Call → Prop
  | .accepting _ _ plan _ => PlanNames db plan
  | .reconcileNext _ todo | .reconcileAbort _ todo _ _ => ∀ row ∈ todo, Stored db row
  | .reconciling _ todo plan _ => PlanNames db plan ∧ ∀ row ∈ todo, Stored db row
  | .accept _ | .acceptLoop _ _ | .reconcile | .reconcileJobs _ | .reconcileJob _ _
  | .failJob _ _ _ _ => True

/-- Stored admissions keep their columns, so the open call stays valid. -/
lemma NamesInv.kept {call : Call} (h : NamesInv db call) (hkept : AdmissionsKept db db') :
    NamesInv db' call := by
  cases call with
  | accepting => exact PlanNames.kept h hkept
  | reconcileNext | reconcileAbort =>
    exact fun row hrow => (h row hrow).kept hkept
  | reconciling =>
    exact ⟨h.1.kept hkept, fun row hrow => (h.2 row hrow).kept hkept⟩
  | _ => trivial

def NextNames (db : Db) : Call ⊕ Outcome → Prop
  | .inl call => NamesInv db call
  | .inr _ => True

/-- The managed work of the job is the one of the request, and its Device is shared. -/
structure AdmittedBy (inp : StepInput) (request : Option AdmissionManifest) (j : PrintJobRow) :
    Prop where
  shared : ∀ w, j.managedWorkId = some w → inp.env.managedDeviceIsShared j.deviceId = true
  request : ∀ m, request = some m → j.managedWorkId = m.managedWorkId

def Adds (P : PrintJobRow → Prop) (db db' : Db) : Prop :=
  ∃ new : List PrintJobRow, db'.jobs.rows.map PrintJobRow.work =
    db.jobs.rows.map PrintJobRow.work ++ new.map PrintJobRow.work ∧ ∀ j ∈ new, P j

lemma Adds.of_work {P : PrintJobRow → Prop}
    (h : db'.jobs.rows.map PrintJobRow.work = db.jobs.rows.map PrintJobRow.work) : Adds P db db' :=
  ⟨[], by simpa using h, by simp⟩

lemma Adds.of_jobs {P : PrintJobRow → Prop} (h : db'.jobs = db.jobs) : Adds P db db' :=
  .of_work (by rw [h])

/-- Jobs keep their Managed Work, id and Device. -/
lemma SqliteExecutionLedger.JobFrame.work (h : SqliteExecutionLedger.JobFrame db db') :
    db'.jobs.rows.map PrintJobRow.work = db.jobs.rows.map PrintJobRow.work := by
  have hmap : ∀ rows : List PrintJobRow,
      rows.map PrintJobRow.work = (rows.map PrintJobRow.identity).map PrintJobRow.work := by
    intro rows
    rw [List.map_map]
    rfl
  rw [hmap db'.jobs.rows, hmap db.jobs.rows, h.identity]

/-- The published job is the one its request asked for. -/
lemma AddsPlanned.adds {request : Option AdmissionManifest} (h : AddsPlanned inp plan db db')
    (hnames : PlanNames db plan)
    (hrequest : ∀ m, request = some m → PlanFor db m plan) :
    Adds (AdmittedBy inp request) db db' := by
  obtain hjobs | ⟨row, hrow, t, hid, hjobs, hshared⟩ := h
  · exact .of_jobs hjobs
  · refine ⟨[publishedRow plan row t], by rw [hjobs, List.map_append], ?_⟩
    intro j hj
    obtain rfl := List.mem_singleton.mp hj
    constructor
    · intro w hw
      obtain ⟨a, ha, hida, hwork, hdevice⟩ := hnames
      obtain rfl := admission_eq_of_id db hrow ha (hid.trans hida.symm)
      have hmanaged : plan.manifest.managedWorkId = some w := hwork.symm.trans hw
      simp only [hmanaged, Option.isNone_some, Bool.false_or] at hshared
      show inp.env.managedDeviceIsShared row.deviceId = true
      rw [hdevice]
      exact hshared
    · intro m hm
      obtain ⟨a, ha, hida, -, hmatches⟩ := hrequest m hm
      obtain rfl := admission_eq_of_id db hrow ha (hid.trans hida.symm)
      have hwork := congrArg OriginComparison.managedWorkId hmatches.origin
      exact hwork

lemma failAccepted_work {job : PrintJobRow} {artifact : Option ArtifactRow}
    (h : failAcceptedJobWithoutContent db job artifact now = .ok db') :
    db'.jobs.rows.map PrintJobRow.work = db.jobs.rows.map PrintJobRow.work := by
  simp only [failAcceptedJobWithoutContent, bind_ok] at h
  obtain ⟨jobs, hjobs, h⟩ := h
  have hwork : jobs.rows.map PrintJobRow.work = db.jobs.rows.map PrintJobRow.work := by
    rw [Table.update_rows hjobs]
    exact Table.map_updated PrintJobRow.work (fun _ _ _ => rfl)
  split at h
  · rw [pure_ok] at h
    rw [h]
  · simp only [bind_ok, pure_ok] at h
    obtain ⟨⟨db1, n⟩, hev, artifacts, -, jobKeys, -, reservations, -, rfl⟩ := h
    obtain ⟨events, rfl, -, -⟩ := insertEvent_eq hev
    exact hwork

lemma DurableSpoolAdmissionStore.CallTx.adds {call : Call} (htx : CallTx inp db call db')
    (hnames : NamesInv db call) (hanswer : AnswerInv db call) :
    Adds (AdmittedBy inp call.request) db db' := by
  cases htx with
  | prepare hok => exact .of_jobs (prepare_names hok).2
  | accepting htx =>
    apply htx.addsPlanned.adds hnames
    rintro m' ⟨⟩
    exact hanswer
  | reconciling htx =>
    apply htx.addsPlanned.adds hnames.1
    rintro m' ⟨⟩
  | release hok => exact .of_jobs (releaseWhere_jobs hok)
  | abort hok => exact .of_jobs (abortPreaccept_jobs hok)
  | fail hok => exact .of_work (failAccepted_work hok)

/-- A step of a call publishes the job of its request or none. -/
theorem DurableSpoolAdmissionStore.CallSteps.adds {call : Call}
    (hsteps : CallSteps inp db call (db', next)) (hnames : NamesInv db call)
    (hanswer : AnswerInv db call) (hkept : AdmissionsKept db db') :
    Adds (AdmittedBy inp call.request) db db' ∧ NextNames db' next := by
  constructor
  · rcases hsteps.effect with rfl | htx
    · exact .of_jobs rfl
    · exact htx.adds hnames hanswer
  · cases hsteps with
    | prepares hok => exact (prepare_names hok).1
    | moves | writes => exact PlanNames.kept hnames hkept
    | reconciles => exact fun row hrow => ⟨row, List.mem_of_mem_filter hrow, .refl row⟩
    | skips | gives | releases =>
      exact fun row hrow => (hnames row (List.mem_cons_of_mem _ hrow)).kept hkept
    | plans hplan =>
      exact ⟨(hnames _ List.mem_cons_self).planFromRows hplan,
        fun row hrow => hnames row (List.mem_cons_of_mem _ hrow)⟩
    | planMoves | planWrites =>
      exact ⟨hnames.1.kept hkept, fun row hrow => (hnames.2 row hrow).kept hkept⟩
    | planSkips | planGives | planDone => exact fun row hrow => (hnames.2 row hrow).kept hkept
    | aborts => exact fun row hrow => (hnames row hrow).kept hkept
    | _ => trivial

def AcceptedJobs (db : Db) : Prop :=
  ∀ a ∈ db.admissions.rows, a.state = .accepted →
    ∃ j ∈ db.jobs.rows, a.jobId = some j.id ∧ j.managedWorkId = a.managedWorkId

lemma AcceptedJobs.of_work (h : AcceptedJobs db)
    (hadm : ∀ a ∈ db'.admissions.rows, a.state = .accepted → a ∈ db.admissions.rows)
    (hjobs : db'.jobs.rows.map PrintJobRow.work = db.jobs.rows.map PrintJobRow.work) :
    AcceptedJobs db' := by
  intro a ha hstate
  obtain ⟨j, hj, hid, hwork⟩ := h a (hadm a ha hstate) hstate
  have hmem : j.work ∈ db'.jobs.rows.map PrintJobRow.work := by
    rw [hjobs]
    exact List.mem_map_of_mem hj
  obtain ⟨j', hj', heq⟩ := List.mem_map.mp hmem
  simp only [PrintJobRow.work, Prod.mk.injEq] at heq
  exact ⟨j', hj', by rw [heq.2.1]; exact hid, heq.1.trans hwork⟩

lemma AcceptedJobs.publish {t : Time} (h : AcceptedJobs db) (hrow : row ∈ db.admissions.rows)
    (hid : row.id = plan.admissionId) (hadm : db'.admissions.rows = Table.updated db.admissions.rows
      (fun r => r.id == plan.admissionId) (acceptedRow plan.jobId t))
    (hjobs : db'.jobs.rows = db.jobs.rows ++ [publishedRow plan row t]) : AcceptedJobs db' := by
  intro a ha hstate
  rcases Table.updated_cases hadm ha with ⟨ha, -⟩ | ⟨a₀, ha₀, hplan, rfl⟩
  · obtain ⟨j, hj, hjob⟩ := h a ha hstate
    exact ⟨j, by rw [hjobs]; exact List.mem_append_left _ hj, hjob⟩
  · obtain rfl := admission_eq_of_id db ha₀ hrow ((beq_iff_eq.mp hplan).trans hid.symm)
    exact ⟨publishedRow plan a₀ t, by rw [hjobs]; simp, rfl, rfl⟩

/-- An admission is accepted together with its job. -/
lemma AcceptedJobs.write {F : PrintJobRow → Prop} (h : AcceptedJobs db)
    (hw : SpoolWrite F db db') : AcceptedJobs db' := by
  have hkept : ∀ {db' : Db}, db'.admissions = db.admissions →
      ∀ a ∈ db'.admissions.rows, a.state = .accepted → a ∈ db.admissions.rows := by
    intro db' hadm a ha _
    exact hadm ▸ ha
  cases hw with
  | other hadm _ hjobs | hold _ _ _ _ _ _ _ _ hadm hjobs | release _ _ _ _ hadm hjobs =>
    exact h.of_work (hkept hadm) (by rw [hjobs])
  | stage x jobId m now _ hadm _ hjobs =>
    refine h.of_work ?_ (by rw [hjobs])
    intro a ha hstate
    rw [hadm, List.mem_append, List.mem_singleton] at ha
    rcases ha with ha | rfl
    · exact ha
    · cases hstate
  | abort x code now _ hadm _ hjobs =>
    refine h.of_work ?_ (by rw [hjobs])
    intro a ha hstate
    rcases Table.updated_cases hadm ha with ⟨ha, -⟩ | ⟨a₀, -, -, rfl⟩
    · exact ha
    · cases hstate
  | publish plan row now hrow hid _ _ hadm _ hjobs => exact h.publish hrow hid hadm hjobs
  | fail job now _ _ _ hjobs _ _ hadm =>
    refine h.of_work (hkept hadm) ?_
    rw [hjobs]
    exact Table.map_updated PrintJobRow.work (fun _ _ _ => rfl)

lemma AcceptedJobs.event {F : PrintJobRow → Prop} {codes : String → String → Prop}
    (h : AcceptedJobs db) (hspec : EventSpec F codes db db') : AcceptedJobs db' := by
  rcases hspec.writes with hframe | hw
  · refine h.of_work (fun a ha _ => hframe.admissions ▸ ha) ?_
    exact hframe.jobs.work
  · clear hspec
    induction hw with
    | refl => exact h
    | tail _ hstep ih => exact ih.write hstep

def Naming (s : AgentState) : Prop := ∀ call, s.call = some call → NamesInv s.db call

def AddedBy (s : AgentState) (e : AgentEvent) (j : PrintJobRow) : Prop :=
  ∃ inp, e = .advance inp ∧ AdmittedBy inp (s.call.bind Call.request) j

/-- Only a step of the open call adds jobs, and they are as requested. -/
theorem step_adds {s : AgentState} (e : AgentEvent) (hinv : RunInv s) (hnames : Naming s) :
    Naming (s.step e).1 ∧ Adds (AddedBy s e) s.db (s.step e).1.db := by
  have hkept := (step_any e hinv.agent).2.kept
  have advanced : ∀ {inp call db' next}, s.call = some call → AdmissionsKept s.db db' →
      CallSteps inp s.db call (db', next) →
      NextNames db' next ∧ Adds (AddedBy s (.advance inp)) s.db db' := by
    intro inp call db' next hcall hkept hsteps
    obtain ⟨⟨new, hwork, hnew⟩, hnext⟩ :=
      hsteps.adds (hnames call hcall) (hinv.answering call hcall) hkept
    refine ⟨hnext, new, hwork, fun j hj => ⟨inp, rfl, ?_⟩⟩
    rw [hcall]
    exact hnew j hj
  have hsteps := s.step_cases e
  generalize s.step e = result at hsteps hkept
  cases hsteps with
  | raised | waits => exact ⟨hnames, .of_jobs rfl⟩
  | @ledger env c commit _ _ _ hok =>
    exact ⟨fun call hcall => (hnames call hcall).kept hkept,
      .of_work (applyLedger_steps hinv.agent.journal anyCodes_own
        (anyCodes_event (.ledger env c commit)) hok).2.jobs.work⟩
  | releaseRow | persistDerived =>
    exact ⟨fun call hcall => (hnames call hcall).kept hkept, .of_jobs rfl⟩
  | moves hcall hsteps =>
    obtain ⟨hnext, hadds⟩ := advanced hcall hkept hsteps
    refine ⟨?_, hadds⟩
    rintro _ ⟨⟩
    exact hnext
  | ends hcall hsteps => exact ⟨by rintro _ ⟨⟩, (advanced hcall hkept hsteps).2⟩
  | accepts | reconciles =>
    refine ⟨?_, .of_jobs rfl⟩
    rintro _ ⟨⟩
    trivial
  | stops => exact ⟨by rintro _ ⟨⟩, .of_jobs rfl⟩

end Inari.Agent
