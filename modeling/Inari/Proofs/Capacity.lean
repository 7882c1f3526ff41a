import Inari.Proofs.PrintJobRuns
import Inari.Proofs.SpoolLinks

/-!
# Spool capacity

The ledger ends jobs without releasing the reservation of their admission, so what is used and
what is needed agree only along runs in which no ledger operation ends a job.
-/

namespace Inari.Agent

open Lib SqliteExecutionLedger DurableSpoolAdmissionStore

variable {F : PrintJobRow → Prop} {db db' : Db} {now : Time}

inductive Quantity
  | queueSlots | originalBytes | persistentBytes

def Quantity.of : Quantity → ReservationRow → Nat
  | .queueSlots, r => r.queueSlots
  | .originalBytes, r => r.originalBytes
  | .persistentBytes, r => r.persistentBytes

def ofOpenAdmission (db : Db) (r : ReservationRow) : Bool :=
  db.admissions.rows.any (fun a => r.admissionId == some a.id &&
    (a.state == .staging || a.state == .finalizing))

def ofLiveJob (db : Db) (r : ReservationRow) : Bool :=
  db.jobs.rows.any (fun j => r.jobId == some j.id && !j.state.terminal)

def total (q : Quantity) (rows : List ReservationRow) : Nat := (rows.map q.of).sum

/-- What is used is what open admissions and live jobs need. -/
structure CapacityReturned (db : Db) : Prop where
  agent : ∀ q : Quantity, activeTotal db.reservations.rows q.of =
    total q (db.reservations.rows.filter (fun r => r.state.active && ofOpenAdmission db r)) +
    total q (db.reservations.rows.filter (ofLiveJob db))
  device : ∀ (q : Quantity) (deviceId : String),
    activeTotal (ofDevice db.reservations.rows deviceId) q.of =
    total q ((ofDevice db.reservations.rows deviceId).filter
      (fun r => r.state.active && ofOpenAdmission db r)) +
    total q ((ofDevice db.reservations.rows deviceId).filter (ofLiveJob db))
  released : ∀ j ∈ db.jobs.rows,
    j.state ∈ [.outputConfirmed, .failed, .expired, .outcomeUnknown] →
    (∀ a ∈ db.artifacts.rows, a.jobId = some j.id → a.state = .deleted) →
    ∀ r ∈ db.reservations.rows, r.jobId = some j.id → r.state ≠ .held ∧ r.state ≠ .committed
  idle : (∀ a ∈ db.admissions.rows, a.state ≠ .staging ∧ a.state ≠ .finalizing) →
    (∀ j ∈ db.jobs.rows, j.state.terminal = true) →
    ∀ policy deviceId originalBytes persistentBytes,
      assertQuota policy db deviceId originalBytes persistentBytes =
        assertQuota policy {} deviceId originalBytes persistentBytes

lemma total_filter (q : Quantity) (rows : List ReservationRow) (p : ReservationRow → Bool) :
    total q (rows.filter p) = (rows.map (fun r => if p r then q.of r else 0)).sum := by
  induction rows with
  | nil => rfl
  | cons r rows ih =>
    rw [total] at ih
    by_cases hp : p r = true
    · simp [total, hp, ih]
    · simp [total, hp, ih]

variable {rows : List ReservationRow} {r : ReservationRow} {job : PrintJobRow} {env : LedgerEnv}

lemma total_split {p p₁ p₂ : ReservationRow → Bool} {q : Quantity}
    (h : ∀ r ∈ rows, (if p r then q.of r else 0) =
      (if p₁ r then q.of r else 0) + (if p₂ r then q.of r else 0)) :
    total q (rows.filter p) = total q (rows.filter p₁) + total q (rows.filter p₂) := by
  rw [total_filter, total_filter, total_filter, ← List.sum_map_add]
  exact congrArg List.sum (List.map_congr_left h)

def LiveReservations (db : Db) : Prop :=
  ∀ r ∈ db.reservations.rows, r.state.active = true → ∀ j ∈ db.jobs.rows,
    r.jobId = some j.id → j.state.terminal = false

lemma reservation_dimensions (hr : r ∈ db.reservations.rows) : r.dimensions = true := by
  have hcheck := db.reservations.check_of_mem hr
  simp only [ReservationRow.spec, ReservationRow.check, Bool.and_eq_true] at hcheck
  exact hcheck.2

lemma quantity_executionTemp (hr : r ∈ db.reservations.rows)
    (hkind : r.reservationKind = .executionTemp) (q : Quantity) : q.of r = 0 := by
  have hdim := reservation_dimensions hr
  simp only [ReservationRow.dimensions, hkind, Bool.and_eq_true, beq_iff_eq] at hdim
  obtain ⟨⟨⟨⟨⟨-, hslots⟩, horiginal⟩, hpersistent⟩, -⟩, -⟩ := hdim
  cases q with
  | queueSlots => exact hslots
  | originalBytes => exact horiginal
  | persistentBytes => exact hpersistent

lemma held_no_job (hr : r ∈ db.reservations.rows) (hkind : r.reservationKind = .admission)
    (hstate : r.state = .held) : r.jobId = none := by
  have hdim := reservation_dimensions hr
  simp only [ReservationRow.dimensions, hkind, hstate, Bool.and_eq_true] at hdim
  simpa using hdim.2

lemma committed_job (hr : r ∈ db.reservations.rows) (hkind : r.reservationKind = .admission)
    (hstate : r.state = .committed) : ∃ jobId, r.jobId = some jobId := by
  have hdim := reservation_dimensions hr
  simp only [ReservationRow.dimensions, hkind, hstate, Bool.and_eq_true] at hdim
  exact Option.isSome_iff_exists.mp hdim.2

lemma reservation_counts (hlinks : SpoolLinks db) (hlive : LiveReservations db) (q : Quantity)
    (hr : r ∈ db.reservations.rows) :
    (if r.state.active then q.of r else 0) =
      (if (r.state.active && ofOpenAdmission db r) then q.of r else 0) +
      (if ofLiveJob db r then q.of r else 0) := by
  cases hkind : r.reservationKind with
  | executionTemp => simp [quantity_executionTemp hr hkind]
  | admission =>
    obtain ⟨a, ha, hlink⟩ := hlinks.reservation r hr hkind
    have nolive : (∀ j ∈ db.jobs.rows, r.jobId = some j.id → j.state.terminal = true) →
        ofLiveJob db r = false := by
      intro h
      rw [ofLiveJob, List.any_eq_false]
      intro j hj hp
      simp only [Bool.and_eq_true, beq_iff_eq, Bool.not_eq_true'] at hp
      simp [h j hj hp.1] at hp
    cases hstate : r.state with
    | held =>
      have hopen : ofOpenAdmission db r = true := by
        rw [ofOpenAdmission, List.any_eq_true]
        exact ⟨a, ha, by simpa [hlink.id] using hlink.held hstate⟩
      have hnone := held_no_job hr hkind hstate
      simp [ReservationState.active, hopen, nolive (by simp [hnone])]
    | committed =>
      obtain ⟨jobId, hjob⟩ := committed_job hr hkind hstate
      have hclosed : ofOpenAdmission db r = false := by
        rw [ofOpenAdmission, List.any_eq_false]
        intro b hb hp
        simp only [Bool.and_eq_true, beq_iff_eq, hlink.id, Option.some.injEq] at hp
        obtain rfl := admission_eq_of_id db ha hb hp.1
        simp [(hlink.published jobId hjob).1] at hp
      obtain ⟨j, hj, hjid, -⟩ := hlinks.owner r hr hkind jobId hjob
      have hjlive : ofLiveJob db r = true := by
        rw [ofLiveJob, List.any_eq_true]
        refine ⟨j, hj, ?_⟩
        have hterm := hlive r hr (by simp [hstate, ReservationState.active]) j hj
          (hjob.trans (congrArg some hjid.symm))
        simp [hjob, hjid, hterm]
      simp [ReservationState.active, hclosed, hjlive]
    | released | expired =>
      have hended : ofLiveJob db r = false := by
        apply nolive
        intro j hj hjob
        obtain ⟨j', hj', hjid, hterm⟩ := hlinks.owner r hr hkind _ hjob
        obtain rfl := job_eq_of_id db hj' hj hjid
        exact hterm (by simp [hstate, ReservationState.active])
      simp [ReservationState.active, hended]

lemma activeTotal_split (hlinks : SpoolLinks db) (hlive : LiveReservations db) (q : Quantity)
    (hrows : ∀ r ∈ rows, r ∈ db.reservations.rows) :
    activeTotal rows q.of =
      total q (rows.filter (fun r => r.state.active && ofOpenAdmission db r)) +
      total q (rows.filter (ofLiveJob db)) :=
  total_split (fun r hr => reservation_counts hlinks hlive q (hrows r hr))

lemma ofDevice_subset {deviceId : String} :
    ∀ r ∈ ofDevice db.reservations.rows deviceId, r ∈ db.reservations.rows :=
  fun _ hr => List.mem_of_mem_filter hr

lemma activeTotal_idle (hlinks : SpoolLinks db) (hlive : LiveReservations db)
    (hadm : ∀ a ∈ db.admissions.rows, a.state ≠ .staging ∧ a.state ≠ .finalizing)
    (hjobs : ∀ j ∈ db.jobs.rows, j.state.terminal = true) (q : Quantity)
    (hrows : ∀ r ∈ rows, r ∈ db.reservations.rows) : activeTotal rows q.of = 0 := by
  have hopen : ∀ r, ofOpenAdmission db r = false := by
    intro r
    rw [ofOpenAdmission, List.any_eq_false]
    intro a ha
    simp [hadm a ha]
  have hlivejob : rows.filter (ofLiveJob db) = [] := by
    rw [List.filter_eq_nil_iff]
    intro r _
    rw [ofLiveJob, Bool.not_eq_true, List.any_eq_false]
    intro j hj
    simp [hjobs j hj]
  rw [activeTotal_split hlinks hlive q hrows, hlivejob]
  simp [total, hopen]

lemma assertQuota_congr (hagent : ∀ q : Quantity,
      activeTotal db.reservations.rows q.of = activeTotal db'.reservations.rows q.of)
    {deviceId : String} (hdevice : ∀ q : Quantity,
      activeTotal (ofDevice db.reservations.rows deviceId) q.of =
        activeTotal (ofDevice db'.reservations.rows deviceId) q.of)
    (policy : SpoolCapacityPolicy) (originalBytes persistentBytes : Nat) :
    assertQuota policy db deviceId originalBytes persistentBytes =
      assertQuota policy db' deviceId originalBytes persistentBytes := by
  have slots : (fun r : ReservationRow => r.queueSlots) = Quantity.queueSlots.of := rfl
  have original : (fun r : ReservationRow => r.originalBytes) = Quantity.originalBytes.of := rfl
  have persistent : (fun r : ReservationRow => r.persistentBytes) = Quantity.persistentBytes.of :=
    rfl
  unfold assertQuota
  rw [slots, original, persistent]
  simp only [hagent, hdevice]

theorem capacityReturned_of_live (hlinks : SpoolLinks db) (hlive : LiveReservations db) :
    CapacityReturned db := by
  refine ⟨?_, ?_, ?_, ?_⟩
  · intro q
    exact activeTotal_split hlinks hlive q (fun _ hr => hr)
  · intro q deviceId
    exact activeTotal_split hlinks hlive q ofDevice_subset
  · intro j hj hstate _ r hr hjob
    have hterm : j.state.terminal = true := by
      cases hs : j.state <;> simp_all [PrintJobState.terminal]
    have hnot : r.state.active = false := by
      by_contra hactive
      have := hlive r hr (by simpa using hactive) j hj hjob
      simp [hterm] at this
    constructor <;> (intro hs; simp [hs, ReservationState.active] at hnot)
  · intro hadm hjobs policy deviceId originalBytes persistentBytes
    have zero : ∀ q : Quantity, activeTotal ([] : List ReservationRow) q.of = 0 := fun _ => rfl
    apply assertQuota_congr
    · intro q
      exact (activeTotal_idle hlinks hlive hadm hjobs q (fun _ hr => hr)).trans (zero q).symm
    · intro q
      exact (activeTotal_idle hlinks hlive hadm hjobs q ofDevice_subset).trans (zero q).symm

def FailingFree (F : PrintJobRow → Prop) (db : Db) : Prop :=
  ∀ job, F job → ∀ r ∈ db.reservations.rows, r.reservationKind = .executionTemp →
    r.jobId = some job.id → r.state ≠ .held

lemma executionTemp_not_committed (hr : r ∈ db.reservations.rows)
    (hkind : r.reservationKind = .executionTemp) : r.state ≠ .committed := by
  have hdim := reservation_dimensions hr
  simp only [ReservationRow.dimensions, hkind, Bool.and_eq_true] at hdim
  simpa using hdim.2

lemma SpoolWrite.executionTemp (h : SpoolWrite F db db') (hr : r ∈ db'.reservations.rows)
    (hkind : r.reservationKind = .executionTemp) : r ∈ db.reservations.rows := by
  cases h with
  | other _ hres | stage _ _ _ _ _ _ hres | abort _ _ _ _ _ hres => exact hres ▸ hr
  | hold held _ hheld _ _ _ _ hres =>
    rw [hres, List.mem_append, List.mem_singleton] at hr
    rcases hr with hr | rfl
    · exact hr
    · simp [hkind] at hheld
  | release p now hopen hres =>
    rcases Table.updated_cases hres hr with ⟨hr, -⟩ | ⟨a, ha, hp, rfl⟩
    · exact hr
    · obtain ⟨x, hx, -⟩ := hopen a ha (Bool.and_eq_true_iff.mp hp).1
      cases (admissionKind_of_admissionId ha hx).symm.trans hkind
  | publish plan row now _ _ _ hplan _ hres =>
    rcases Table.updated_cases hres hr with ⟨hr, -⟩ | ⟨a, ha, hp, rfl⟩
    · exact hr
    · cases (hplan.admission_of_reservation ha (by simpa using hp)).1.symm.trans hkind
  | fail job now _ _ _ _ _ hres =>
    rcases Table.updated_cases hres hr with ⟨hr, -⟩ | ⟨a, ha, hp, rfl⟩
    · exact hr
    · simp only [Bool.and_eq_true, beq_iff_eq] at hp
      exact absurd hp.2 (executionTemp_not_committed ha hkind)

lemma publish_live {plan : AdmissionPlan} {row : AdmissionRow} (hlive : LiveReservations db)
    (hres : db'.reservations.rows = Table.updated db.reservations.rows
      (fun r => r.id == plan.reservationId) (committedRow plan.jobId))
    (hjobs : db'.jobs.rows = db.jobs.rows ++ [publishedRow plan row now]) :
    LiveReservations db' := by
  have newJob : publishedRow plan row now ∈ db'.jobs.rows := by
    rw [hjobs]
    exact List.mem_append_right _ (List.mem_singleton_self _)
  intro r hr hactive j hj hjob
  rcases Table.updated_cases hres hr with ⟨hr, -⟩ | ⟨r, hr, -, rfl⟩
  · rw [hjobs, List.mem_append, List.mem_singleton] at hj
    rcases hj with hj | rfl
    · exact hlive r hr hactive j hj hjob
    · rfl
  · have hid : j.id = plan.jobId := (Option.some.inj hjob).symm
    obtain rfl := job_eq_of_id db' hj newJob hid
    rfl

lemma fail_live (hlive : LiveReservations db) (hfree : FailingFree F db) (hF : F job)
    (hjobs : db'.jobs.rows = Table.updated db.jobs.rows (stillAccepted job)
      (contentLostRow job now)) (hres : db'.reservations.rows = Table.updated db.reservations.rows
      (fun r => r.jobId == some job.id && r.state == .committed) (releasedRow now)) :
    LiveReservations db' := by
  intro r hr hactive j hj hjob
  rcases Table.updated_cases hres hr with ⟨hr, hp⟩ | ⟨r, hr, -, rfl⟩
  · rcases Table.updated_cases hjobs hj with ⟨hj, -⟩ | ⟨j, hj, hfail, rfl⟩
    · exact hlive r hr hactive j hj hjob
    · -- a reservation in force for the failed job would be committed or for its execution
      simp only [stillAccepted, Bool.and_eq_true, beq_iff_eq] at hfail
      have hrj : r.jobId = some job.id := hjob.trans (congrArg some hfail.1.1)
      have hstate : r.state = .held := by
        cases hs : r.state <;> simp_all [ReservationState.active]
      cases hkind : r.reservationKind with
      | admission => simp [held_no_job hr hkind hstate] at hrj
      | executionTemp => exact absurd hstate (hfree job hF r hr hkind hrj)
  · simp [releasedRow, ReservationState.active] at hactive

lemma SpoolWrite.live (h : SpoolWrite F db db') (hfree : FailingFree F db)
    (hlive : LiveReservations db) : LiveReservations db' := by
  cases h with
  | other _ hres hjobs | stage _ _ _ _ _ _ hres hjobs | abort _ _ _ _ _ hres hjobs =>
    rw [LiveReservations, hres, hjobs]
    exact hlive
  | hold held x _ _ hjob _ _ hres _ hjobs =>
    rw [LiveReservations, hjobs]
    intro r hr
    rw [hres, List.mem_append, List.mem_singleton] at hr
    rcases hr with hr | rfl
    · exact hlive r hr
    · simp [hjob]
  | release p now _ hres _ hjobs =>
    rw [LiveReservations, hjobs]
    intro r hr hactive
    rcases Table.updated_cases hres hr with ⟨hr, -⟩ | ⟨r, hr, -, rfl⟩
    · exact hlive r hr hactive
    · simp [releasedRow, ReservationState.active] at hactive
  | publish plan row now _ _ _ _ _ hres hjobs => exact publish_live hlive hres hjobs
  | fail job now hF _ _ hjobs _ hres => exact fail_live hlive hfree hF hjobs hres

theorem SpoolWrites.live (h : SpoolWrites F db db') (hfree : FailingFree F db)
    (hlive : LiveReservations db) : LiveReservations db' ∧ FailingFree F db' := by
  induction h with
  | refl => exact ⟨hlive, hfree⟩
  | tail _ hw ih =>
    refine ⟨hw.live ih.2 ih.1, ?_⟩
    intro job hF r hr hkind
    exact ih.2 job hF r (hw.executionTemp hr hkind) hkind

/-- No job has become terminal, and a reservation in force was so before or is for a job that is
not. -/
structure QuietFrame (db db' : Db) : Prop where
  jobs : ∀ j' ∈ db'.jobs.rows, ∃ j ∈ db.jobs.rows, j.id = j'.id ∧
    (j'.state.terminal = true → j.state.terminal = true)
  reservations : ∀ r' ∈ db'.reservations.rows, r'.state.active = true →
    (∃ r ∈ db.reservations.rows, r.jobId = r'.jobId ∧ r.state.active = true) ∨
    ∀ j ∈ db'.jobs.rows, r'.jobId = some j.id → j.state.terminal = false

lemma QuietFrame.refl (db : Db) : QuietFrame db db :=
  ⟨fun j hj => ⟨j, hj, rfl, id⟩, fun r hr hactive => .inl ⟨r, hr, rfl, hactive⟩⟩

lemma QuietFrame.live (h : QuietFrame db db') (hlive : LiveReservations db) :
    LiveReservations db' := by
  intro r' hr' hactive j' hj' hjob
  rcases h.reservations r' hr' hactive with ⟨r, hr, hrj, hract⟩ | hfresh
  · obtain ⟨j, hj, hid, hterm⟩ := h.jobs j' hj'
    have hlivej := hlive r hr hract j hj (hrj.trans (hjob.trans (congrArg some hid.symm)))
    by_contra hne
    have hend := hterm (by simpa using hne)
    simp [hlivej] at hend
  · exact hfresh j' hj' hjob

lemma QuietFrame.of_kept (hjobs : db'.jobs = db.jobs) (h : ReservationsKept db db') :
    QuietFrame db db' := by
  refine ⟨?_, fun r hr hactive => .inl (h r hr hactive)⟩
  rw [hjobs]
  exact (QuietFrame.refl db).jobs

lemma QuietFrame.trans {a b c : Db} (h : QuietFrame a b) (h' : QuietFrame b c) :
    QuietFrame a c := by
  refine ⟨?_, ?_⟩
  · intro j'' hj''
    obtain ⟨j', hj', hid', hterm'⟩ := h'.jobs j'' hj''
    obtain ⟨j, hj, hid, hterm⟩ := h.jobs j' hj'
    exact ⟨j, hj, hid.trans hid', fun hend => hterm (hterm' hend)⟩
  · intro r'' hr'' hactive
    rcases h'.reservations r'' hr'' hactive with ⟨r', hr', hjob', hactive'⟩ | hfresh
    · rcases h.reservations r' hr' hactive' with ⟨r, hr, hjob, hact⟩ | hfresh
      · exact .inl ⟨r, hr, hjob.trans hjob', hact⟩
      · right
        intro j'' hj'' hid
        obtain ⟨j', hj', hid', hterm'⟩ := h'.jobs j'' hj''
        have hlive := hfresh j' hj' (hjob'.trans (hid.trans (congrArg some hid'.symm)))
        by_contra hne
        simp [hterm' (by simpa using hne)] at hlive
    · exact .inr hfresh

lemma claim_quiet {owner : ExecutionOwner} {lease : Time} {ids : ClaimIds} {c : ExecutionClaim}
    (hjob : job ∈ db.jobs.rows) (hstate : job.state = .accepted)
    (h : claim env db job owner now lease ids = .ok (db', c)) : QuietFrame db db' := by
  obtain ⟨attempts, reservations, held, rfl, hres, -, hheld, -⟩ := claim_eq h
  refine ⟨(QuietFrame.refl db).jobs, ?_⟩
  intro r hr hactive
  rw [hres, List.mem_append, List.mem_singleton] at hr
  rcases hr with hr | rfl
  · exact .inl ⟨r, hr, rfl, hactive⟩
  · right
    intro j hj hid
    obtain rfl := job_eq_of_id db hj hjob (Option.some.inj (hid.symm.trans hheld))
    simp [hstate, PrintJobState.terminal]

lemma LedgerStep.quiet {start : Db} {c : LedgerCall} {codes : String → String → Prop}
    (hends : ¬c.Ends start) (h : LedgerStep codes env start c db db') : QuietFrame db db' := by
  cases h with
  | touches h => exact .of_kept h.jobs h.kept
  | expires h =>
    obtain ⟨job, hjob, hstate, hexpired, hdevice, -⟩ := h
    exact absurd ⟨job, hjob, hstate, hexpired, hdevice⟩ hends
  | claims hjob hstate _ h => exact claim_quiet hjob hstate h
  | starts h =>
    obtain ⟨job, -, -, hu⟩ := h.job
    refine ⟨fun j hj => ?_, fun r hr hactive => .inl ⟨r, h.reservations ▸ hr, rfl, hactive⟩⟩
    rcases hu.row_of_mem hj with ⟨hidentity, hstate⟩ | ⟨-, hold⟩
    · refine ⟨job, hu.mem, (of_identity hidentity).1.symm, ?_⟩
      simp [hstate, PrintJobState.terminal]
    · exact ⟨j, hold, rfl, id⟩
  | ends _ hends' => exact absurd hends' hends
  | recovers _ _ hjobs h => exact .of_kept (hjobs.resolve_right hends) h.kept

theorem applyLedger_quiet {c : LedgerCall} {result : LedgerResult} (hends : ¬c.Ends db)
    (h : applyLedger env db c = .ok (db', result)) : QuietFrame db db' := by
  have hchain := applyLedger_chain anyCodes_own (anyCodes_call c) h
  clear h
  induction hchain with
  | refl => exact .refl db
  | tail _ hstep ih => exact ih.trans (hstep.quiet hends)

/-- The event ends no job through the ledger, and fails none with an execution reservation. -/
def KeepsCapacity (s : AgentState) : AgentEvent → Prop
  | .ledger _ c _ => ¬c.Ends s.db
  | .advance _ => FailingFree (Call.Failing s.call) s.db
  | _ => True

instance (db : Db) : (c : LedgerCall) → Decidable (c.Ends db)
  | .claimNext _ deviceId now _ => inferInstanceAs (Decidable (∃ j ∈ db.jobs.rows,
      j.state = .accepted ∧ j.expiresAt ≤ now ∧ (deviceId = none ∨ deviceId = some j.deviceId)))
  | .finish claim _ _ | .abandonAfterMarker claim _ => inferInstanceAs (Decidable
      (∃ j ∈ db.jobs.rows, j.id = claim.jobId ∧ j.state = .inProgress))
  | .failBeforeIo claim _ _ _ => inferInstanceAs (Decidable
      (∃ j ∈ db.jobs.rows, j.id = claim.jobId ∧ j.state = .accepted))
  | .recover owner now => inferInstanceAs (Decidable (∃ a ∈ db.attempts.rows,
      recoverable owner now a = true ∧ ∃ j ∈ db.jobs.rows, j.id = a.jobId ∧
        ((a.markerId = none ∧ j.state = .accepted ∧ j.expiresAt ≤ now) ∨
          (a.markerId ≠ none ∧ j.state = .inProgress))))
  | .markPrepared _ _ | .renew _ _ | .markIoStarted _ _ _ | .notePermissionDelivered _ _ _ =>
    .isFalse id

lemma failingFree_failJob {t : Time} {todo : List PrintJobRow} {artifact : Option ArtifactRow} :
    FailingFree (Call.Failing (some (.failJob t todo job artifact))) db ↔
      ∀ r ∈ db.reservations.rows, r.reservationKind = .executionTemp → r.jobId = some job.id →
        r.state ≠ .held := by
  constructor
  · intro h
    exact h job ⟨t, todo, artifact, rfl⟩
  · rintro h job' ⟨t', todo', artifact', heq⟩
    simp only [Option.some.injEq, Call.failJob.injEq] at heq
    obtain ⟨-, -, rfl, -⟩ := heq
    exact h

instance (db : Db) : (call : Option Call) → Decidable (FailingFree (Call.Failing call) db)
  | some (.failJob _ _ _ _) => decidable_of_iff _ failingFree_failJob.symm
  | none | some (.accept _) | some (.acceptLoop _ _) | some (.accepting _ _ _ _) | some .reconcile
  | some (.reconcileNext _ _) | some (.reconciling _ _ _ _) | some (.reconcileAbort _ _ _ _)
  | some (.reconcileJobs _) | some (.reconcileJob _ _) => .isTrue (by rintro _ ⟨_, _, _, ⟨⟩⟩)

instance (s : AgentState) : (e : AgentEvent) → Decidable (KeepsCapacity s e)
  | .ledger _ c _ => inferInstanceAs (Decidable (¬c.Ends s.db))
  | .advance _ => inferInstanceAs (Decidable (FailingFree (Call.Failing s.call) s.db))
  | .releaseRow _ _ | .persistDerived _ _ _ | .accept _ | .reconcile | .stop => .isTrue trivial

structure CapacityInv (s : AgentState) : Prop where
  agent : AgentInv anyCodes s
  links : SpoolLinks s.db
  live : LiveReservations s.db

lemma step_live {s : AgentState} {e : AgentEvent} (hinv : AgentInv anyCodes s)
    (hlive : LiveReservations s.db) (he : KeepsCapacity s e) :
    LiveReservations (s.step e).1.db := by
  have hsteps := s.step_cases e
  generalize s.step e = result at hsteps
  cases hsteps with
  | ledger hok => exact (applyLedger_quiet he hok).live hlive
  | moves hcall hsteps | ends hcall hsteps =>
    have hwrites := (hsteps.promises hinv.journal (hinv.call _ hcall)).1
    rw [← hcall] at hwrites
    exact (SpoolWrites.live hwrites he hlive).1
  | _ => exact hlive

lemma capacityInv_step (s : AgentState) (e : AgentEvent) (h : CapacityInv s)
    (he : KeepsCapacity s e) : CapacityInv (s.step e).1 := by
  obtain ⟨hagent, hspec⟩ := step_any e h.agent
  exact ⟨hagent, h.links.event hspec, step_live h.agent h.live he⟩

lemma capacityInv_empty : CapacityInv ({} : AgentState) :=
  ⟨agentInv_empty, spoolLinks_empty, by simp [LiveReservations]⟩

/-- If no ledger operation ends a job, what is used is what open admissions and live jobs need. -/
theorem capacity_returned_of_keeps (es : List AgentEvent)
    (hes : RunOk KeepsCapacity AgentState.step ({} : AgentState) es) :
    ∀ st ∈ ({} : AgentState).run es, CapacityReturned st.state.db := by
  intro st hst
  have hinv := run_invariant capacityInv_step capacityInv_empty hes st hst
  exact capacityReturned_of_live hinv.links hinv.live

theorem sample_capacity_kept :
    RunOk KeepsCapacity AgentState.step ({} : AgentState)
      (sampleAdmission ++ sampleExecution.take 4) ∧
    ∀ st ∈ ({} : AgentState).run (sampleAdmission ++ sampleExecution.take 4),
      CapacityReturned st.state.db := by
  have hok : RunOk KeepsCapacity AgentState.step ({} : AgentState)
      (sampleAdmission ++ sampleExecution.take 4) := by decide +kernel
  exact ⟨hok, capacity_returned_of_keeps _ hok⟩

/-- A job runs to its end, and the spool deletes the document it then still stores. -/
def sampleCompleted : List AgentEvent :=
  let printed := sampleAdmission ++ sampleExecution
  printed ++ (final AgentState.step {} printed).db.artifacts.rows.map (.releaseRow · 2)

/-- The reservation of a confirmed job stays committed. -/
theorem completed_job_keeps_slot :
    ∃ st ∈ ({} : AgentState).run sampleCompleted,
      (∀ a ∈ st.state.db.admissions.rows, a.state ≠ .staging ∧ a.state ≠ .finalizing) ∧
      (∀ j ∈ st.state.db.jobs.rows, j.state = .outputConfirmed) ∧
      (∀ a ∈ st.state.db.artifacts.rows, a.state = .deleted) ∧
      activeTotal st.state.db.reservations.rows ReservationRow.queueSlots = 1 ∧
      ¬CapacityReturned st.state.db := by
  refine ⟨(({} : AgentState).run sampleCompleted).get ⟨15, by decide +kernel⟩, List.get_mem _ _,
    by decide +kernel, by decide +kernel, by decide +kernel, by decide +kernel, ?_⟩
  intro h
  have hagent := h.agent .queueSlots
  revert hagent
  decide +kernel

end Inari.Agent
