import Inari.Proofs.AdmissionCalls
import Inari.Proofs.LedgerOperations

/-!
# The Agent keeps the Print Job journal

Every event of the Agent advances the journal of its Print Jobs by job writes only.
-/

namespace Inari.Agent

open Lib SqliteExecutionLedger DurableSpoolAdmissionStore

inductive AgentSteps (s : AgentState) : AgentEvent → AgentState × AgentOutput → Prop
  | raised {env c commit e} : AgentSteps s (.ledger env c commit) (s, .ledger (.error e))
  /-- The operation commits, which the caller may not learn. -/
  | ledger {env c commit db' a r} (hok : applyLedger env s.db c = .ok (db', a))
      (hr : r = .ok a ∨ ∃ e, r = .error e) :
      AgentSteps s (.ledger env c commit) ({ s with db := db' }, .ledger r)
  | releaseRow {row now artifacts} : AgentSteps s (.releaseRow row now)
      ({ s with db := { s.db with artifacts := artifacts } }, .none)
  | persistDerived {claim derived now artifacts} : AgentSteps s (.persistDerived claim derived now)
      ({ s with db := { s.db with artifacts := artifacts } }, .none)
  | waits {e} (he : e.isLedger = false) : AgentSteps s e (s, .none)
  | accepts {m} (hcall : s.call = none) : AgentSteps s (.accept m) (⟨s.db, some (.accept m)⟩, .none)
  | reconciles (hcall : s.call = none) : AgentSteps s .reconcile (⟨s.db, some .reconcile⟩, .none)
  | moves {inp call db' call'} (hcall : s.call = some call)
      (hsteps : CallSteps inp s.db call (db', .inl call')) :
      AgentSteps s (.advance inp) (⟨db', some call'⟩, .none)
  | ends {inp call db' o} (hcall : s.call = some call)
      (hsteps : CallSteps inp s.db call (db', .inr o)) :
      AgentSteps s (.advance inp) (⟨db', none⟩, .outcome o)
  | stops : AgentSteps s .stop (⟨s.db, none⟩, .none)

variable {F : PrintJobRow → Prop} {db db' : Db} {codes : String → String → Prop}

lemma publish_step {job : PrintJobRow} {e : PrintJobEventRow} (hstart : JobStart job.view)
    (hjobs : db'.jobs.rows = db.jobs.rows ++ [job])
    (hevents : db'.events.rows = db.events.rows ++ [e])
    (hentry : e.entry = ⟨job.id, 1, job.view⟩) : JobSteps codes db db' := by
  have hversion : job.stateVersion = 1 := hstart.stateVersion
  have heq : db'.journal = db.journal.create job.id job.view := by
    simp only [Db.journal, Journal.create, hjobs, hevents, List.map_append, List.map_cons,
      List.map_nil, hentry, PrintJobRow.entry, hversion]
  have hfresh : ∀ h ∈ db.journal.heads, h.key ≠ job.id := by
    intro h hh hk
    obtain ⟨r, hr, rfl⟩ := List.mem_map.mp hh
    have hne := Table.append_fresh hjobs (u := PrintJobRow.primaryKey)
      (by simp [PrintJobRow.spec]) (k := job.id) rfl hr
    exact hne (congrArg some hk)
  rw [JobSteps, heq]
  exact .single (.create _ _ _ hfresh hstart)

variable {now : Time} {env : LedgerEnv} {s : AgentState}

lemma contentLost_step (hj : db.JournalConsistent codes)
    (hc : codes "service_unavailable" "print.service_unavailable") {job : PrintJobRow} {t : Time}
    {n : Nat} (hjob : job.entry ∈ db.journal.log)
    (hmatched : ∃ r ∈ db.jobs.rows, stillAccepted job r = true)
    (hjobs : db'.jobs.rows = Table.updated db.jobs.rows (stillAccepted job)
      (contentLostRow job now))
    (hevents : db'.events.rows = db.events.rows ++ [⟨n, job.id, job.stateVersion + 1, .failed,
      contentLostView job now, t⟩]) : JobSteps codes db db' := by
  obtain ⟨r, hr, hp⟩ := hmatched
  have hp' := hp
  simp only [stillAccepted, Bool.and_eq_true, beq_iff_eq] at hp'
  obtain ⟨⟨hid, hstate⟩, hver⟩ := hp'
  -- the row has the version that was read, so it shows what was read
  have hsame : job.entry = r.entry := by
    apply hj.eq_head hjob (List.mem_map_of_mem hr)
    · exact hid.symm
    · exact hver.symm
  have hview : job.view = r.view := congrArg Entry.value hsame
  have hclean := clean_of_mem hj hr
  simp only [JobClean, PrintJobRow.view, hstate] at hclean
  obtain ⟨hstarted, -, -, -, hevidence⟩ := hclean
  have hlost : contentLostView job now = (contentLostRow job now r).view := by
    simp only [contentLostView, contentLostRow, hview]
    simp [PrintJobRow.view, hstarted, hevidence]
  refine .single (journal_advance hr hp ?_ hjobs hevents ?_ ?_ ?_)
  · intro a _ ha
    simp only [stillAccepted, Bool.and_eq_true, beq_iff_eq] at ha
    exact ha.1.1.trans hid.symm
  · simp [PrintJobEventRow.entry, hlost, hid, hver]
  · simp [PrintJobRow.entry, PrintJobEventRow.entry, hlost, contentLostRow, hid]
  · have hw := @JobWrite.reject codes r.view now _ _ hstate hc
    simpa [contentLostRow, PrintJobRow.view, hver, ProblemCode.value] using hw

lemma SpoolWrite.jobSteps (hj : db.JournalConsistent codes) (hc : OwnCodes codes)
    (h : SpoolWrite F db db') : JobSteps codes db db' := by
  cases h with
  | other _ _ hjobs hevents | stage _ _ _ _ _ _ _ hjobs hevents
  | hold _ _ _ _ _ _ _ _ _ hjobs hevents | release _ _ _ _ _ hjobs hevents
  | abort _ _ _ _ _ _ hjobs hevents => exact jobSteps_of_eq hjobs hevents
  | publish plan row now _ _ _ _ _ _ hjobs hevents =>
    exact publish_step ⟨rfl, rfl, rfl, rfl, rfl, rfl, rfl⟩ hjobs hevents rfl
  | fail job now _ hjob hmatched hjobs hevents =>
    exact contentLost_step hj hc.service hjob hmatched hjobs hevents

theorem SpoolWrites.jobSteps (hj : db.JournalConsistent codes) (hc : OwnCodes codes)
    (h : SpoolWrites F db db') : JobSteps codes db db' := by
  induction h with
  | refl => exact .refl
  | tail _ hw ih => exact ih.trans (hw.jobSteps (hj.steps ih) hc)

lemma LedgerStep.steps {start : Db} {c : LedgerCall} (h : LedgerStep codes env start c db db')
    (hj : db.JournalConsistent codes) : JobSteps codes db db' ∧ LedgerFrame db db' := by
  cases h with
  | touches h => exact ⟨jobSteps_of_eq h.jobs h.events, h.frame⟩
  | expires h =>
    obtain ⟨job, -, -, -, -, h⟩ := h
    exact ⟨h.update.steps hj, h.frame⟩
  | claims _ _ _ h =>
    obtain ⟨attempts, reservations, held, rfl, hres, hkind, -, -⟩ := claim_eq h
    refine ⟨jobSteps_of_eq rfl rfl, rfl, rfl, rfl, ?_, .of_eq rfl rfl⟩
    simp [admissionReservations, hres, hkind]
  | starts h =>
    obtain ⟨job, -, -, hu⟩ := h.job
    exact ⟨hu.steps hj, h.frame⟩
  | ends _ _ h =>
    obtain ⟨job, _, -, -, -, -, hu⟩ := h.job
    exact ⟨hu.steps hj, h.frame⟩
  | recovers _ _ _ h =>
    rcases h.job with ⟨hjobs, hevents, -⟩ | ⟨job, _, -, -, -, -, hu⟩
    · exact ⟨jobSteps_of_eq hjobs hevents, h.frame⟩
    · exact ⟨hu.steps hj, h.frame⟩

theorem applyLedger_steps {c : LedgerCall} {result : LedgerResult} (hj : db.JournalConsistent codes)
    (hc : OwnCodes codes) (hcall : c.Codes codes) (h : applyLedger env db c = .ok (db', result)) :
    JobSteps codes db db' ∧ LedgerFrame db db' := by
  have hchain := applyLedger_chain hc hcall h
  clear h
  induction hchain with
  | refl => exact ⟨.refl, .refl db⟩
  | tail _ hstep ih =>
    obtain ⟨hsteps, hframe⟩ := hstep.steps (hj.steps ih.1)
    exact ⟨ih.1.trans hsteps, ih.2.trans hframe⟩

structure AgentInv (codes : String → String → Prop) (s : AgentState) : Prop where
  journal : s.db.JournalConsistent codes
  call : ∀ call, s.call = some call → CallInv s.db call

def AgentEvent.Codes (codes : String → String → Prop) : AgentEvent → Prop
  | .ledger _ c _ => c.Codes codes
  | _ => True

/-- Ledger operations keep to the ledger's frame, and all others write what the spool admission
writes. -/
structure EventSpec (F : PrintJobRow → Prop) (codes : String → String → Prop) (db db' : Db) : Prop where
  steps : JobSteps codes db db'
  writes : LedgerFrame db db' ∨ SpoolWrites F db db'

lemma EventSpec.refl (F : PrintJobRow → Prop) (codes : String → String → Prop) (db : Db) :
    EventSpec F codes db db :=
  ⟨.refl, .inr .refl⟩

lemma PlanOk.mono {plan : AdmissionPlan} (hplan : PlanOk db plan)
    (hadm : db'.admissions = db.admissions)
    (hres : ∀ r ∈ db.reservations.rows, r.reservationKind = .admission →
      r ∈ db'.reservations.rows) : PlanOk db' plan := by
  obtain ⟨r, hr, hid, hkind, hx⟩ := hplan.reservation
  exact ⟨hplan.admission.of_admissions hadm, r, hres r hr hkind, hid, hkind, hx⟩

lemma callInv_mono {call : Call} (hcall : CallInv db call)
    (hadm : db'.admissions = db.admissions)
    (hres : ∀ r ∈ db.reservations.rows, r.reservationKind = .admission →
      r ∈ db'.reservations.rows)
    (hlog : db.journal.log ⊆ db'.journal.log) : CallInv db' call := by
  have todo : ∀ {todo}, TodoOk db todo → TodoOk db' todo :=
    fun h => ⟨h.nodup, fun row hrow => (h.opened row hrow).of_admissions hadm⟩
  cases call with
  | accept | acceptLoop | reconcile | reconcileJobs => trivial
  | accepting => exact PlanOk.mono hcall hadm hres
  | reconcileNext => exact todo hcall
  | reconciling =>
    exact ⟨hcall.1.mono hadm hres, todo hcall.2.1, hcall.2.2⟩
  | reconcileAbort =>
    exact ⟨hcall.1.of_admissions hadm, todo hcall.2.1, hcall.2.2⟩
  | reconcileJob => exact fun j hj => hlog (hcall j hj)
  | failJob =>
    exact ⟨hlog hcall.1, fun j hj => hlog (hcall.2 j hj)⟩

lemma admission_kept (h : LedgerFrame db db') {r : ReservationRow}
    (hr : r ∈ db.reservations.rows) (hkind : r.reservationKind = .admission) :
    r ∈ db'.reservations.rows := by
  have hmem : r ∈ admissionReservations db' := by
    rw [h.reservations]
    exact List.mem_filter.mpr ⟨hr, by simp [hkind]⟩
  exact List.mem_of_mem_filter hmem

lemma releaseRow_eq {row : ArtifactRow}
    (h : EncryptedExecutionSpool.releaseRow db row now = .ok db') :
    ∃ artifacts, db' = { db with artifacts := artifacts } := by
  simp only [EncryptedExecutionSpool.releaseRow, bind_ok, pure_ok] at h
  obtain ⟨artifacts, -, rfl⟩ := h
  exact ⟨artifacts, rfl⟩

lemma persistDerived_eq {claim : ExecutionClaim} {derived : DerivedDocument}
    (h : EncryptedExecutionSpool.persistDerived db claim derived now = .ok db') :
    ∃ artifacts, db' = { db with artifacts := artifacts } := by
  simp only [EncryptedExecutionSpool.persistDerived, bind_ok, pure_ok] at h
  obtain ⟨_, -, artifacts, -, rfl⟩ := h
  exact ⟨artifacts, rfl⟩

theorem AgentState.step_cases (s : AgentState) (e : AgentEvent) : AgentSteps s e (s.step e) := by
  cases e with
  | ledger env c commit =>
    simp only [AgentState.step]
    cases hok : applyLedger env s.db c with
    | error => exact .raised
    | ok result =>
      obtain ⟨db', a⟩ := result
      cases commit with
      | done => exact .ledger hok (.inl rfl)
      | uncertain applied =>
        cases applied with
        | false => exact .raised
        | true => exact .ledger hok (.inr ⟨_, rfl⟩)
  | releaseRow row now =>
    simp only [AgentState.step]
    cases hok : EncryptedExecutionSpool.releaseRow s.db row now with
    | error => exact .waits rfl
    | ok =>
      obtain ⟨artifacts, rfl⟩ := releaseRow_eq hok
      exact .releaseRow
  | persistDerived claim derived now =>
    simp only [AgentState.step]
    cases hok : EncryptedExecutionSpool.persistDerived s.db claim derived now with
    | error => exact .waits rfl
    | ok =>
      obtain ⟨artifacts, rfl⟩ := persistDerived_eq hok
      exact .persistDerived
  | accept =>
    simp only [AgentState.step]
    split
    · exact .accepts (Option.isNone_iff_eq_none.mp ‹_›)
    · exact .waits rfl
  | reconcile =>
    simp only [AgentState.step]
    split
    · exact .reconciles (Option.isNone_iff_eq_none.mp ‹_›)
    · exact .waits rfl
  | advance inp =>
    simp only [AgentState.step]
    split
    · exact .waits rfl
    · rename_i call hcall
      have hsteps := callStep_cases inp s.db call
      obtain ⟨db', next, hstep⟩ : ∃ db' next, callStep inp s.db call = (db', next) := ⟨_, _, rfl⟩
      rw [hstep] at hsteps ⊢
      cases next with
      | inl => exact .moves hcall hsteps
      | inr => exact .ends hcall hsteps
  | stop => exact .stops

lemma callSteps_spec {inp : StepInput} {call : Call} {next : Call ⊕ Outcome} (hinv : AgentInv codes s)
    (hc : OwnCodes codes) (hcall : s.call = some call)
    (hsteps : CallSteps inp s.db call (db', next)) :
    EventSpec (Call.Failing s.call) codes s.db db' ∧ db'.JournalConsistent codes ∧
      NextInv db' next := by
  obtain ⟨hwrites, hnext⟩ := hsteps.promises hinv.journal (hinv.call call hcall)
  rw [← hcall] at hwrites
  have hjobs := SpoolWrites.jobSteps hinv.journal hc hwrites
  exact ⟨⟨hjobs, .inr hwrites⟩, hinv.journal.steps hjobs, hnext⟩

theorem step_spec {e : AgentEvent} (hinv : AgentInv codes s) (hc : OwnCodes codes)
    (he : e.Codes codes) :
    AgentInv codes (s.step e).1 ∧ EventSpec (Call.Failing s.call) codes s.db (s.step e).1.db := by
  have hsteps := s.step_cases e
  generalize s.step e = result at hsteps
  cases hsteps with
  | raised | waits => exact ⟨hinv, .refl _ _ _⟩
  | ledger hok =>
    obtain ⟨hjobs, hframe⟩ := applyLedger_steps hinv.journal hc he hok
    refine ⟨⟨hinv.journal.steps hjobs, ?_⟩, hjobs, .inl hframe⟩
    intro call hcall
    exact callInv_mono (hinv.call call hcall) hframe.admissions
      (fun _ hr hkind => admission_kept hframe hr hkind) (Journal.Steps.log_subset hjobs)
  | @releaseRow _ _ artifacts | @persistDerived _ _ _ artifacts =>
    have hjobs : JobSteps codes s.db { s.db with artifacts := artifacts } := jobSteps_of_eq rfl rfl
    refine ⟨⟨hinv.journal.steps hjobs, ?_⟩, hjobs, .inr (.single (.other rfl rfl rfl rfl rfl))⟩
    intro call hcall
    exact callInv_mono (hinv.call call hcall) rfl (fun _ h _ => h) (List.Subset.refl _)
  | accepts | reconciles =>
    refine ⟨⟨hinv.journal, ?_⟩, .refl _ _ _⟩
    rintro _ ⟨⟩
    trivial
  | moves hcall hsteps =>
    obtain ⟨hspec, hjournal, hnext⟩ := callSteps_spec hinv hc hcall hsteps
    refine ⟨⟨hjournal, ?_⟩, hspec⟩
    rintro _ ⟨⟩
    exact hnext
  | ends hcall hsteps =>
    obtain ⟨hspec, hjournal, -⟩ := callSteps_spec hinv hc hcall hsteps
    exact ⟨⟨hjournal, by rintro _ ⟨⟩⟩, hspec⟩
  | stops => exact ⟨⟨hinv.journal, by rintro _ ⟨⟩⟩, .refl _ _ _⟩

lemma agentInv_empty : AgentInv codes ({} : AgentState) :=
  ⟨Journal.consistent_nil, by rintro _ ⟨⟩⟩

end Inari.Agent
