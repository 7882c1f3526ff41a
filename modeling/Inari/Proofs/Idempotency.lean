import Inari.Proofs.PrintJobRuns
import Inari.Proofs.SpoolLinks

/-!
# Durable admission idempotency

The first lookup of a call asks for its idempotency key and its origin, but not for its managed
work id.
-/

namespace Inari.Agent

open Lib SqliteExecutionLedger DurableSpoolAdmissionStore SpoolAdmissionLedger

variable {db db' : Db}

variable {a b : AdmissionRow} {m : AdmissionManifest} {s : AgentState}

lemma admission_eq_of_key (ha : a ∈ db.admissions.rows) (hb : b ∈ db.admissions.rows)
    (hscope : a.scope = b.scope) (hkey : a.idempotencyKey = b.idempotencyKey) : a = b := by
  simp only [AdmissionRow.scope, Prod.mk.injEq] at hscope
  obtain ⟨hkind, horg, hsite, hpos, hclient⟩ := hscope
  cases hk : b.scopeKind with
  | pairedClient =>
    refine db.admissions.eq_of_key (u := AdmissionRow.uqPairedIdempotency)
      (by simp [AdmissionRow.spec]) ha hb (k := (b.organizationId, b.siteId, b.posConfigurationId,
        b.pairedClientId, b.idempotencyKey)) ?_ ?_
    · simp [AdmissionRow.uqPairedIdempotency, hkind, hk, horg, hsite, hpos, hclient, hkey]
    · simp [AdmissionRow.uqPairedIdempotency, hk]
  | deviceManager =>
    by_cases hnone : b.posConfigurationId = none
    · refine db.admissions.eq_of_key (u := AdmissionRow.uqManagerIdempotency)
        (by simp [AdmissionRow.spec]) ha hb (k := (b.organizationId, b.siteId,
          b.idempotencyKey)) ?_ ?_
      · simp [AdmissionRow.uqManagerIdempotency, hkind, hk, horg, hsite, hpos, hnone, hkey]
      · simp [AdmissionRow.uqManagerIdempotency, hk, hnone]
    · refine db.admissions.eq_of_key (u := AdmissionRow.uqManagerPosIdempotency)
        (by simp [AdmissionRow.spec]) ha hb (k := (b.organizationId, b.siteId,
          b.posConfigurationId, b.pairedClientId, b.idempotencyKey)) ?_ ?_
      · simp [AdmissionRow.uqManagerPosIdempotency, hkind, hk, horg, hsite, hpos, hclient, hnone,
          hkey]
      · simp [AdmissionRow.uqManagerPosIdempotency, hk, hnone]

lemma admission_eq_of_managedWorkId (ha : a ∈ db.admissions.rows) (hb : b ∈ db.admissions.rows)
    {w : String} (hwa : a.managedWorkId = some w) (hwb : b.managedWorkId = some w) : a = b :=
  db.admissions.eq_of_key (u := AdmissionRow.uqManagedWorkId) (by simp [AdmissionRow.spec]) ha hb
    (k := w) hwa hwb

lemma scope_of_inScope (ha : inScope m a = true) (hb : inScope m b = true) : a.scope = b.scope := by
  cases hk : m.scopeKind <;>
    simp only [inScope, hk, Bool.and_eq_true, beq_iff_eq, Option.isNone_iff_eq_none] at ha hb <;>
    simp [AdmissionRow.scope, ha, hb]

lemma findIdempotency_eq (ha : a ∈ db.admissions.rows) (hscope : inScope m a = true)
    (hkey : a.idempotencyKey = m.idempotencyKey) : findIdempotency db m = some a := by
  refine Table.first_eq ha (by simp [hscope, hkey]) fun b hb hp => ?_
  simp only [Bool.and_eq_true, beq_iff_eq] at hp
  exact admission_eq_of_key hb ha (scope_of_inScope hp.1 hscope) (hp.2.trans hkey.symm)

structure JobsUnique (db : Db) : Prop where
  admitted : ∀ j ∈ db.jobs.rows, ∃ a ∈ db.admissions.rows, a.id = j.admissionId ∧ a.scope = j.scope
  idempotencyKey : ∀ j₁ ∈ db.jobs.rows, ∀ j₂ ∈ db.jobs.rows, ∀ a₁ ∈ db.admissions.rows,
    ∀ a₂ ∈ db.admissions.rows, a₁.id = j₁.admissionId → a₂.id = j₂.admissionId →
    j₁.scope = j₂.scope → a₁.idempotencyKey = a₂.idempotencyKey → j₁ = j₂
  originSubmissionKey : ∀ j₁ ∈ db.jobs.rows, ∀ j₂ ∈ db.jobs.rows, ∀ a₁ ∈ db.admissions.rows,
    ∀ a₂ ∈ db.admissions.rows, a₁.id = j₁.admissionId → a₂.id = j₂.admissionId →
    j₁.scope = j₂.scope → a₁.originSubmissionKey = a₂.originSubmissionKey → j₁ = j₂
  managedWorkId : ∀ j₁ ∈ db.jobs.rows, ∀ j₂ ∈ db.jobs.rows, ∀ w, j₁.managedWorkId = some w →
    j₂.managedWorkId = some w → j₁ = j₂

lemma jobsUnique (h : SpoolLinks db) : JobsUnique db := by
  -- the admission of a job has its scope, and it determines the job
  have scope : ∀ j ∈ db.jobs.rows, ∀ a ∈ db.admissions.rows, a.id = j.admissionId →
      a.scope = j.scope := by
    intro j hj a ha hid
    obtain ⟨b, hb, hlink⟩ := h.job j hj
    rw [admission_eq_of_id db ha hb (hid.trans hlink.id.symm)]
    exact hlink.scope
  have same : ∀ j₁ ∈ db.jobs.rows, ∀ j₂ ∈ db.jobs.rows, ∀ a : AdmissionRow,
      a.id = j₁.admissionId → a.id = j₂.admissionId → j₁ = j₂ := by
    intro j₁ hj₁ j₂ hj₂ a h₁ h₂
    exact db.jobs.eq_of_key (u := PrintJobRow.uqAdmissionId) (by simp [PrintJobRow.spec]) hj₁ hj₂
      (k := a.id) (congrArg some h₁.symm) (congrArg some h₂.symm)
  refine ⟨?_, ?_, ?_, ?_⟩
  · intro j hj
    obtain ⟨a, ha, hlink⟩ := h.job j hj
    exact ⟨a, ha, hlink.id, hlink.scope⟩
  · intro j₁ hj₁ j₂ hj₂ a₁ ha₁ a₂ ha₂ h₁ h₂ hscope hkey
    have ha : a₁ = a₂ := by
      apply admission_eq_of_key ha₁ ha₂ _ hkey
      rw [scope j₁ hj₁ a₁ ha₁ h₁, scope j₂ hj₂ a₂ ha₂ h₂, hscope]
    exact same j₁ hj₁ j₂ hj₂ a₁ h₁ (ha ▸ h₂)
  · intro j₁ hj₁ j₂ hj₂ a₁ ha₁ a₂ ha₂ h₁ h₂ hscope hkey
    have ha : a₁ = a₂ := by
      apply h.origin a₁ ha₁ a₂ ha₂ _ hkey
      rw [scope j₁ hj₁ a₁ ha₁ h₁, scope j₂ hj₂ a₂ ha₂ h₂, hscope]
    exact same j₁ hj₁ j₂ hj₂ a₁ h₁ (ha ▸ h₂)
  · intro j₁ hj₁ j₂ hj₂ w h₁ h₂
    exact db.jobs.eq_of_key (u := PrintJobRow.uqManagedWorkId) (by simp [PrintJobRow.spec]) hj₁ hj₂
      (k := w) h₁ h₂

def AgentState.submit (s : AgentState) (m : AdmissionManifest) (inp : StepInput) :
    AgentState × AgentOutput :=
  (s.step (.accept m)).1.step (.advance inp)

/-- The call ends at once with this outcome and leaves the state as it was. -/
def AgentState.Answers (s : AgentState) (m : AdmissionManifest) (o : Outcome) : Prop :=
  ∀ inp, s.submit m inp = (s, .outcome o)

lemma submit_eq (hcall : s.call = none) (m : AdmissionManifest) (inp : StepInput) :
    s.submit m inp = match callStep inp s.db (.accept m) with
      | (db, .inl call) => (⟨db, some call⟩, .none)
      | (db, .inr o) => (⟨db, none⟩, .outcome o) := by
  have hstart : s.step (.accept m) = (⟨s.db, some (.accept m)⟩, .none) := by
    simp [AgentState.step, hcall]
  rw [AgentState.submit, hstart]
  rfl

lemma answers_of_ended (hcall : s.call = none) {o : Outcome}
    (h : ∀ inp, callStep inp s.db (.accept m) = ended s.db o) : s.Answers m o := by
  intro inp
  rw [submit_eq hcall, h inp]
  simp only [ended]
  rw [← hcall]

lemma accepted_columns (ha : a ∈ db.admissions.rows) (hstate : a.state = .accepted) :
    ∃ t, a.jobId = some a.plannedJobId ∧ a.acceptedAt = some t := by
  have hcheck := db.admissions.check_of_mem ha
  simp only [AdmissionRow.spec, AdmissionRow.check, Bool.and_eq_true] at hcheck
  have hlife := hcheck.2
  simp only [AdmissionRow.lifecycle, hstate, Bool.and_eq_true, beq_iff_eq] at hlife
  cases hacc : a.acceptedAt with
  | none => simp [hacc] at hlife
  | some t => exact ⟨t, hlife.1.1.1, rfl⟩

/-- The request repeats the admission: same scope, same key and the same compared fields. -/
structure Repeats (m : AdmissionManifest) (a : AdmissionRow) : Prop where
  scope : inScope m a = true
  key : a.idempotencyKey = m.idempotencyKey
  fields : a.comparison = m.comparison

lemma replay_accepted (ha : a ∈ db.admissions.rows) (hstate : a.state = .accepted) (h : Repeats m a) :
    ∃ t, replay db m = .ok (some ⟨a.intentId, a.plannedJobId, a.deviceId, t, 1, true⟩) := by
  obtain ⟨t, hjob, hacc⟩ := accepted_columns ha hstate
  refine ⟨t, ?_⟩
  rw [replay, findIdempotency_eq ha h.scope h.key]
  simp [assertExactReplay, h.fields, require, raiseIfAborted, hstate, acceptedFromRow, hjob, hacc,
    bind, Except.bind, pure, Except.pure]

lemma replay_conflict (ha : a ∈ db.admissions.rows) (hscope : inScope m a = true)
    (hkey : a.idempotencyKey = m.idempotencyKey) (hne : a.comparison ≠ m.comparison) :
    replay db m = .error (.plain .idempotencyConflict) := by
  rw [replay, findIdempotency_eq ha hscope hkey]
  simp [assertExactReplay, require, hne, bind, Except.bind]

lemma raiseIfAborted_not_conflict (row : AdmissionRow) :
    raiseIfAborted row ≠ .error (.plain .idempotencyConflict) := by
  unfold raiseIfAborted
  split
  · split <;> simp [SpoolError.plain]
  · simp

lemma acceptedFromRow_not_conflict (row : AdmissionRow) (replayed : Bool) :
    acceptedFromRow row replayed ≠ .error (.plain .idempotencyConflict) := by
  unfold acceptedFromRow
  split <;> simp [SpoolError.plain]

lemma replay_not_conflict (hnone : findIdempotency db m = none) :
    replay db m ≠ .error (.plain .idempotencyConflict) := by
  intro h
  rw [replay, hnone] at h
  simp only at h
  split at h
  · cases h
  · rename_i origin horigin
    simp only [bind_error, require_error] at h
    rcases h with ⟨-, h⟩ | ⟨_, -, h⟩
    · simp [SpoolError.plain] at h
    rcases h with h | ⟨_, -, h⟩
    · exact raiseIfAborted_not_conflict origin h
    split at h
    · simp only [bind_error] at h
      rcases h with h | ⟨_, -, h⟩
      · exact acceptedFromRow_not_conflict origin true h
      · cases h
    · cases h

def Reuses (m : AdmissionManifest) (a : AdmissionRow) : Prop :=
  (inScope m a = true ∧ a.idempotencyKey = m.idempotencyKey) ∨
  ∃ w, m.managedWorkId = some w ∧ a.managedWorkId = some w

def KeyStored (db : Db) (m : AdmissionManifest) : Prop :=
  ∃ b ∈ db.admissions.rows, inScope m b = true ∧ b.idempotencyKey = m.idempotencyKey

lemma conflict_of_keyStored (ha : a ∈ db.admissions.rows) (hreuse : Reuses m a)
    (hne : a.comparison ≠ m.comparison) (hkey : KeyStored db m) :
    replay db m = .error (.plain .idempotencyConflict) := by
  obtain ⟨b, hb, hscope, hbkey⟩ := hkey
  apply replay_conflict hb hscope hbkey
  intro heq
  have hab : a = b := by
    rcases hreuse with ⟨hascope, hakey⟩ | ⟨w, hmw, haw⟩
    · exact admission_eq_of_key ha hb (scope_of_inScope hascope hscope) (hakey.trans hbkey.symm)
    · have hbw : b.managedWorkId = m.managedWorkId :=
        congrArg (fun c : ManifestComparison => c.managedWorkId) heq
      exact admission_eq_of_managedWorkId ha hb haw (hbw.trans hmw)
  exact hne (hab ▸ heq)

lemma acceptChecks_not_conflict (inp : StepInput) (m : AdmissionManifest)
    (hvolume : inp.volumeReserve ≠ .error (.plain .idempotencyConflict)) :
    acceptChecks inp m ≠ .error (.plain .idempotencyConflict) := by
  intro h
  simp only [acceptChecks, checkManagedDeviceSharing, bind_error, require_error] at h
  rcases h with ⟨-, h⟩ | ⟨_, -, ⟨-, h⟩ | ⟨_, -, h⟩⟩
  · simp [SpoolError.plain] at h
  · simp [SpoolError.plain] at h
  · exact hvolume h

lemma not_answers_conflict (hcall : s.call = none) (hkey : ¬KeyStored s.db m) :
    ¬s.Answers m (.raised (.plain .idempotencyConflict)) := by
  have hnone : findIdempotency s.db m = none := by
    cases hfind : findIdempotency s.db m with
    | none => rfl
    | some b =>
      obtain ⟨hb, hp⟩ := Table.first_spec hfind
      simp only [Bool.and_eq_true, beq_iff_eq] at hp
      exact absurd ⟨b, hb, hp.1, hp.2⟩ hkey
  intro h
  have h := h sampleInput
  rw [submit_eq hcall] at h
  simp only [callStep] at h
  split at h
  · -- the call goes on, so it gives no output yet
    simp at h
  · rename_i db' o hstep
    simp only [Prod.mk.injEq, AgentOutput.outcome.injEq] at h
    obtain ⟨-, rfl⟩ := h
    split at hstep
    · rename_i e he
      simp only [ended, Prod.mk.injEq, Sum.inr.injEq, Outcome.raised.injEq] at hstep
      exact replay_not_conflict hnone (hstep.2 ▸ he)
    · simp [ended] at hstep
    · split at hstep
      · rename_i e he
        simp only [ended, Prod.mk.injEq, Sum.inr.injEq, Outcome.raised.injEq] at hstep
        exact acceptChecks_not_conflict sampleInput m (by simp [sampleInput]) (hstep.2 ▸ he)
      · simp at hstep

lemma answers_replay (hcall : s.call = none) (ha : a ∈ s.db.admissions.rows)
    (hstate : a.state = .accepted) (h : Repeats m a) :
    ∃ t, s.Answers m (.accepted ⟨a.intentId, a.plannedJobId, a.deviceId, t, 1, true⟩) := by
  obtain ⟨t, hreplay⟩ := replay_accepted ha hstate h
  refine ⟨t, answers_of_ended hcall ?_⟩
  intro inp
  simp only [callStep, hreplay]

lemma answers_conflict (hcall : s.call = none)
    (h : replay s.db m = .error (.plain .idempotencyConflict)) :
    s.Answers m (.raised (.plain .idempotencyConflict)) := by
  apply answers_of_ended hcall
  intro inp
  simp only [callStep, h]

lemma run_links (es : List AgentEvent) :
    ∀ st ∈ ({} : AgentState).run es, SpoolLinks st.state.db := by
  have hstep : ∀ (s : AgentState) (e : AgentEvent), AgentInv anyCodes s ∧ SpoolLinks s.db → True →
      AgentInv anyCodes (s.step e).1 ∧ SpoolLinks (s.step e).1.db := by
    rintro s e ⟨hinv, hlinks⟩ -
    obtain ⟨hinv', hspec⟩ := step_any e hinv
    exact ⟨hinv', hlinks.event hspec⟩
  intro st hst
  exact (run_invariant hstep ⟨agentInv_empty, spoolLinks_empty⟩
    (runOk_any _ _) st hst).2

/-- Print Jobs are unique for their keys, a repeated request gets its job back, and a reuse is
refused as a conflict exactly when its idempotency key is stored in its scope. -/
theorem admission_idempotency (es : List AgentEvent) :
    ∀ st ∈ ({} : AgentState).run es, JobsUnique st.state.db ∧
      (st.state.call = none → ∀ m : AdmissionManifest, ∀ a ∈ st.state.db.admissions.rows,
        (a.state = .accepted → Repeats m a → ∃ t, st.state.Answers m
          (.accepted ⟨a.intentId, a.plannedJobId, a.deviceId, t, 1, true⟩)) ∧
        (Reuses m a → a.comparison ≠ m.comparison →
          (st.state.Answers m (.raised (.plain .idempotencyConflict)) ↔
            KeyStored st.state.db m))) := by
  intro st hst
  refine ⟨jobsUnique (run_links es st hst), ?_⟩
  intro hcall m a ha
  refine ⟨fun hstate h => answers_replay hcall ha hstate h, ?_⟩
  intro hreuse hne
  constructor
  · intro h
    by_contra hkey
    exact not_answers_conflict hcall hkey h
  · intro hkey
    exact answers_conflict hcall (conflict_of_keyStored ha hreuse hne hkey)

def sampleAccepted : AdmissionRow :=
  acceptedRow "job" 0 (SpoolAdmissionLedger.stagingRow "admission" "job" sampleManifest 0)

theorem sample_admission_replayed :
    ∃ st ∈ ({} : AgentState).run sampleAdmission, ∃ t, st.state.Answers sampleManifest
      (.accepted ⟨"intent", "job", "printer", t, 1, true⟩) := by
  refine ⟨_, List.get_mem _ ⟨9, by decide +kernel⟩, ?_⟩
  have h := (admission_idempotency sampleAdmission _ (List.get_mem _ ⟨9, by decide +kernel⟩)).2
    (by decide +kernel) sampleManifest sampleAccepted (by decide +kernel)
  exact h.1 rfl ⟨by decide +kernel, rfl, rfl⟩

def sampleReuse : AdmissionManifest :=
  { sampleManifest with
    idempotencyKey := "key-2"
    originSubmissionKey := "origin-2"
    intentId := "intent-2"
    fingerprint := List.replicate 32 8 }

theorem managed_work_reuse_raises_integrity_error :
    ∃ st ∈ ({} : AgentState).run (sampleAdmission ++ [.accept sampleReuse, .advance sampleInput,
        .advance { sampleInput with
          ids := ⟨"admission-2", "job-2", "reservation-2", "artifact-2"⟩ }]),
      st.event = .advance { sampleInput with
          ids := ⟨"admission-2", "job-2", "reservation-2", "artifact-2"⟩ } ∧
      st.output = .outcome (.raised .integrityError) ∧
      ∃ a ∈ st.state.db.admissions.rows, a.state = .accepted ∧
        Reuses sampleReuse a ∧ a.comparison ≠ sampleReuse.comparison := by
  refine ⟨_, List.get_mem _ ⟨12, by decide +kernel⟩, rfl, by decide +kernel, sampleAccepted,
    by decide +kernel, rfl, .inr ⟨"work", rfl, rfl⟩, by decide +kernel⟩

end Inari.Agent
