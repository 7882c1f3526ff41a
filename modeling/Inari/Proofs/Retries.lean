import Inari.Agent.ManagedWork
import Inari.Contracts.Reference
import Inari.Proofs.AdmissionAnswers
import Inari.Proofs.DocumentRetries
import Inari.Proofs.Idempotency

/-!
# Retries of a document

A Retry finds the first admission; the stored columns, which cover the deadline and the generation
of the Client Grant, decide whether it gets the job back.
-/

namespace Inari.Agent

open Lib DurableSpoolAdmissionStore SpoolAdmissionLedger

variable {db : Db} {m : AdmissionManifest}

variable {call : Call} {s : AgentState} {acc : AdmissionAccepted} {jobId : String}
  {a : AdmissionRow}

lemma AnswerInv.kept {db' : Db} (h : AnswerInv db call) (hkept : AdmissionsKept db db') :
    AnswerInv db' call := by
  cases call with
  | accepting => exact PlanFor.kept h hkept
  | _ => trivial

def Answering (s : AgentState) : Prop := ∀ call, s.call = some call → AnswerInv s.db call

lemma answering_step (e : AgentEvent) (hinv : AgentInv anyCodes s) (h : Answering s) :
    Answering (s.step e).1 := by
  have hkept := (step_any e hinv).2.kept
  have hsteps := s.step_cases e
  generalize s.step e = result at hsteps hkept
  cases hsteps with
  | raised | waits => exact h
  | ledger | releaseRow | persistDerived => exact fun call hcall => (h call hcall).kept hkept
  | moves hcall hsteps =>
    rintro _ ⟨⟩
    exact (hsteps.answer (h _ hcall) hkept).2
  | accepts | reconciles =>
    rintro _ ⟨⟩
    trivial
  | ends | stops => rintro _ ⟨⟩

lemma advance_acceptedAs {inp : StepInput} (hinv : AgentInv anyCodes s) (h : Answering s)
    (hcall : s.call = some call) (hrequest : call.request = some m)
    (hacc : (s.step (.advance inp)).2 = .outcome (.accepted acc)) :
    AcceptedAs (s.step (.advance inp)).1.db m acc.printJobId := by
  have hkept := (step_any (.advance inp) hinv).2.kept
  have hsteps := s.step_cases (.advance inp)
  generalize s.step (.advance inp) = result at hsteps hkept hacc
  cases hsteps with
  | ends hcall' hsteps =>
    cases hacc
    obtain rfl := Option.some.inj (hcall.symm.trans hcall')
    exact hsteps.answer (h call hcall) hkept m hrequest
  | _ => cases hacc

structure RunInv (s : AgentState) : Prop where
  agent : AgentInv anyCodes s
  links : SpoolLinks s.db
  answering : Answering s

lemma RunInv.step (e : AgentEvent) (h : RunInv s) : RunInv (s.step e).1 := by
  obtain ⟨hinv, hspec⟩ := step_any e h.agent
  exact ⟨hinv, h.links.event hspec, answering_step e h.agent h.answering⟩

lemma runInv_empty : RunInv ({} : AgentState) :=
  ⟨agentInv_empty, spoolLinks_empty, by rintro _ ⟨⟩⟩

lemma RunInv.run (h : RunInv s) (es : List AgentEvent) : ∀ st ∈ s.run es, RunInv st.state := by
  have hstep : ∀ (s : AgentState) (e : AgentEvent), RunInv s → True → RunInv (s.step e).1 :=
    fun _ e h _ => h.step e
  exact run_invariant hstep h (runOk_any _ _)

lemma AcceptedAs.run (hinv : RunInv s) (h : AcceptedAs s.db m jobId) (es : List AgentEvent) :
    ∀ st ∈ s.run es, RunInv st.state ∧ AcceptedAs st.state.db m jobId := by
  have hstep : ∀ (s : AgentState) (e : AgentEvent), RunInv s ∧ AcceptedAs s.db m jobId → True →
      RunInv (s.step e).1 ∧ AcceptedAs (s.step e).1.db m jobId := by
    rintro s e ⟨hinv, h⟩ -
    exact ⟨hinv.step e, h.kept (step_any e hinv.agent).2.kept⟩
  exact run_invariant hstep ⟨hinv, h⟩ (runOk_any _ _)

lemma acceptedAs_of_answer {inp : StepInput} (hinv : RunInv s) (hcall : s.call = some call)
    (hrequest : call.request = some m) (hacc : (s.step (.advance inp)).2 = .outcome (.accepted acc))
    (es : List AgentEvent) :
    ∀ st ∈ s.run (.advance inp :: es),
      RunInv st.state ∧ AcceptedAs st.state.db m acc.printJobId := by
  have h := advance_acceptedAs hinv.agent hinv.answering hcall hrequest hacc
  intro st hst
  rw [AgentState.run, Lib.run, List.mem_cons] at hst
  rcases hst with rfl | hst
  · exact ⟨hinv.step _, h⟩
  · exact h.run (hinv.step _) es st hst

lemma answers_accepted_iff (hcall : s.call = none) :
    s.Answers m (.accepted acc) ↔ replay s.db m = .ok (some acc) := by
  constructor
  · intro h
    have h := h sampleInput
    rw [submit_eq hcall] at h
    simp only [callStep] at h
    cases hreplay : replay s.db m with
    | error => simp [hreplay, ended] at h
    | ok found =>
      cases found with
      | some =>
        simp only [hreplay, ended, Prod.mk.injEq, AgentOutput.outcome.injEq,
          Outcome.accepted.injEq] at h
        rw [h.2]
      | none =>
        cases hchecks : acceptChecks sampleInput m with
        | error => simp [hreplay, hchecks, ended] at h
        | ok => simp [hreplay, hchecks] at h
  · intro h
    apply answers_of_ended hcall
    intro inp
    simp only [callStep, h]

/-- The manifests of managed work name no POS configuration and no paired client. -/
def ScopeOk (m : AdmissionManifest) : Prop :=
  m.scopeKind = .deviceManager → m.posConfigurationId = none ∧ m.pairedClientId = none

lemma inScope_of_origin (hm : ScopeOk m)
    (h : a.comparison.toOriginComparison = m.comparison.toOriginComparison) :
    inScope m a = true := by
  have hkind : a.scopeKind = m.scopeKind := congrArg OriginComparison.scopeKind h
  have horg : a.organizationId = m.organizationId := congrArg OriginComparison.organizationId h
  have hsite : a.siteId = m.siteId := congrArg OriginComparison.siteId h
  have hpos : a.posConfigurationId = m.posConfigurationId :=
    congrArg OriginComparison.posConfigurationId h
  have hclient : a.pairedClientId = m.pairedClientId := congrArg OriginComparison.pairedClientId h
  cases hk : m.scopeKind with
  | pairedClient => simp [inScope, hkind, horg, hsite, hpos, hclient, hk]
  | deviceManager =>
    obtain ⟨hnone, hnone'⟩ := hm hk
    simp [inScope, hkind, horg, hsite, hpos, hclient, hk, hnone, hnone']

lemma findOrigin_eq (hlinks : SpoolLinks db) (ha : a ∈ db.admissions.rows)
    (hscope : inScope m a = true) (hkey : a.originSubmissionKey = m.originSubmissionKey) :
    findOrigin db m = some a := by
  refine Table.first_eq ha (by simp [hscope, hkey]) fun b hb hp => ?_
  simp only [Bool.and_eq_true, beq_iff_eq] at hp
  exact hlinks.origin b hb a ha (scope_of_inScope hp.1 hscope) (hp.2.trans hkey.symm)

lemma admission_eq_of_jobId {b : AdmissionRow} (ha : a ∈ db.admissions.rows)
    (hb : b ∈ db.admissions.rows) (hja : a.jobId = some jobId) (hjb : b.jobId = some jobId) :
    a = b :=
  db.admissions.eq_of_key (u := AdmissionRow.uqJobId) (by simp [AdmissionRow.spec]) ha hb
    (k := jobId) hja hjb

def KeyFree (db : Db) (m : AdmissionManifest) (jobId : String) : Prop :=
  ∀ b ∈ db.admissions.rows, inScope m b = true → b.idempotencyKey = m.idempotencyKey →
    b.jobId = some jobId

instance (db : Db) (m : AdmissionManifest) (jobId : String) : Decidable (KeyFree db m jobId) :=
  inferInstanceAs (Decidable (∀ b ∈ db.admissions.rows, _ → _ → _))

lemma keyFree_of_replay (h : replay db m = .ok (some acc)) : KeyFree db m acc.printJobId := by
  intro b hb hscope hkey
  rw [replay, findIdempotency_eq hb hscope hkey] at h
  simp only [bind_ok] at h
  obtain ⟨_, -, _, -, h⟩ := h
  split at h
  · simp only [bind_ok, pure_ok, Option.some.injEq] at h
    obtain ⟨_, haccepted, rfl⟩ := h
    exact (acceptedFromRow_ok haccepted).1
  · simp [pure_ok] at h

lemma replay_origin (hlinks : SpoolLinks db) (ha : a ∈ db.admissions.rows)
    (hstate : a.state = .accepted) (hscope : inScope m a = true)
    (hnone : findIdempotency db m = none)
    (horigin : a.comparison.toOriginComparison = m.comparison.toOriginComparison) :
    ∃ t, replay db m = .ok (some ⟨a.intentId, a.plannedJobId, a.deviceId, t, 1, true⟩) := by
  obtain ⟨t, hjob, hacc⟩ := accepted_columns ha hstate
  have hkey : a.originSubmissionKey = m.originSubmissionKey :=
    congrArg OriginComparison.originSubmissionKey horigin
  refine ⟨t, ?_⟩
  rw [replay, hnone, findOrigin_eq hlinks ha hscope hkey]
  simp [sameOriginSubmission, horigin, require, raiseIfAborted, hstate, acceptedFromRow, hjob,
    hacc, bind, Except.bind, pure, Except.pure]

lemma replay_iff (hlinks : SpoolLinks db) (hm : ScopeOk m) (ha : a ∈ db.admissions.rows)
    (hstate : a.state = .accepted) (hjob : a.jobId = some jobId) :
    (∃ acc : AdmissionAccepted, acc.printJobId = jobId ∧ acc.replayed = true ∧
      replay db m = .ok (some acc)) ↔ Matches m a ∧ KeyFree db m jobId := by
  obtain ⟨-, hplanned, -⟩ := accepted_columns ha hstate
  have hplanned : a.plannedJobId = jobId := by simpa [hplanned] using hjob
  constructor
  · rintro ⟨acc, rfl, -, hreplay⟩
    refine ⟨?_, keyFree_of_replay hreplay⟩
    obtain ⟨b, hb, -, hjobb, hmatches⟩ := replay_acceptedAs hreplay
    rwa [admission_eq_of_jobId ha hb hjob hjobb]
  · rintro ⟨hmatches, hfree⟩
    have hscope := inScope_of_origin hm hmatches.origin
    by_cases hkey : a.idempotencyKey = m.idempotencyKey
    · obtain ⟨t, hreplay⟩ := replay_accepted ha hstate
        (m := m) ⟨hscope, hkey, hmatches.exact_key hkey⟩
      exact ⟨_, hplanned, rfl, hreplay⟩
    · have hnone : findIdempotency db m = none := by
        cases hfind : findIdempotency db m with
        | none => rfl
        | some b =>
          obtain ⟨hb, hp⟩ := Table.first_spec hfind
          simp only [Bool.and_eq_true, beq_iff_eq] at hp
          have heq := admission_eq_of_jobId ha hb hjob (hfree b hb hp.1 hp.2)
          exact absurd (heq ▸ hp.2) hkey
      obtain ⟨t, hreplay⟩ := replay_origin hlinks ha hstate hscope hnone hmatches.origin
      exact ⟨_, hplanned, rfl, hreplay⟩

lemma matches_retry (h : Matches m a) (deadlineAt : Time) (fingerprint : Bytes)
    (grantGeneration : Option Nat) (proof : AuthorityProof) :
    Matches (m.retried deadlineAt fingerprint grantGeneration proof) a ↔
      m.fingerprint = fingerprint ∧ m.grantGeneration = grantGeneration ∧
        (a.idempotencyKey = m.idempotencyKey → m.deadlineAt = deadlineAt) := by
  constructor
  · intro h'
    have horigin := h.origin.symm.trans h'.origin
    refine ⟨congrArg OriginComparison.fingerprint horigin,
      congrArg OriginComparison.grantGeneration horigin, fun hkey => ?_⟩
    exact congrArg ManifestComparison.deadlineAt ((h.exact_key hkey).symm.trans (h'.exact_key hkey))
  · rintro ⟨rfl, rfl, hdeadline⟩
    refine ⟨h.origin, fun hkey => ?_⟩
    rw [h.exact_key hkey]
    simp only [AdmissionManifest.comparison, AdmissionManifest.retried, hdeadline hkey]

/-- A request is admitted at a moment, and answered with an earlier job. -/
def AgentState.Returns (s : AgentState) (tools : DocumentTools) (moment : AdmissionMoment)
    (request : AdmissionRequest) (jobId : String) : Prop :=
  ∃ m, admitManifest tools moment request = .ok m ∧ ∃ acc : AdmissionAccepted,
    acc.printJobId = jobId ∧ acc.replayed = true ∧ s.Answers m (.accepted acc)

lemma returns_iff {tools : DocumentTools} {moment : AdmissionMoment} {request : AdmissionRequest}
    (hlinks : SpoolLinks s.db) (hcall : s.call = none)
    (hfirst : admitManifest tools moment request = .ok m) (hm : ScopeOk m)
    (ha : a ∈ s.db.admissions.rows) (hstate : a.state = .accepted) (hjob : a.jobId = some jobId) :
    s.Returns tools moment request jobId ↔ Matches m a ∧ KeyFree s.db m jobId := by
  rw [← replay_iff hlinks hm ha hstate hjob]
  simp only [AgentState.Returns, hfirst, Except.ok.injEq, exists_eq_left',
    answers_accepted_iff hcall]

/-- A Retry gets its job back exactly when the deadline and the generation are the same and no other
admission has taken the key. -/
theorem retry_returns_job_iff {tools : DocumentTools} {moment moment' : AdmissionMoment}
    {request : AdmissionRequest} (hfirst : admitManifest tools moment request = .ok m)
    {es : List AgentEvent} {st : Recorded AgentEvent AgentOutput AgentState}
    (hst : st ∈ ({} : AgentState).run es) {call : Call} (hcall : st.state.call = some call)
    (hrequest : call.request = some m) {inp : StepInput} {acc : AdmissionAccepted}
    (hacc : (st.state.step (.advance inp)).2 = .outcome (.accepted acc)) (es' : List AgentEvent) :
    ∀ st' ∈ st.state.run (.advance inp :: es'), st'.state.call = none → ∀ generation,
      moment'.InTime request.trustedManagedExpiresAt → moment'.Authorizes tools request →
      -- the two fingerprints do not collide
      (m.fingerprintAt tools request.work.document.content
          (moment.admitsUntil request.trustedManagedExpiresAt) =
        m.fingerprintAt tools request.work.document.content
          (moment'.admitsUntil request.trustedManagedExpiresAt) →
        moment.admitsUntil request.trustedManagedExpiresAt =
          moment'.admitsUntil request.trustedManagedExpiresAt) →
      (st'.state.Returns tools moment' (request.renewed generation) acc.printJobId ↔
        moment.admitsUntil request.trustedManagedExpiresAt =
            moment'.admitsUntil request.trustedManagedExpiresAt ∧
          (∀ g, request.authorization.generation? = some g → g = generation) ∧
          KeyFree st'.state.db m acc.printJobId) := by
  intro st' hst' hnone generation hin hauth hcollision
  obtain ⟨hinv, a, ha, hstate, hjob, hmatches⟩ :=
    acceptedAs_of_answer (runInv_empty.run es st hst) hcall hrequest hacc es' st' hst'
  obtain ⟨hdeadline, hfingerprint⟩ := admitManifest_fields hfirst
  obtain ⟨hgeneration, hscope⟩ := columns_of_admitManifest hfirst
  obtain ⟨proof, hretry⟩ := admitManifest_retry generation hfirst hin hauth
  rw [returns_iff hinv.links hnone hretry hscope ha hstate hjob, matches_retry hmatches, hfingerprint,
    hgeneration, hdeadline]
  have hgen : request.authorization.generation? =
      request.authorization.generation?.map (fun _ => generation) ↔
      ∀ g, request.authorization.generation? = some g → g = generation := by
    cases request.authorization.generation? <;> simp
  rw [hgen]
  constructor
  · rintro ⟨⟨hfp, hg, -⟩, hfree⟩
    exact ⟨hcollision hfp, hg, hfree⟩
  · rintro ⟨hd, hg, hfree⟩
    exact ⟨⟨by rw [hd], hg, fun _ => hd⟩, hfree⟩

def sampleTools : DocumentTools where
  toDigestTools := (Reference.wire (fun _ => none)).toDigestTools
  lower := id
  canonicalJson := fun j => some (Reference.text j)
  openImage := fun _ => some ⟨"JPEG", 576, 800, true⟩
  pdfValidator := fun _ _ => .ok ()
  zplLayout := fun _ => none
  splitLabels := fun _ _ => .ok ()

def digestOf (options : List (String × Json)) : Bytes :=
  sampleTools.sha256 (encode (Reference.text (.obj options)))

def receiptWork (key intent : String) : DocumentWork where
  idempotencyKey := key
  context := .submission
    { contractMajor := 1
      organizationId := "org"
      siteId := "site"
      printIntentId := intent
      originSubmissionKey := "origin"
      bindingRevisionId := "binding"
      deviceId := "printer"
      actorId := "actor"
      authorizationDigest := "digest"
      copyOrdinal := 1
      pairedClientId := "client"
      origin := ⟨⟨"db", "pos", "session", "order", none, "receipt", "1"⟩, none⟩ }
  document := ⟨.receiptImage, [0xff, 0xd8, 0xff]⟩

def sampleRequest : AdmissionRequest where
  work := receiptWork "key" "intent"
  authorization := .grant
    { organizationId := "org"
      siteId := "site"
      database := "db"
      actorId := "actor"
      deviceId := "printer"
      bindingRevisionId := "binding"
      operation := .receiptImage
      authorizationDigest := "digest"
      grantId := "grant"
      pairingId := "client"
      generation := 0
      posConfigurationId := "pos"
      pairedClientId := "client" }
  mediaType := "image/jpeg"
  options := []

def sampleMoment (t : Time) : AdmissionMoment where
  resolveUtc := t
  resolveMonotonic := 0
  checkUtc := t
  checkMonotonic := 0
  nowUtc := t
  nowMonotonic := 0
  capMonotonic := 0
  authority :=
    { revision := .ok (⟨"authority", sampleDigest, none⟩, 1)
      binding := .ok
        { scope := ⟨"db", "org", "site", .posConfiguration, some "pos"⟩
          purpose := "pos_receipt"
          deviceId := "printer"
          revisionId := "binding"
          optionsDigest := digestOf []
          deviceIdentityDigest := sampleDigest
          capabilityId := "capability"
          digest := sampleDigest }
      profile := .ok ⟨"driver", sampleDigest, none⟩
      capability := .ok ⟨"receipt_image", "image/jpeg", 1, digestOf []⟩
      matrixRow := .ok ⟨"row", sampleDigest, none⟩
      evidence := .ok ⟨"evidence", sampleDigest, none⟩
      observation := .ok ()
      revocations := .ok ()
      digests := ⟨sampleDigest, sampleDigest, sampleDigest, sampleDigest⟩
      proofId := "proof" }

def reportContext : ManagedSubmissionContext where
  toContextFields := sampleRequest.work.context.fields
  database := "db"
  companyId := "company"
  managedWorkId := "work"
  origin := ⟨⟨"report", "binding", "action", "contract", "template", none, none, none⟩, "manual",
    .records "stock.picking" [7], 0, 1⟩

/-- Managed work that ends before the five minutes of an admission. -/
def reportRequest : AdmissionRequest where
  work := ⟨"key", .managed reportContext, ⟨.reportPdf, encode "%PDF-1.7"⟩⟩
  authorization := .managed (managedAuthorization reportContext .reportPdf)
  mediaType := "application/pdf"
  options := [("dpi", .int 203)]
  trustedManagedExpiresAt := some (200 * second)

def reportMoment (t : Time) : AdmissionMoment :=
  let records := (sampleMoment t).authority
  let digest := digestOf reportRequest.options
  { sampleMoment t with
    authority :=
      { records with
        binding := records.binding.map ({ · with
          scope := ⟨"db", "org", "site", .site, none⟩
          purpose := "report_pdf"
          optionsDigest := digest })
        capability := .ok ⟨"report_pdf", "application/pdf", 1, digest⟩ } }

lemma eq_ok_of_isOk {ε α : Type} {e : Except ε α} (h : e.isOk = true) (default : α) :
    e = .ok (e.toOption.getD default) := by
  cases e with
  | ok => rfl
  | error => cases h

def manifestAt (moment : AdmissionMoment) (request : AdmissionRequest) : AdmissionManifest :=
  (admitManifest sampleTools moment request).toOption.getD sampleManifest

lemma manifestAt_admitted {moment : AdmissionMoment} {request : AdmissionRequest}
    (h : (admitManifest sampleTools moment request).isOk = true) :
    admitManifest sampleTools moment request = .ok (manifestAt moment request) :=
  eq_ok_of_isOk h sampleManifest

def admissionRun (m : AdmissionManifest) : List AgentEvent :=
  .accept m :: List.replicate 9 (.advance sampleInput)

def reportRun : List AgentEvent := admissionRun (manifestAt (reportMoment 0) reportRequest)

theorem sample_retry_returned :
    ∃ st ∈ ({} : AgentState).run reportRun, ∃ st' ∈ st.state.run [.advance sampleInput],
      st'.output = .outcome (.accepted ⟨"intent", "job", "printer", 0, 1, false⟩) ∧
      st'.state.Returns sampleTools (reportMoment second) reportRequest "job" := by
  have hadmitted : ∀ t ∈ [0, second],
      (admitManifest sampleTools (reportMoment t) reportRequest).isOk = true := by
    decide +kernel
  have hfirst := manifestAt_admitted (hadmitted 0 (by simp))
  have hauth : (reportMoment second).Authorizes sampleTools reportRequest := by
    intro checked hchecked
    obtain ⟨a, ha, -⟩ := admitManifest_ok.mp (manifestAt_admitted (hadmitted second (by simp)))
    obtain ⟨checked', hchecked', hprepared⟩ := DocumentAdmissionService.prepareAdmission_ok ha
    cases hchecked.symm.trans hchecked'
    exact ⟨_, hprepared.proof⟩
  have hin : (reportMoment second).InTime reportRequest.trustedManagedExpiresAt :=
    ⟨by decide +kernel, by decide +kernel⟩
  let st := (({} : AgentState).run reportRun).get ⟨8, by decide +kernel⟩
  obtain ⟨hlast, hacc, hidle, hfree⟩ : st.state.call =
        some (.accepting (manifestAt (reportMoment 0) reportRequest) 0 ⟨"admission", "job",
          "reservation", "artifact", manifestAt (reportMoment 0) reportRequest⟩
          (.finalize false)) ∧
      (st.state.step (.advance sampleInput)).2 =
        .outcome (.accepted ⟨"intent", "job", "printer", 0, 1, false⟩) ∧
      (st.state.step (.advance sampleInput)).1.call = none ∧
      KeyFree (st.state.step (.advance sampleInput)).1.db (manifestAt (reportMoment 0) reportRequest)
        "job" := by
    decide +kernel
  have hst : st ∈ ({} : AgentState).run reportRun := List.get_mem _ _
  clear_value st
  have h := retry_returns_job_iff hfirst hst hlast rfl hacc [] _ List.mem_cons_self hidle 0 hin hauth
    (fun _ => by decide +kernel)
  exact ⟨st, hst, _, List.mem_cons_self, hacc, h.mpr ⟨by decide +kernel, by rintro g ⟨⟩, hfree⟩⟩

def sampleReceipt (t : Time) : AdmissionManifest := manifestAt (sampleMoment t) sampleRequest

theorem retry_after_one_second_conflicts :
    admitManifest sampleTools (sampleMoment 0) sampleRequest = .ok (sampleReceipt 0) ∧
    admitManifest sampleTools (sampleMoment second) sampleRequest = .ok (sampleReceipt second) ∧
    ∃ st ∈ ({} : AgentState).run (admissionRun (sampleReceipt 0)),
      st.output = .outcome (.accepted ⟨"intent", "job", "printer", 0, 1, false⟩) ∧
      st.state.Answers (sampleReceipt second) (.raised (.plain .idempotencyConflict)) := by
  let st := (({} : AgentState).run (admissionRun (sampleReceipt 0))).get ⟨9, by decide +kernel⟩
  obtain ⟨hacc, hidle, hreplay⟩ :
      st.output = .outcome (.accepted ⟨"intent", "job", "printer", 0, 1, false⟩) ∧
      st.state.call = none ∧
      replay st.state.db (sampleReceipt second) = .error (.plain .idempotencyConflict) := by
    decide +kernel
  exact ⟨manifestAt_admitted (by decide +kernel), manifestAt_admitted (by decide +kernel), st,
    List.get_mem _ _, hacc, answers_conflict hidle hreplay⟩

end Inari.Agent
