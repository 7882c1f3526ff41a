import Inari.Proofs.AgentJournal

/-!
# What runs of the Agent promise about Print Jobs

Device I/O is permitted at most once for each Print Job, and its journal tells its whole life.
-/

namespace Inari.Agent

open Lib SqliteExecutionLedger DurableSpoolAdmissionStore

variable {F : PrintJobRow → Prop} {db db' : Db} {codes : String → String → Prop}

def Started (db : Db) (jobId : String) : Prop :=
  (∃ r ∈ db.jobs.rows, r.id = jobId) ∧ ∀ r ∈ db.jobs.rows, r.id = jobId → r.state ≠ .accepted

lemma Started.steps {jobId : String} (h : Started db jobId) (hsteps : JobSteps codes db db') :
    Started db' jobId := by
  have hA : ∀ s s', JobWrite codes s s' → ¬s'.state = .accepted :=
    fun _ _ hw => jobWrite_not_accepted hw
  obtain ⟨⟨r, hr, hid⟩, hnot⟩ := h
  have hnot' : ∀ x ∈ db.journal.heads, x.key = jobId → ¬x.value.state = .accepted := by
    intro x hx hk
    obtain ⟨r', hr', rfl⟩ := List.mem_map.mp hx
    exact hnot r' hr' hk
  obtain ⟨⟨x, hx, hk⟩, hlater⟩ := Journal.Steps.avoids hA hsteps
    ⟨r.entry, List.mem_map_of_mem hr, hid⟩ hnot'
  constructor
  · obtain ⟨r', hr', rfl⟩ := List.mem_map.mp hx
    exact ⟨r', hr', hk⟩
  · intro r' hr' hid'
    exact hlater r'.entry (List.mem_map_of_mem hr') hid'

lemma markIoStarted_started {env : LedgerEnv} {c : ExecutionClaim} {now : Time}
    {markerId : String} {permit : IoPermit}
    (h : markIoStarted env db c now markerId = .ok (db', permit)) :
    (∃ r ∈ db.jobs.rows, r.id = permit.jobId ∧ r.state = .accepted) ∧ Started db' permit.jobId := by
  obtain ⟨hstarts, hpermit⟩ : IoStarts anyCodes c db db' ∧ _ := markIoStarted_starts h
  obtain ⟨job, hid, hstate, hu⟩ := hstarts.job
  obtain ⟨r, hr, hidentity, -⟩ := hu.exists_row
  rw [hpermit, ← hid]
  refine ⟨⟨job, hu.mem, rfl, hstate⟩, ⟨r, hr, (of_identity hidentity).1⟩, fun r hr hrid => ?_⟩
  rcases hu.row_of_mem hr with ⟨-, hprogress⟩ | ⟨hne, -⟩
  · rw [hprogress]
    exact nofun
  · exact absurd hrid hne

variable {s : AgentState} {e : AgentEvent} {r : PrintJobRow}

lemma step_ledger_ok {a : LedgerResult} (h : (s.step e).2 = .ledger (.ok a)) :
    ∃ env c, applyLedger env s.db c = .ok ((s.step e).1.db, a) := by
  have hsteps := s.step_cases e
  generalize s.step e = result at hsteps h
  cases hsteps with
  | ledger hok hr =>
    cases h
    obtain ha | ⟨e, he⟩ := hr
    · cases ha
      exact ⟨_, _, hok⟩
    · cases he
  | _ => cases h

lemma step_permit {permit : IoPermit} (h : (s.step e).2 = .ledger (.ok (.permit permit))) :
    (∃ r ∈ s.db.jobs.rows, r.id = permit.jobId ∧ r.state = .accepted) ∧
      Started (s.step e).1.db permit.jobId := by
  obtain ⟨env, c, hok⟩ := step_ledger_ok h
  cases c with
  | markIoStarted =>
    obtain ⟨⟨db1, r⟩, hop, heq⟩ := map_ok.mp hok
    simp only [Prod.mk.injEq, LedgerResult.permit.injEq] at heq
    obtain ⟨rfl, rfl⟩ := heq
    exact markIoStarted_started hop
  | _ =>
    obtain ⟨a, -, heq⟩ := map_ok.mp hok
    simp at heq

lemma step_claim {claim : ExecutionClaim}
    (h : (s.step e).2 = .ledger (.ok (.claim (some claim)))) :
    ∃ r ∈ (s.step e).1.db.jobs.rows, r.id = claim.jobId ∧ r.state = .accepted := by
  obtain ⟨env, c, hok⟩ := step_ledger_ok h
  cases c with
  | claimNext =>
    obtain ⟨⟨db1, r⟩, hop, heq⟩ := map_ok.mp hok
    simp only [Prod.mk.injEq, LedgerResult.claim.injEq] at heq
    obtain ⟨rfl, rfl⟩ := heq
    obtain ⟨db2, -, ⟨-, hnone⟩ | ⟨job, hjob, hstate, -, c, hsome, hclaim⟩⟩ :=
      claimNext_cases anyCodes hop
    · cases hnone
    · cases hsome
      obtain ⟨_, _, _, hdb, -, -, -, hid⟩ := claim_eq hclaim
      exact ⟨job, by rwa [hdb], hid.symm, hstate⟩
  | _ =>
    obtain ⟨a, -, heq⟩ := map_ok.mp hok
    simp at heq

lemma anyCodes_event (e : AgentEvent) : e.Codes anyCodes := by
  cases e with
  | ledger env c => exact anyCodes_call c
  | _ => trivial

lemma step_any (e : AgentEvent) (hinv : AgentInv anyCodes s) : AgentInv anyCodes (s.step e).1 ∧
    EventSpec (Call.Failing s.call) anyCodes s.db (s.step e).1.db :=
  step_spec hinv anyCodes_own (anyCodes_event e)

lemma agentInv_step (s : AgentState) (e : AgentEvent) (hinv : AgentInv anyCodes s) (_ : True) :
    AgentInv anyCodes (s.step e).1 :=
  (step_any e hinv).1

lemma runOk_any (s : AgentState) (es : List AgentEvent) :
    RunOk (fun _ _ => True) AgentState.step s es :=
  runOk_of_forall (fun _ _ => trivial)

lemma run_started {jobId : String} (hinv : AgentInv anyCodes s) (hstarted : Started s.db jobId)
    (es : List AgentEvent) :
    ∀ st ∈ s.run es, Started st.state.db jobId ∧
      (∀ p, st.output = .ledger (.ok (.permit p)) → p.jobId ≠ jobId) ∧
      (∀ c, st.output = .ledger (.ok (.claim (some c))) → c.jobId ≠ jobId) := by
  have hstep : ∀ (s : AgentState) (e : AgentEvent), AgentInv anyCodes s ∧ Started s.db jobId →
      True → AgentInv anyCodes (s.step e).1 ∧ Started (s.step e).1.db jobId := by
    rintro s e ⟨hinv, hstarted⟩ -
    obtain ⟨hinv', hspec⟩ := step_any e hinv
    exact ⟨hinv', hstarted.steps hspec.steps⟩
  intro st hst
  obtain ⟨s', ⟨hinv', hstarted'⟩, -, heq⟩ := run_steps hstep ⟨hinv, hstarted⟩ (runOk_any s es) st hst
  have hafter := (hstep s' st.event ⟨hinv', hstarted'⟩ trivial).2
  rw [heq] at hafter
  refine ⟨hafter, ?_, ?_⟩
  · rintro p hp rfl
    obtain ⟨⟨r, hr, hid, hstate⟩, -⟩ := step_permit (s := s') (e := st.event) (by rw [heq]; exact hp)
    exact hstarted'.2 r hr hid hstate
  · rintro c hc rfl
    have hclaim := step_claim (e := st.event) (by rw [heq]; exact hc)
    rw [heq] at hclaim
    obtain ⟨r, hr, hid, hstate⟩ := hclaim
    exact hafter.2 r hr hid hstate

/-- Device I/O is permitted at most once for each Print Job, which is not accepted again after it.
-/
theorem io_permitted_at_most_once (es : List AgentEvent) :
    (∀ st ∈ ({} : AgentState).run es, ∀ p, st.output = .ledger (.ok (.permit p)) →
      ∀ r ∈ st.state.db.jobs.rows, r.id = p.jobId → r.state ≠ .accepted) ∧
    (({} : AgentState).run es).Pairwise (fun st later =>
      ∀ p, st.output = .ledger (.ok (.permit p)) →
        (∀ p', later.output = .ledger (.ok (.permit p')) → p'.jobId ≠ p.jobId) ∧
        (∀ c, later.output = .ledger (.ok (.claim (some c))) → c.jobId ≠ p.jobId) ∧
        ∀ r ∈ later.state.db.jobs.rows, r.id = p.jobId → r.state ≠ .accepted) := by
  constructor
  · intro st hst p hp
    obtain ⟨s', -, -, heq⟩ := run_steps agentInv_step agentInv_empty (runOk_any _ es) st hst
    have hafter := (step_permit (s := s') (e := st.event) (by rw [heq]; exact hp)).2
    rw [heq] at hafter
    exact hafter.2
  · refine run_pairwise agentInv_step ?_ agentInv_empty (runOk_any _ es)
    intro s e rest hinv _ _ st hst p hp
    have hstarted := (step_permit hp).2
    obtain ⟨hlater, hpermit, hclaim⟩ := run_started (agentInv_step s e hinv trivial) hstarted rest st hst
    exact ⟨hpermit, hclaim, hlater.2⟩

/-! ## A run with one job

A document of managed work is admitted, printed and confirmed. -/

def sampleDigest : Bytes := List.replicate 32 7
def sampleNonce : Bytes := List.replicate 12 7

def sampleProof : AuthorityProof where
  proofId := "proof"
  authorityRevisionId := "revision"
  authorityRevisionNumber := 1
  authorityRevisionDigest := sampleDigest
  snapshotDigest := sampleDigest
  graphDigest := sampleDigest
  scopeDigest := sampleDigest
  observationDigest := sampleDigest
  bindingRevisionId := "binding"
  bindingRevisionDigest := sampleDigest
  driverProfileId := "driver"
  driverProfileDigest := sampleDigest
  matrixRowId := "row"
  matrixRowDigest := sampleDigest
  testEvidenceId := "evidence"
  testEvidenceDigest := sampleDigest
  deviceId := "printer"
  deviceIdentityDigest := sampleDigest
  capabilityId := "capability"
  purpose := "report"
  operation := "document"
  mediaType := "application/pdf"
  contractMajor := 1
  optionsDigest := sampleDigest
  issuedAt := 0
  validUntil := day

def sampleManifest : AdmissionManifest where
  scopeKind := .deviceManager
  managedWorkId := some "work"
  grantId := none
  grantPairingId := none
  grantGeneration := none
  idempotencyKey := "key"
  database := "db"
  organizationId := "org"
  siteId := "site"
  posConfigurationId := none
  pairedClientId := none
  actorId := "actor"
  deviceId := "printer"
  bindingRevisionId := "binding"
  authorizationDigest := sampleDigest
  operation := "document"
  mediaType := "application/pdf"
  normalizedOptionsDigest := sampleDigest
  normalizedOptions := []
  grantScopeDigest := sampleDigest
  originSubmissionKey := "origin"
  originKind := .report
  originJson := "\x7b\x7d"
  contractMajor := 1
  copyOrdinal := 1
  intentId := "intent"
  fingerprint := sampleDigest
  deadlineAt := hour
  originalSizeBytes := 1000
  authorityProof := sampleProof

def sampleInput : StepInput where
  env :=
    { policy := {}
      owner := ⟨"spool", 1, by decide, by decide⟩
      managedDeviceIsShared := fun _ => true
      guardCheck := fun _ _ => .ok ()
      fileExists := fun _ => .ok true }
  clock := 0
  ids := ⟨"admission", "job", "reservation", "artifact"⟩
  graphOk := true
  volumeReserve := .ok ()
  completePublication := .ok true
  storedKey := .ok ()
  newKey := .ok ⟨1, 1, sampleNonce, List.replicate 48 7⟩
  stagedDocument := .ok ⟨"file", 1, sampleNonce, 1016, sampleDigest⟩
  publishFile := .ok ()
  verifyFile := .ok ()
  removeFiles := .ok ()
  commit := .done

def sampleOwner : ExecutionOwner := ⟨"worker", 1, by decide, by decide⟩

def sampleEnv : LedgerEnv where
  devices := [⟨"printer", "driver", "Printer"⟩]
  deviceTests := []
  grants := []
  pairings := []
  guardCheck := fun _ _ => .ok ()
  outputEvidenceMeetsContract := fun _ _ => true
  sha256 := fun _ => sampleDigest
  leaseDuration := 60 * second

def sampleClaim : ExecutionClaim where
  attemptId := "attempt"
  leaseId := "lease"
  executionId := "execution"
  owner := sampleOwner
  attemptNumber := 1
  stateVersion := 1
  leaseExpiresAt := 60 * second
  jobId := "job"
  intentId := "intent"
  admissionId := "admission"
  deviceId := "printer"
  driverKey := "driver"
  deviceName := "Printer"
  capabilityId := "capability"
  operation := "document"
  mediaType := "application/pdf"
  normalizedOptionsDigest := sampleDigest
  normalizedOptions := []
  bindingRevisionId := "binding"
  scopeKind := .deviceManager
  managedWorkId := some "work"
  grantId := none
  grantPairingId := none
  grantGeneration := none
  grantAuthorizationDigest := none
  expiresAt := hour
  original := ⟨"artifact", "file", .original, 1, sampleNonce, 1000, 1016, sampleDigest⟩
  key := ⟨1, 1, sampleNonce, List.replicate 48 7⟩

def samplePermit : IoPermit :=
  ⟨"attempt", "lease", "execution", "job", "printer", "marker", 2, 1⟩

def sampleResult : DriverExecutionResult :=
  WorkerReport.toResult id (.message (.result (some .confirmed) (some .device) none))

def sampleAdmission : List AgentEvent :=
  .accept sampleManifest :: List.replicate 9 (.advance sampleInput)

def sampleExecution : List AgentEvent :=
  [.ledger sampleEnv (.claimNext sampleOwner none 1 ⟨"attempt", "lease", "execution", "temp"⟩) .done,
   .ledger sampleEnv (.markPrepared sampleClaim 1) .done,
   .ledger sampleEnv (.markIoStarted sampleClaim 1 "marker") .done,
   .ledger sampleEnv (.notePermissionDelivered sampleClaim samplePermit 1) .done,
   .ledger sampleEnv (.finish sampleClaim sampleResult 2) .done]

/-- The end of the run: one permit was given, and the job is confirmed. -/
example :
    ((({} : AgentState).run (sampleAdmission ++ sampleExecution)).filter
      (fun st => st.output matches .ledger (.ok (.permit _)))).length = 1 ∧
    (({} : AgentState).run (sampleAdmission ++ sampleExecution)).getLast?.map
      (fun st => st.state.db.jobs.rows.map PrintJobRow.state) = some [.outputConfirmed] := by
  decide +kernel

def eventsOf (db : Db) (jobId : String) : List PrintJobEventRow :=
  db.events.rows.filter (fun e => decide (e.jobId = jobId))

lemma history_eq (db : Db) (jobId : String) :
    db.journal.history jobId = (eventsOf db jobId).map PrintJobEventRow.entry := by
  rw [Journal.history, Db.journal, eventsOf, List.filter_map]
  congr 1

def follows : PrintJobState → PrintJobState → Bool
  | .accepted, t => [.inProgress, .failed, .expired, .canceled].contains t
  | .inProgress, t => [.outputConfirmed, .failed, .outcomeUnknown].contains t
  | _, _ => false

lemma jobWrite_follows {s s' : JobSnapshot} (h : JobWrite codes s s') :
    follows s.state s'.state = true := by
  cases h with
  | start _ h | expire _ h | reject _ _ _ h | confirm _ _ h | fail _ _ _ h | unknown _ _ _ h =>
    rw [h]; rfl

def Lifecycle (s : JobSnapshot) : Prop :=
  validateLifecycle s.state s.startedAt s.terminalAt s.errorCode s.messageKey
    s.confirmationEvidence = .ok ()

def safeCodes (code key : String) : Prop := isErrorCode code = true ∧ isMessageKey key = true

lemma lifecycle_start {s : JobSnapshot} (h : JobStart s) : Lifecycle s := by
  simp [Lifecycle, validateLifecycle, validateMarkers, bind_ok, h.state, h.startedAt, h.terminalAt,
    h.errorCode, h.messageKey, h.confirmationEvidence]

lemma lifecycle_write {s s' : JobSnapshot} (hclean : JobClean s) (h : JobWrite safeCodes s s') :
    Lifecycle s' := by
  cases h with
  | start now h =>
    simp only [JobClean, h] at hclean
    obtain ⟨-, hterm, herr, hkey, hev⟩ := hclean
    simp [Lifecycle, validateLifecycle, validateMarkers, bind_ok, hterm, herr, hkey, hev]
  | expire now h =>
    simp only [JobClean, h] at hclean
    obtain ⟨hstart, -, herr, hkey, hev⟩ := hclean
    simp [Lifecycle, validateLifecycle, validateMarkers, bind_ok, hstart, herr, hkey, hev]
  | reject now code key h hc | fail now code key h hc =>
    simp only [JobClean, h] at hclean
    obtain ⟨-, -, -, -, hev⟩ := hclean
    simp [Lifecycle, validateLifecycle, validateMarkers, validateFailure, bind_ok, hc.1, hc.2, hev]
  | confirm now evidence h =>
    simp only [JobClean, h] at hclean
    obtain ⟨hstart, -, herr, hkey, -⟩ := hclean
    simp [Lifecycle, validateLifecycle, validateMarkers, bind_ok, hstart, herr, hkey]
  | unknown now code key h hc =>
    simp only [JobClean, h] at hclean
    obtain ⟨hstart, -, -, -, hev⟩ := hclean
    simp [Lifecycle, validateLifecycle, validateMarkers, validateFailure, bind_ok, hstart, hc.1,
      hc.2, hev]

/-- The journal of each Print Job is complete, and its row is the end of it. -/
structure JournalIntegrity (db : Db) : Prop where
  versions : ∀ r ∈ db.jobs.rows,
    (eventsOf db r.id).map PrintJobEventRow.stateVersion = List.range' 1 r.stateVersion
  steps : ∀ r ∈ db.jobs.rows, (eventsOf db r.id).IsChain
    (fun a b => follows a.snapshot.state b.snapshot.state = true)
  last : ∀ r ∈ db.jobs.rows, ∃ e, (eventsOf db r.id).getLast? = some e ∧
    e.snapshot.state = r.state ∧ e.snapshot.startedAt = r.startedAt ∧
    e.snapshot.terminalAt = r.terminalAt ∧ e.snapshot.errorCode = r.errorCode ∧
    e.snapshot.messageKey = r.messageKey ∧
    e.snapshot.confirmationEvidence = r.confirmationEvidence

/-- The lifecycle rules hold of the rows and of the events. -/
structure LifecycleRules (db : Db) : Prop where
  rows : ∀ r ∈ db.jobs.rows, Lifecycle r.view
  events : ∀ r ∈ db.jobs.rows, ∀ e ∈ eventsOf db r.id, Lifecycle e.snapshot

lemma last_event (hj : db.JournalConsistent codes) (hr : r ∈ db.jobs.rows) :
    ∃ e, (eventsOf db r.id).getLast? = some e ∧ e.snapshot = r.view := by
  have h := hj.last _ (List.mem_map_of_mem hr)
  rw [PrintJobRow.entry, history_eq, List.getLast?_map, Option.map_eq_some_iff] at h
  obtain ⟨e, he, heq⟩ := h
  exact ⟨e, he, congrArg Entry.value heq⟩

lemma journalIntegrity (hj : db.JournalConsistent codes) : JournalIntegrity db := by
  refine ⟨fun r hr => ?_, fun r hr => ?_, fun r hr => ?_⟩
  · have h := hj.versions _ (List.mem_map_of_mem hr)
    rw [PrintJobRow.entry, history_eq, List.map_map] at h
    exact h
  · have h := hj.chained _ (List.mem_map_of_mem hr)
    rw [PrintJobRow.entry, history_eq, List.isChain_map] at h
    exact h.imp (fun _ _ hw => jobWrite_follows hw)
  · obtain ⟨e, he, hview⟩ := last_event hj hr
    refine ⟨e, he, ?_⟩
    rw [hview]
    exact ⟨rfl, rfl, rfl, rfl, rfl, rfl⟩

lemma lifecycleRules (hj : db.JournalConsistent safeCodes) : LifecycleRules db := by
  have hevents : ∀ r ∈ db.jobs.rows, ∀ e ∈ eventsOf db r.id, Lifecycle e.snapshot := by
    intro r hr e he
    have hP := hj.forall_history (P := fun s => JobClean s ∧ Lifecycle s)
      (fun s h => ⟨jobClean_start h, lifecycle_start h⟩)
      (fun s s' h hw => ⟨jobClean_write h.1 hw, lifecycle_write h.1 hw⟩) (List.mem_map_of_mem hr)
      (e := e.entry)
      (by rw [PrintJobRow.entry, history_eq]; exact List.mem_map_of_mem he)
    exact hP.2
  refine ⟨fun r hr => ?_, hevents⟩
  obtain ⟨e, he, hview⟩ := last_event hj hr
  exact hview ▸ hevents r hr e (List.mem_of_getLast? he)

lemma SpoolWrite.ended (h : SpoolWrite F db db') (hr : r ∈ db.jobs.rows)
    (hstate : r.state ≠ .accepted) : r ∈ db'.jobs.rows := by
  cases h with
  | other _ _ hjobs | stage _ _ _ _ _ _ _ hjobs | hold _ _ _ _ _ _ _ _ _ hjobs
  | release _ _ _ _ _ hjobs | abort _ _ _ _ _ _ hjobs => exact hjobs ▸ hr
  | publish _ _ _ _ _ _ _ _ _ hjobs =>
    rw [hjobs]
    exact List.mem_append_left _ hr
  | fail job now _ _ _ hjobs => exact Table.mem_left hjobs hr (by simp [stillAccepted, hstate])

lemma SpoolWrites.ended (h : SpoolWrites F db db') (hr : r ∈ db.jobs.rows)
    (hstate : r.state ≠ .accepted) : r ∈ db'.jobs.rows := by
  induction h with
  | refl => exact hr
  | tail _ hw ih => exact hw.ended ih hstate

lemma SpoolWrite.events_prefix (h : SpoolWrite F db db') : db.events.rows <+: db'.events.rows := by
  cases h with
  | other _ _ _ hevents | stage _ _ _ _ _ _ _ _ hevents | hold _ _ _ _ _ _ _ _ _ _ hevents
  | release _ _ _ _ _ _ hevents | abort _ _ _ _ _ _ _ hevents =>
    exact hevents ▸ List.prefix_refl _
  | publish _ _ _ _ _ _ _ _ _ _ hevents | fail _ _ _ _ _ _ hevents =>
    rw [hevents]
    exact List.prefix_append _ _

lemma SpoolWrites.events_prefix (h : SpoolWrites F db db') :
    db.events.rows <+: db'.events.rows := by
  induction h with
  | refl => exact List.prefix_refl _
  | tail _ hw ih => exact ih.trans hw.events_prefix

/-- The job has ended, its row stands in the database and these are all of its events. -/
structure Ended (r : PrintJobRow) (events : List PrintJobEventRow) (db : Db) : Prop where
  accepted : r.state ≠ .accepted
  inProgress : r.state ≠ .inProgress
  row : r ∈ db.jobs.rows
  events : eventsOf db r.id = events

lemma Ended.step {events : List PrintJobEventRow} (h : Ended r events db)
    (hj : db.JournalConsistent codes) (hspec : EventSpec F codes db db') : Ended r events db' := by
  have hrow : r ∈ db'.jobs.rows := by
    rcases hspec.writes with hframe | hw
    · exact hframe.jobs.ended r h.row h.accepted h.inProgress
    · exact hw.ended h.row h.accepted
  have hpre : eventsOf db r.id <+: eventsOf db' r.id := by
    rcases hspec.writes with hframe | hw
    · exact hframe.jobs.events.filter _
    · exact hw.events_prefix.filter _
  -- the abstract journal has no step from this job, so the number of events is the same
  have hfinal : ∀ s, ¬JobWrite codes r.entry.value s := by
    intro s hw
    exact (jobWrite_live hw).elim h.accepted h.inProgress
  have hhistory := (Journal.Steps.final hj hspec.steps (List.mem_map_of_mem h.row) hfinal).2
  have hlength : (eventsOf db r.id).length = (eventsOf db' r.id).length := by
    have := congrArg List.length hhistory
    rw [PrintJobRow.entry, history_eq, history_eq, List.length_map, List.length_map] at this
    exact this.symm
  exact ⟨h.accepted, h.inProgress, hrow, (hpre.eq_of_length hlength) ▸ h.events⟩

/-- A text is missing, empty or in the pattern; in the first two cases a default takes its place. -/
def safeText (pattern : String → Bool) (text : Option String) : Bool :=
  text.all (fun t => t == "" || pattern t)

def DriverExecutionResult.safe (result : DriverExecutionResult) : Bool :=
  safeText isErrorCode result.errorCode && safeText isMessageKey result.messageKey

/-- The error code and message key that the call may store are in the patterns of `PrintJob`. -/
def LedgerCall.safe : LedgerCall → Bool
  | .finish _ result _ => result.safe
  | .failBeforeIo _ errorCode messageKey _ => isErrorCode errorCode && isMessageKey messageKey
  | _ => true

def AgentEvent.safe : AgentEvent → Bool
  | .ledger _ c _ => c.safe
  | _ => true

lemma pattern_orText {pattern : String → Bool} {text : Option String} {default : String}
    (h : safeText pattern text = true) (hdefault : pattern default = true) :
    pattern (orText text default) = true := by
  cases text with
  | none => exact hdefault
  | some =>
    rw [orText]
    split
    · exact hdefault
    · simpa [safeText, *] using h

/-- The texts are in the patterns for every outcome, also for `failed`. -/
lemma safe_codes (h : e.safe = true) : e.Codes safeCodes := by
  cases e with
  | ledger env c =>
    cases c with
    | finish =>
      obtain ⟨hcode, hkey⟩ := Bool.and_eq_true_iff.mp h
      intro state code key hs
      unfold resultState at hs
      split at hs
      · cases hs
      all_goals
        simp only [Prod.mk.injEq, Option.some.injEq] at hs
        obtain ⟨-, -, rfl, rfl⟩ := hs
        exact ⟨pattern_orText hcode (by decide), pattern_orText hkey (by decide)⟩
    | failBeforeIo => exact Bool.and_eq_true_iff.mp h
    | _ => trivial
  | _ => trivial

lemma safeCodes_own : OwnCodes safeCodes := by
  constructor <;> exact ⟨by decide, by decide⟩

lemma run_ended {events : List PrintJobEventRow} {es : List AgentEvent}
    (hinv : AgentInv anyCodes s) (h : Ended r events s.db) :
    ∀ st ∈ s.run es, Ended r events st.state.db := by
  have hkeep : ∀ (s : AgentState) (e : AgentEvent), AgentInv anyCodes s ∧ Ended r events s.db →
      True → AgentInv anyCodes (s.step e).1 ∧ Ended r events (s.step e).1.db := by
    rintro s e ⟨hinv, hended⟩ -
    obtain ⟨hnext, hspec⟩ := step_any e hinv
    exact ⟨hnext, hended.step hinv.journal hspec⟩
  intro st hst
  exact (run_invariant hkeep ⟨hinv, h⟩ (runOk_any s es) st hst).2

/-- The row of each Print Job is the end of its journal, and an ended job does not change. The
lifecycle rules hold of what the calls store, if the texts that they are given do. -/
theorem print_job_journal_integrity (es : List AgentEvent) :
    (∀ st ∈ ({} : AgentState).run es, JournalIntegrity st.state.db) ∧
    (({} : AgentState).run es).Pairwise (fun st later => ∀ r ∈ st.state.db.jobs.rows,
      r.state ∈ [.outputConfirmed, .failed, .expired, .canceled] →
        r ∈ later.state.db.jobs.rows ∧
        eventsOf later.state.db r.id = eventsOf st.state.db r.id) ∧
    ((∀ e ∈ es, e.safe = true) →
      ∀ st ∈ ({} : AgentState).run es, LifecycleRules st.state.db) := by
  refine ⟨fun st hst => ?_, ?_, fun hes st hst => ?_⟩
  · exact journalIntegrity (run_invariant agentInv_step agentInv_empty (runOk_any _ es) st hst).journal
  · refine run_pairwise agentInv_step ?_ agentInv_empty (runOk_any _ es)
    intro s e rest hinv _ _ st hst r hr hstate
    have hended : Ended r (eventsOf (s.step e).1.db r.id) (s.step e).1.db := by
      refine ⟨?_, ?_, hr, rfl⟩ <;> (intro hs; simp [hs] at hstate)
    have hlater := run_ended (agentInv_step s e hinv trivial) hended st hst
    exact ⟨hlater.row, hlater.events⟩
  · have hsafe : ∀ (s : AgentState) (e : AgentEvent), AgentInv safeCodes s → e.safe = true →
        AgentInv safeCodes (s.step e).1 :=
      fun s e hinv he => (step_spec hinv safeCodes_own (safe_codes he)).1
    exact lifecycleRules
      (run_invariant hsafe agentInv_empty (runOk_of_forall hes) st hst).journal

lemma workerMessage_safe (lower : String → String) (m : WorkerMessage) :
    (m.toResult lower).safe = true := by
  cases m with
  | result =>
    simp only [WorkerMessage.toResult]
    split
    · split <;> rfl
    · rfl
  | failed =>
    have hcode : ∀ text, isErrorCode (if isErrorCode text then text else "device_failed") = true := by
      intro text
      split
      · assumption
      · rfl
    have hkey : isMessageKey "print.outcome_unknown" = true := rfl
    simp [WorkerMessage.toResult, unknownResult, DriverExecutionResult.safe, safeText, hcode, hkey]
  | other => rfl

/-- `PhysicalExecution` gives safe texts to `finish` and `fail_before_io`. -/
theorem worker_calls_safe (lower : String → String) (report : WorkerReport) (f : PreIoFailure) :
    (report.toResult lower).safe = true ∧
      isErrorCode f.errorCode = true ∧ isMessageKey f.messageKey = true := by
  constructor
  · cases report with
    | message m => exact workerMessage_safe lower m
    | timeout | cancelled | exited => rfl
  · cases f with
    | service | documentPolicy | expired | permissionDenied => decide +kernel
    | authority code => cases code <;> decide +kernel

def failedRun (code : String) : List AgentEvent :=
  sampleAdmission ++ sampleExecution.dropLast ++ [.ledger sampleEnv
    (.finish sampleClaim ⟨.failed, none, none, some code, some "print.paper_jam"⟩ 2) .done]

theorem sample_journal_integrity :
    (∀ st ∈ ({} : AgentState).run (failedRun "paper_jam"),
      JournalIntegrity st.state.db ∧ LifecycleRules st.state.db) ∧
    (({} : AgentState).run (failedRun "paper_jam")).getLast?.map
      (fun st => (eventsOf st.state.db "job").map (fun e => e.snapshot.state)) =
        some [.accepted, .inProgress, .failed] := by
  obtain ⟨hintegrity, -, hrules⟩ := print_job_journal_integrity (failedRun "paper_jam")
  exact ⟨fun st hst => ⟨hintegrity st hst, hrules (by decide +kernel) st hst⟩, by decide +kernel⟩

/-- `finish` stores an error code that no `PrintJob` can have. -/
theorem unsafe_code_stored :
    (({} : AgentState).run (failedRun "PAPER JAM")).getLast?.map
      (fun st => st.state.db.jobs.rows.map (fun r => (r.state, r.errorCode,
        validateLifecycle r.state r.startedAt r.terminalAt r.errorCode r.messageKey
          r.confirmationEvidence))) =
      some [(.failed, some "PAPER JAM",
        .error "error_code must be a safe lower-case contract code.")] ∧
    ∃ st ∈ ({} : AgentState).run (failedRun "PAPER JAM"), ¬LifecycleRules st.state.db := by
  refine (and_iff_left_of_imp fun hlast => ?_).mpr (by decide +kernel)
  obtain ⟨st, hst, hrows⟩ := Option.map_eq_some_iff.mp hlast
  refine ⟨st, List.mem_of_getLast? hst, fun h => ?_⟩
  obtain ⟨r, hr, hrow⟩ := List.mem_map.mp (hrows ▸ List.mem_singleton_self _)
  have hlifecycle : validateLifecycle r.state r.startedAt r.terminalAt r.errorCode r.messageKey
    r.confirmationEvidence = .ok () := h.rows r hr
  simp [hlifecycle] at hrow

end Inari.Agent
