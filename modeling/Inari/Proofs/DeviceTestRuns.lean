import Inari.Agent.DeviceTests

/-!
# Runs of the Device Test ledger

Each statement of an operation inserts an accepted test or makes one of five changes to the tests
it writes.
-/

namespace Inari.Agent

open Lib SqliteDeviceTestLedger DurableSpoolAdmissionStore Relation

/-- What one statement of a call stores for a test, with the clock reading of the call. -/
inductive StoredChange (now : Option Time) (r : TestRow) : TestRow → Prop
  | closed {state claim evidence job code terminal} (hopen : r.isOpen = true)
      (hstate : state ≠ .accepted ∧ state ≠ .inProgress ∧ state ≠ .completed) :
      StoredChange now r { r with
        state := state
        workerClaimId := claim
        stateVersion := r.stateVersion + 1
        outputEvidence := evidence
        platformJobId := job
        errorCode := code
        terminalAt := terminal }
  | claimed {claimId time} (hnow : time ∈ now) (hearly : time < r.ioDeadline)
      (hstate : r.state = .accepted) (hfree : r.workerClaimId = none) :
      StoredChange now r { r with workerClaimId := some claimId }
  | started {markerId claim time graph} (hstate : r.state = .accepted)
      (hclaim : r.workerClaimId = some claim) :
      StoredChange now r { r with
        state := .inProgress
        stateVersion := r.stateVersion + 1
        markerId := some markerId
        startedAt := some time
        graph := some graph }
  | stopFailed {code} (hopen : r.isOpen = true) :
      StoredChange now r { r with stateVersion := r.stateVersion + 1, errorCode := code }
  | completed {checks signedResult time} (hclosed : r.isOpen = false)
      (hstate : r.state ≠ .completed) :
      StoredChange now r (completedTest checks signedResult time r)

inductive TestStatement (db : Db) (now : Option Time) (tests tests' : Tests) : Prop
  | updated {p f} (hrows : tests'.rows = Table.updated tests.rows p f)
      (hchange : ∀ r ∈ tests.rows, p r = true → StoredChange now r (f r))
  | admitted {row : TestRow} (hrows : tests'.rows = tests.rows ++ [row])
      (hstate : row.state = .accepted) (hmarker : row.markerId = none)
      (hfree : busy db tests row.deviceId = false)

def SqliteDeviceTestLedger.TestRow.admission (r : TestRow) :
    String × TestScope × DeviceTestRequest × Bytes × Time × Time :=
  (r.recordId, r.scope, ⟨r.testId, r.deviceId, r.bindingRevisionId⟩, r.fingerprint, r.acceptedAt,
    r.ioDeadline)

lemma StoredChange.admission {now : Option Time} {r r' : TestRow} (h : StoredChange now r r') :
    r'.admission = r.admission := by
  cases h <;> rfl

section Operations

variable {env : TestEnv} {db : Db} {tests tests' : Tests} {now : Time} {r r' : TestRow}
  {reading : Option Time}

lemma isOpen_of_state (h : r.state = .accepted ∨ r.state = .inProgress) : r.isOpen = true := by
  rcases h with h | h <;> simp [TestRow.isOpen, h]

lemma expire_statement (h : expire tests now = .ok tests') :
    TestStatement db (some now) tests tests' := by
  refine .updated (Table.update_rows h) (fun r _ hp => .closed ?_ (by decide))
  simp only [Bool.and_eq_true, beq_iff_eq] at hp
  exact isOpen_of_state (.inl hp.1.1.1)

lemma claimable_spec {recordId : String} {scope : TestScope}
    (h : claimable recordId scope now r = true) :
    r.state = .accepted ∧ r.workerClaimId = none ∧ now < r.ioDeadline := by
  simp only [claimable, Bool.and_eq_true, beq_iff_eq, Option.isNone_iff_eq_none,
    decide_eq_true_eq] at h
  exact ⟨h.1.1.1.2, h.1.2, h.2⟩

lemma markIoStarted_cases {claim : TestWorkerClaim} {grant : ClientTrust.ClientGrantFields}
    {check : Except TestError DeviceTestAuthorization} {markerId : String}
    {marker : Option TestIoMarker}
    (h : SqliteDeviceTestLedger.markIoStarted env tests claim grant check markerId now =
      .ok (tests', marker)) :
    ∃ tests₁, expire tests now = .ok tests₁ ∧ (tests' = tests₁ ∧ marker = none ∨
      ∃ r ∈ tests₁.rows, ∃ graph, r.recordId = claim.recordId ∧ r.state = .accepted ∧
        r.workerClaimId = some claim.claimId ∧ marker = some ⟨claim.recordId, r.deviceId, markerId⟩ ∧
        tests'.rows = Table.updated tests₁.rows (fun t => t.recordId == claim.recordId)
          (fun t => { t with
            state := .inProgress
            stateVersion := t.stateVersion + 1
            markerId := some markerId
            startedAt := some now
            graph := some graph })) := by
  simp only [SqliteDeviceTestLedger.markIoStarted, bind_ok] at h
  obtain ⟨tests₁, hexpire, scope, -, r, hone, h⟩ := h
  refine ⟨tests₁, hexpire, ?_⟩
  split at h
  · simp only [pure_ok, Prod.mk.injEq] at h
    exact .inl ⟨h.1.symm, h.2.symm⟩
  · rename_i hready
    simp only [bind_ok, pure_ok, Prod.mk.injEq] at h
    obtain ⟨-, -, authority, -, tests₂, hupdate, rfl, rfl⟩ := h
    obtain ⟨hr, hid⟩ := Table.one_spec hone
    simp only [Bool.and_eq_true, beq_iff_eq] at hid
    simp only [not_or, not_not] at hready
    exact .inr ⟨r, hr, testGraph authority, hid.1, hready.1, hready.2.1, rfl,
      Table.update_rows hupdate⟩

lemma eq_of_recordId (hr : r ∈ tests.rows) (hr' : r' ∈ tests.rows)
    (h : r.recordId = r'.recordId) : r = r' :=
  tests.eq_of_key (u := testPrimaryKey) (by simp [testSpec]) hr hr' rfl (by simp [testPrimaryKey, h])

theorem applyTest_chain {c : TestCall} {result : TestResult}
    (h : applyTest env db tests c = .ok (tests', result)) :
    ReflTransGen (TestStatement db c.now) tests tests' := by
  cases c with
  | find =>
    obtain ⟨⟨_, _⟩, hop, heq⟩ := map_ok.mp h
    cases heq
    simp only [find, bind_ok, pure_ok, Prod.mk.injEq] at hop
    obtain ⟨_, hexpire, -, -, _, -, rfl, -⟩ := hop
    exact .single (expire_statement hexpire)
  | admitTest =>
    obtain ⟨⟨_, _⟩, hop, heq⟩ := map_ok.mp h
    cases heq
    simp only [admitTest, bind_ok] at hop
    obtain ⟨tests₁, hexpire, -, -, scope, -, hop⟩ := hop
    refine .head (expire_statement hexpire) ?_
    split at hop
    · simp only [bind_ok, pure_ok, Prod.mk.injEq] at hop
      obtain ⟨_, -, rfl, -⟩ := hop
      exact .refl
    · simp only [bind_ok, require_ok, pure_ok, Prod.mk.injEq, Bool.not_eq_true'] at hop
      obtain ⟨-, hfree, _, hinsert, rfl, -⟩ := hop
      exact .single (.admitted (Table.insert_rows hinsert) rfl rfl hfree)
  | claimWorker =>
    obtain ⟨⟨_, _⟩, hop, heq⟩ := map_ok.mp h
    cases heq
    simp only [claimWorker, bind_ok] at hop
    obtain ⟨tests₁, hexpire, scope, -, hop⟩ := hop
    refine .head (expire_statement hexpire) ?_
    split at hop
    · simp only [bind_ok, pure_ok, Prod.mk.injEq] at hop
      obtain ⟨_, hupdate, rfl, -⟩ := hop
      exact .single (.updated (Table.update_rows hupdate) fun r _ hp =>
        .closed (isOpen_of_state (.inl (claimable_spec hp).1)) (by decide))
    · cases hop
    · simp only [bind_ok, pure_ok, Prod.mk.injEq] at hop
      obtain ⟨_, hupdate, rfl, -⟩ := hop
      refine .single (.updated (Table.update_rows hupdate) fun r _ hp => ?_)
      obtain ⟨hstate, hfree, hearly⟩ := claimable_spec hp
      exact .claimed rfl hearly hstate hfree
  | markIoStarted =>
    obtain ⟨⟨_, _⟩, hop, heq⟩ := map_ok.mp h
    cases heq
    obtain ⟨tests₁, hexpire, ⟨rfl, -⟩ | ⟨r, hr, graph, hid, hstate, hclaim, -, hrows⟩⟩ :=
      markIoStarted_cases hop
    · exact .single (expire_statement hexpire)
    · refine .head (expire_statement hexpire) (.single (.updated hrows fun t ht hp => ?_))
      obtain rfl := eq_of_recordId ht hr ((beq_iff_eq.mp hp).trans hid.symm)
      exact .started hstate hclaim
  | markWorkerStopFailed =>
    obtain ⟨_, hop, heq⟩ := map_ok.mp h
    cases heq
    exact .single (.updated (Table.update_rows hop) fun r _ hp =>
      .stopFailed (Bool.and_eq_true_iff.mp hp).2)
  | finishIo =>
    obtain ⟨_, hop, heq⟩ := map_ok.mp h
    cases heq
    refine .single (.updated (Table.update_rows hop) fun r _ hp => .closed ?_ ?_)
    · simp only [Bool.and_eq_true, beq_iff_eq] at hp
      exact isOpen_of_state (.inr hp.1.2)
    · split <;> decide
  | failBeforeIo =>
    obtain ⟨_, hop, heq⟩ := map_ok.mp h
    cases heq
    refine .single (.updated (Table.update_rows hop) fun r _ hp => .closed ?_ (by decide))
    simp only [Bool.and_eq_true, beq_iff_eq] at hp
    exact isOpen_of_state (.inl hp.1.2)
  | finalize =>
    obtain ⟨⟨_, _⟩, hop, heq⟩ := map_ok.mp h
    cases heq
    simp only [SqliteDeviceTestLedger.finalize, bind_ok, orRaise_ok] at hop
    obtain ⟨tests₁, hexpire, -, -, scope, -, record, hrecord, hop⟩ := hop
    refine .head (expire_statement hexpire) ?_
    split at hop
    · simp only [bind_ok, pure_ok, Prod.mk.injEq] at hop
      obtain ⟨-, -, rfl, -⟩ := hop
      exact .refl
    · rename_i hstate
      simp only [bind_ok, require_ok, pure_ok, Prod.mk.injEq, Bool.not_eq_true'] at hop
      obtain ⟨-, hclosed, _, -, _, hupdate, _, -, rfl, -⟩ := hop
      refine .single (.updated (Table.update_rows hupdate) fun t ht hp => ?_)
      obtain rfl := eq_of_recordId ht (Table.first_spec hrecord).1 (beq_iff_eq.mp hp)
      exact .completed hclosed hstate
  | recoverAfterRestart =>
    obtain ⟨_, hop, heq⟩ := map_ok.mp h
    cases heq
    simp only [recoverAfterRestart, bind_ok] at hop
    obtain ⟨tests₁, hfirst, hsecond⟩ := hop
    refine .head (.updated (Table.update_rows hfirst) fun r _ hp => ?_)
      (.single (.updated (Table.update_rows hsecond) fun r _ hp => ?_))
    · exact .closed (isOpen_of_state (.inl (beq_iff_eq.mp hp))) (by decide)
    · exact .closed (isOpen_of_state (.inr (beq_iff_eq.mp hp))) (by decide)

end Operations

/-- One stored change: the version grows by one, unless it is the claim of the test's worker. -/
def VersionedChange (r r' : TestRow) : Prop :=
  (∃ now, StoredChange now r r') ∧ (r'.stateVersion = r.stateVersion + 1 ∨
    r.state = .accepted ∧ r.workerClaimId = none ∧
      ∃ claimId, r' = { r with workerClaimId := some claimId })

/-- The changes stored meanwhile raised the version, and a marker and a closed state stayed. -/
structure TestLater (r r' : TestRow) : Prop where
  changes : ReflTransGen VersionedChange r r'
  admission : r'.admission = r.admission
  unmarked : r'.state = .accepted → r'.markerId = none
  marker : ∀ m, r.markerId = some m → r'.markerId = some m
  closed : r.isOpen = false → r'.isOpen = false ∧ r'.markerId = r.markerId
  completed : r.state = .completed → r' = r

section Runs

variable {r r' r'' : TestRow} {db : Db} {tests tests' : Tests} {now : Option Time}

lemma TestLater.refl (h : r.state = .accepted → r.markerId = none) : TestLater r r :=
  ⟨.refl, rfl, h, fun _ hm => hm, fun hc => ⟨hc, rfl⟩, fun _ => rfl⟩

lemma TestLater.trans (h : TestLater r r') (h' : TestLater r' r'') : TestLater r r'' where
  changes := h.changes.trans h'.changes
  admission := h'.admission.trans h.admission
  unmarked := h'.unmarked
  marker m hm := h'.marker m (h.marker m hm)
  closed hc := by
    obtain ⟨hclosed, hmarker⟩ := h.closed hc
    obtain ⟨hclosed', hmarker'⟩ := h'.closed hclosed
    exact ⟨hclosed', hmarker'.trans hmarker⟩
  completed hc := by
    obtain rfl := h.completed hc
    exact h'.completed hc

lemma StoredChange.versioned (h : StoredChange now r r') : VersionedChange r r' := by
  refine ⟨⟨now, h⟩, ?_⟩
  cases h with
  | claimed _ _ hstate hfree => exact .inr ⟨hstate, hfree, _, rfl⟩
  | _ => exact .inl rfl

lemma StoredChange.later (h : StoredChange now r r')
    (hr : r.state = .accepted → r.markerId = none) : TestLater r r' := by
  have hchange := ReflTransGen.single h.versioned
  have habsurd : r.isOpen = true → ∀ {P : Prop}, r.isOpen = false → P := by
    intro ho P hc
    rw [ho] at hc
    cases hc
  have hnot : r.isOpen = true → r.state = .completed → r' = r := by
    intro ho hc
    simp [TestRow.isOpen, hc] at ho
  have hsame := h.admission
  cases h with
  | closed hopen hstate =>
    exact ⟨hchange, hsame, fun hs => (hstate.1 hs).elim, fun _ hm => hm, habsurd hopen, hnot hopen⟩
  | claimed _ _ hstate =>
    have hopen := isOpen_of_state (.inl hstate)
    exact ⟨hchange, hsame, hr, fun _ hm => hm, habsurd hopen, hnot hopen⟩
  | started hstate =>
    have hopen := isOpen_of_state (.inl hstate)
    refine ⟨hchange, hsame, fun hs => (by cases hs), fun m hm => ?_, habsurd hopen, hnot hopen⟩
    rw [hr hstate] at hm
    cases hm
  | stopFailed hopen => exact ⟨hchange, hsame, hr, fun _ hm => hm, habsurd hopen, hnot hopen⟩
  | completed _ hstate =>
    exact ⟨hchange, hsame, fun hs => (by cases hs), fun _ hm => hm, fun _ => ⟨rfl, rfl⟩,
      fun hc => (hstate hc).elim⟩

def Unmarked (tests : Tests) : Prop :=
  ∀ r ∈ tests.rows, r.state = .accepted → r.markerId = none

def TestsLater (tests tests' : Tests) : Prop :=
  Unmarked tests' ∧ ∀ r ∈ tests.rows, ∃ r' ∈ tests'.rows, TestLater r r'

lemma TestsLater.refl (h : Unmarked tests) : TestsLater tests tests :=
  ⟨h, fun r hr => ⟨r, hr, .refl (h r hr)⟩⟩

lemma TestsLater.trans {tests'' : Tests} (h : TestsLater tests tests')
    (h' : TestsLater tests' tests'') : TestsLater tests tests'' := by
  refine ⟨h'.1, fun r hr => ?_⟩
  obtain ⟨r', hr', hlater⟩ := h.2 r hr
  obtain ⟨r'', hr'', hlater'⟩ := h'.2 r' hr'
  exact ⟨r'', hr'', hlater.trans hlater'⟩

lemma TestStatement.later (h : TestStatement db now tests tests') (hu : Unmarked tests) :
    TestsLater tests tests' := by
  cases h with
  | @updated p f hrows hchange =>
    refine ⟨fun t ht => ?_, fun r hr => Table.exists_updated hrows hr (fun _ => .refl (hu r hr))
      fun hp => (hchange r hr hp).later (hu r hr)⟩
    rcases Table.updated_cases hrows ht with ⟨ht, -⟩ | ⟨r, hr, hp, rfl⟩
    · exact hu t ht
    · exact ((hchange r hr hp).later (hu r hr)).unmarked
  | admitted hrows hstate hmarker =>
    refine ⟨fun t ht => ?_, fun r hr => ⟨r, by simp [hrows, hr], .refl (hu r hr)⟩⟩
    rw [hrows, List.mem_append, List.mem_singleton] at ht
    rcases ht with ht | rfl
    · exact hu t ht
    · exact fun _ => hmarker

lemma applyTest_later {env : TestEnv} {c : TestCall} {result : TestResult}
    (h : applyTest env db tests c = .ok (tests', result)) (hu : Unmarked tests) :
    TestsLater tests tests' := by
  have hchain := applyTest_chain h
  clear h
  induction hchain with
  | refl => exact .refl hu
  | tail _ hstep ih => exact ih.trans (hstep.later ih.1)

lemma step_later {s : DeviceState} (e : DeviceEvent) (hu : Unmarked s.tests) :
    TestsLater s.tests (s.step e).1.tests := by
  cases e with
  | agent => exact .refl hu
  | test env c commit =>
    simp only [DeviceState.step, commitTests]
    cases hr : applyTest env s.agent.db s.tests c with
    | error => exact .refl hu
    | ok =>
      have hlater := applyTest_later hr hu
      cases commit with
      | done => exact hlater
      | uncertain applied =>
        cases applied with
        | false => exact .refl hu
        | true => exact hlater

lemma run_later {s : DeviceState} (es : List DeviceEvent) (hu : Unmarked s.tests) :
    TestsLater s.tests (final DeviceState.step s es).tests := by
  induction es generalizing s with
  | nil => exact .refl hu
  | cons e es ih => exact (step_later e hu).trans (ih (step_later e hu).1)

def Refused (s : DeviceState) (e : DeviceEvent) : Prop :=
  (s.step e).1 = s ∧ ∃ error, (s.step e).2.result = .inr (.error error)

def Replays (s : DeviceState) (env : TestEnv) (c : TestCall) (now : Time) (r : TestRow)
    (answer : DeviceTestRecord → TestResult) : Prop :=
  ∃ tests', expire s.tests now = .ok tests' ∧ ∃ r' ∈ tests'.rows, TestLater r r' ∧
    applyTest env s.agent.db s.tests c = .ok (tests', answer r'.toDeviceTestRecord)

/-- The same test is answered while its grant allows it, and a different one is refused. -/
def AdmitRepeats (s : DeviceState) (r : TestRow) : Prop :=
  ∀ env grant scope request fingerprint recordId now deadline, request.testId = r.testId →
    scopeValues grant = .ok scope → baseScope scope r = true →
    (scope = r.scope → fingerprint = r.fingerprint → checkGrant env grant now = .ok () →
      Replays s env (.admitTest request grant fingerprint recordId now deadline) now r
        (.admission · false)) ∧
    (scope ≠ r.scope ∨ fingerprint ≠ r.fingerprint → ∀ commit,
      Refused s (.test env (.admitTest request grant fingerprint recordId now deadline) commit))

def FinalizeRepeats (s : DeviceState) (r : TestRow) : Prop :=
  ∀ env grant checks sign now, scopeValues grant = .ok r.scope →
    (r.checks = some checks → checkGrant env grant now = .ok () →
      Replays s env (.finalize r.testId grant checks sign now) now r (.record <| some ·)) ∧
    (r.checks ≠ some checks → ∀ commit,
      Refused s (.test env (.finalize r.testId grant checks sign now) commit))

def MarksOnce (s : DeviceState) : Prop :=
  ∀ e m, (s.step e).2.result = .inr (.ok (.marker (some m))) →
    ∃ r ∈ s.tests.rows, r.recordId = m.executionId ∧ r.markerId = none ∧
      ∃ r' ∈ (s.step e).1.tests.rows, r'.recordId = m.executionId ∧ r'.markerId = some m.markerId

lemma expire_ok (tests : Tests) (now : Time) : ∃ tests', expire tests now = .ok tests' := by
  apply Table.update_ok
  · intro r hr hp
    have hcheck := tests.check_of_mem hr
    simp only [testSpec, workerClaimCheck, Bool.and_eq_true, Option.isNone_iff_eq_none] at hcheck hp ⊢
    obtain ⟨⟨⟨⟨hfingerprint, -⟩, hstarted⟩, -⟩, -⟩ := hcheck
    rw [hp.1.2]
    exact ⟨⟨⟨⟨hfingerprint, by simp⟩, hstarted⟩, by simp⟩, rfl⟩
  · intro u hu r _ _
    simp only [testSpec, List.mem_cons, List.not_mem_nil, or_false] at hu
    rcases hu with rfl | rfl <;> rfl

lemma expired_row (hu : Unmarked tests) (hr : r ∈ tests.rows) (now : Time) :
    ∃ tests', expire tests now = .ok tests' ∧ ∃ r' ∈ tests'.rows, TestLater r r' := by
  obtain ⟨tests', hexpire⟩ := expire_ok tests now
  have hstatement : TestStatement {} (some now) tests tests' := expire_statement hexpire
  exact ⟨tests', hexpire, (hstatement.later hu).2 r hr⟩

variable {scope : TestScope} {grant : ClientTrust.ClientGrantFields} {testId : String}

lemma baseScope_iff : baseScope scope r = true ↔
    (r.scope.database, r.scope.companyId, r.scope.organizationId, r.scope.siteId,
      r.scope.posConfigurationId) =
    (scope.database, scope.companyId, scope.organizationId, scope.siteId,
      scope.posConfigurationId) := by
  simp [baseScope, and_assoc]

lemma first_test {p : TestRow → Bool} (hr : r ∈ tests.rows) (hp : p r = true)
    (hbase : ∀ t, p t = true → t.testId = r.testId ∧ baseScope r.scope t = true) :
    tests.first p = some r := by
  refine Table.first_eq hr hp (fun t ht hpt => ?_)
  obtain ⟨htest, hscope⟩ := hbase t hpt
  have hkey := baseScope_iff.mp hscope
  simp only [Prod.mk.injEq] at hkey
  exact tests.eq_of_key (u := uqTestScope) (by simp [testSpec]) ht hr rfl
    (by simp [uqTestScope, htest, hkey])

lemma scopeValues_ok (h : scopeValues grant = .ok scope) :
    scope.pairedClientId = grant.pairingId ∧ scope.actorId = grant.actorId := by
  simp only [scopeValues, bind_ok, pure_ok] at h
  obtain ⟨_, -, rfl⟩ := h
  exact ⟨rfl, rfl⟩

variable {s : DeviceState} {env : TestEnv}

lemma refused_of_not_ok {c : TestCall}
    (h : ∀ result, applyTest env s.agent.db s.tests c ≠ .ok result) (commit : Commit) :
    Refused s (.test env c commit) := by
  simp only [Refused, DeviceState.step]
  cases hcall : applyTest env s.agent.db s.tests c with
  | error error => exact ⟨rfl, error, rfl⟩
  | ok result => exact (h result hcall).elim

lemma admit_repeated (hu : Unmarked s.tests) (hr : r ∈ s.tests.rows) : AdmitRepeats s r := by
  intro env grant scope request fingerprint recordId now deadline htest hscope hbase
  obtain ⟨tests', hexpire, r', hr', hlater⟩ := expired_row hu hr now
  have hsame := hlater.admission
  simp only [TestRow.admission, Prod.mk.injEq, DeviceTestRequest.mk.injEq] at hsame
  obtain ⟨-, hscope', ⟨htest', -, -⟩, hfingerprint, -, -⟩ := hsame
  obtain ⟨hclient, hactor⟩ := scopeValues_ok hscope
  have hkey := baseScope_iff.mp hbase
  have hfirst : tests'.first (fun t => t.testId == request.testId && baseScope scope t) = some r' := by
    refine first_test hr' (by simp [htest, htest', baseScope_iff, hscope', hkey]) (fun t ht => ?_)
    simp only [Bool.and_eq_true, beq_iff_eq, baseScope_iff] at ht
    exact ⟨ht.1.trans (htest.trans htest'.symm), baseScope_iff.mpr (by rw [ht.2, hscope', hkey])⟩
  have hcall : ∀ result, applyTest env s.agent.db s.tests
      (.admitTest request grant fingerprint recordId now deadline) = .ok result ↔
      checkGrant env grant now = .ok () ∧ r.scope.pairedClientId = scope.pairedClientId ∧
        r.scope.actorId = scope.actorId ∧ r.fingerprint = fingerprint ∧
        (tests', .admission r'.toDeviceTestRecord false) = result := by
    intro result
    simp only [applyTest, map_ok, admitTest, bind_ok, hexpire, hscope, Except.ok.injEq,
      exists_eq_left', hfirst, replayed, require_ok, pure_ok, Bool.and_eq_true, beq_iff_eq, hscope',
      hfingerprint, hclient, hactor]
    constructor
    · rintro ⟨_, ⟨_, hgrant, _, ⟨_, ⟨hc, ha⟩, _, hf, rfl⟩, rfl⟩, rfl⟩
      exact ⟨hgrant, hc, ha, hf, rfl⟩
    · rintro ⟨hgrant, hc, ha, hf, rfl⟩
      exact ⟨_, ⟨(), hgrant, _, ⟨(), ⟨hc, ha⟩, (), hf, rfl⟩, rfl⟩, rfl⟩
  constructor
  · rintro rfl rfl hgrant
    exact ⟨tests', hexpire, r', hr', hlater, (hcall _).mpr ⟨hgrant, rfl, rfl, rfl, rfl⟩⟩
  · refine fun hother => refused_of_not_ok fun result hok => ?_
    obtain ⟨-, hclient', hactor', hfingerprint', -⟩ := (hcall result).mp hok
    rcases hother with hother | hother
    · apply hother
      simp only [Prod.mk.injEq] at hkey
      cases scope
      cases hr : r.scope
      simp_all
    · exact hother hfingerprint'.symm

lemma finalize_repeated (hu : Unmarked s.tests) (hr : r ∈ s.tests.rows)
    (hstate : r.state = .completed) : FinalizeRepeats s r := by
  intro env grant checks sign now hscope
  obtain ⟨tests', hexpire, r', hr', hlater⟩ := expired_row hu hr now
  obtain rfl := hlater.completed hstate
  have hfirst : tests'.first (fun t => t.testId == r'.testId && ownedScope r'.scope t) = some r' := by
    refine first_test hr' (by simp [ownedScope]) (fun t ht => ?_)
    simp only [ownedScope, Bool.and_eq_true, beq_iff_eq] at ht
    exact ⟨ht.1, baseScope_iff.mpr (by rw [ht.2])⟩
  have hcall : ∀ result, applyTest env s.agent.db s.tests
      (.finalize r'.testId grant checks sign now) = .ok result ↔
      checkGrant env grant now = .ok () ∧ r'.checks = some checks ∧
        (tests', .record (some r'.toDeviceTestRecord)) = result := by
    intro result
    simp only [applyTest, map_ok, SqliteDeviceTestLedger.finalize, bind_ok, hexpire, hscope,
      Except.ok.injEq, exists_eq_left', orRaise_ok, hfirst, Option.some.injEq, hstate, if_true,
      require_ok, pure_ok, beq_iff_eq]
    constructor
    · rintro ⟨_, ⟨_, hgrant, _, hchecks, rfl⟩, rfl⟩
      exact ⟨hgrant, hchecks, rfl⟩
    · rintro ⟨hgrant, hchecks, rfl⟩
      exact ⟨_, ⟨(), hgrant, (), hchecks, rfl⟩, rfl⟩
  constructor
  · intro hchecks hgrant
    exact ⟨tests', hexpire, r', hr', hlater, (hcall _).mpr ⟨hgrant, hchecks, rfl⟩⟩
  · exact fun hother => refused_of_not_ok fun result hok => hother ((hcall result).mp hok).2.1

lemma accepted_of_expire {tests' : Tests} {now : Time} (h : expire tests now = .ok tests')
    (hr : r ∈ tests'.rows) (hstate : r.state = .accepted) : r ∈ tests.rows := by
  rcases Table.updated_cases (Table.update_rows h) hr with ⟨hr, -⟩ | ⟨t, -, -, rfl⟩
  · exact hr
  · cases hstate

lemma step_marker (hu : Unmarked s.tests) : MarksOnce s := by
  intro e m h
  cases e with
  | agent => cases h
  | test env c commit =>
    simp only [DeviceState.step, commitTests, Sum.inr.injEq] at h ⊢
    cases hcall : applyTest env s.agent.db s.tests c with
    | error =>
      rw [hcall] at h
      cases h
    | ok result =>
      obtain ⟨tests', result⟩ := result
      rw [hcall] at h
      cases commit with
      | uncertain => cases h
      | done =>
        cases h
        cases c with
        | markIoStarted =>
          obtain ⟨⟨_, _⟩, hop, heq⟩ := map_ok.mp hcall
          cases heq
          obtain ⟨tests₁, hexpire, ⟨-, hnone⟩ | ⟨r, hr, graph, hid, hstate, -, hmarker, hrows⟩⟩ :=
            markIoStarted_cases hop
          · cases hnone
          · cases hmarker
            have hbefore := accepted_of_expire hexpire hr hstate
            exact ⟨r, hbefore, hid, hu r hbefore hstate, _,
              Table.mem_written hrows hr (beq_iff_eq.mpr hid), hid, rfl⟩
        | _ =>
          obtain ⟨_, -, heq⟩ := map_ok.mp hcall
          cases heq

end Runs

lemma recoverAfterRestart_closes {tests tests' : Tests} {now : Time}
    (h : recoverAfterRestart tests now = .ok tests') : ∀ r ∈ tests'.rows, r.isOpen = false := by
  simp only [recoverAfterRestart, bind_ok] at h
  obtain ⟨tests₁, hfirst, hsecond⟩ := h
  intro r hr
  rw [Table.update_rows hsecond, Table.mem_updated] at hr
  obtain ⟨t, ht, rfl⟩ := hr
  rw [Table.update_rows hfirst, Table.mem_updated] at ht
  obtain ⟨t, -, rfl⟩ := ht
  cases hstate : t.state <;> simp [TestRow.isOpen, hstate]

/-- Versions, markers, recovery and repeated calls over every interleaving. -/
theorem device_test_ledger (es es' : List DeviceEvent) :
    (∀ r ∈ (final DeviceState.step {} es).tests.rows,
      ∃ r' ∈ (final DeviceState.step {} (es ++ es')).tests.rows, TestLater r r') ∧
    MarksOnce (final DeviceState.step {} es) ∧
    (∀ now tests', recoverAfterRestart (final DeviceState.step {} es).tests now = .ok tests' →
      ∀ r ∈ tests'.rows, r.isOpen = false) ∧
    ∀ r ∈ (final DeviceState.step {} es).tests.rows, AdmitRepeats (final DeviceState.step {} es) r ∧
      (r.state = .completed → FinalizeRepeats (final DeviceState.step {} es) r) := by
  have hu : Unmarked (final DeviceState.step {} es).tests :=
    (run_later es (fun _ hr => (List.not_mem_nil hr).elim)).1
  refine ⟨?_, step_marker hu, fun _ _ => recoverAfterRestart_closes,
    fun r hr => ⟨admit_repeated hu hr, finalize_repeated hu hr⟩⟩
  rw [final_append]
  exact (run_later es' hu).2

def testBusiness : ClientTrust.BusinessScope := ⟨"db", "1", "org", "site", some "pos", by decide⟩

def testGrant : ClientTrust.ClientGrantFields :=
  ⟨"grant", "pairing", "thumbprint",
    ⟨"agent", ⟨"https://agent"⟩, ⟨"https://agent"⟩, testBusiness, "audience", by decide⟩,
    "actor", "device_manager", {.deviceTest}, "digest", 0, 0, day, none, .active, none⟩

def testPairing : ClientTrust.ClientPairingFields :=
  ⟨"pairing", "request", "thumbprint", testGrant.scope, "actor", "device_manager", ∅, 0, none,
    .active, none⟩

def testEnv : TestEnv := ⟨[testGrant], [testPairing]⟩

def sampleTest (recordId : String) (now deadline : Time) : DeviceEvent :=
  .test testEnv (.admitTest ⟨"test", "printer", "binding"⟩ testGrant (List.replicate 32 0) recordId
    now deadline) .done

theorem claim_keeps_version :
    (final DeviceState.step {} [sampleTest "record" 1 5]).tests.rows.map
        (fun t => (t.state, t.workerClaimId, t.stateVersion)) = [(.accepted, none, 1)] ∧
      (final DeviceState.step {} [sampleTest "record" 1 5, .test testEnv (.claimWorker "record"
        testGrant "00000000000000000000000000000000" 2) .done]).tests.rows.map
        (fun t => (t.state, t.workerClaimId, t.stateVersion)) =
        [(.accepted, some "00000000000000000000000000000000", 1)] ∧
      (final DeviceState.step {} [sampleTest "record" 1 5, sampleTest "again" 6 10]).tests.rows.map
        (fun t => (t.state, t.workerClaimId, t.stateVersion)) = [(.failedEnvironment, none, 2)] := by
  refine ⟨?_, ?_, ?_⟩ <;> decide +kernel

end Inari.Agent
