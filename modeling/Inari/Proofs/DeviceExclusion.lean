import Inari.Proofs.DeviceExecution
import Inari.Proofs.DeviceTestRuns

/-!
# Printing and testing exclude each other

The execution ledger passes over a test whose deadline has gone by without a worker, and a worker
claims a test only before its deadline.
-/

namespace Inari.Agent

open Lib SqliteExecutionLedger SqliteDeviceTestLedger DurableSpoolAdmissionStore

def SqliteDeviceTestLedger.TestRow.InUse (t : TestRow) : Prop :=
  t.state = .inProgress ∨ t.workerClaimId.isSome = true

structure Exclusive (s : DeviceState) : Prop where
  apart : ∀ r ∈ s.agent.db.reservations.rows, r.reservationKind = .executionTemp →
    r.state = .held → ∀ t ∈ s.tests.rows, t.deviceId = r.deviceId → ¬t.InUse
  single : ∀ t ∈ s.tests.rows, ∀ t' ∈ s.tests.rows, t.InUse → t'.InUse →
    t.deviceId = t'.deviceId → t = t'

/-- A Device has at most one open test, which has no worker while the Device is reserved for
printing. -/
structure Shared (holds : List Hold) (tests : Tests) (clock : Option Time) : Prop where
  single : ∀ t ∈ tests.rows, ∀ t' ∈ tests.rows, t.isOpen = true → t'.isOpen = true →
    t.deviceId = t'.deviceId → t = t'
  apart : ∀ h ∈ holds, ∀ t ∈ tests.rows, t.deviceId = h.deviceId → t.isOpen = true →
    t.state = .accepted ∧ t.workerClaimId = none ∧ ∃ last ∈ clock, t.ioDeadline ≤ last

section Tables

variable {holds holds' : List Hold} {tests tests' : Tests} {clock : Option Time} {now : Time}

lemma isOpen_of_claim {t : TestRow} (ht : t ∈ tests.rows) (h : t.workerClaimId.isSome = true) :
    t.isOpen = true := by
  have hcheck := tests.check_of_mem ht
  simp only [testSpec, Bool.and_eq_true] at hcheck
  obtain ⟨claim, hclaim⟩ := Option.isSome_iff_exists.mp h
  have hclaimed := hcheck.2
  simp only [workerClaimCheck, hclaim, Bool.and_eq_true] at hclaimed
  exact hclaimed.2

lemma isOpen_of_inUse {t : TestRow} (ht : t ∈ tests.rows) (h : t.InUse) : t.isOpen = true := by
  rcases h with h | h
  · simp [TestRow.isOpen, h]
  · exact isOpen_of_claim ht h

lemma Shared.later (hs : Shared holds tests clock) (hclock : ∀ last ∈ clock, last ≤ now) :
    Shared holds tests (some now) := by
  refine ⟨hs.single, fun h hh t ht hdev hopen => ?_⟩
  obtain ⟨hstate, hclaim, last, hlast, hle⟩ := hs.apart h hh t ht hdev hopen
  exact ⟨hstate, hclaim, now, rfl, hle.trans (hclock last hlast)⟩

lemma Shared.change (hs : Shared holds tests clock) {reading : Option Time} {r r' : TestRow}
    (hclock : ∀ now ∈ reading, ∀ last ∈ clock, last ≤ now) (hr : r ∈ tests.rows)
    (h : StoredChange reading r r') (ho : r'.isOpen = true) :
    r.isOpen = true ∧ ((∀ h ∈ holds, r.deviceId ≠ h.deviceId) ∨ r'.state = r.state ∧
      r'.workerClaimId = r.workerClaimId ∧ r'.ioDeadline = r.ioDeadline) := by
  cases h with
  | closed hopen hstate => simp [TestRow.isOpen, hstate] at ho
  | claimed hnow hearly hstate =>
    -- a worker claims a test before its deadline
    have hopen := isOpen_of_state (.inl hstate)
    refine ⟨hopen, .inl fun x hx hd => ?_⟩
    obtain ⟨-, -, last, hlast, hle⟩ := hs.apart x hx r hr hd hopen
    exact absurd (hle.trans (hclock _ hnow last hlast)) (not_le.mpr hearly)
  | started hstate hclaim =>
    -- a test is started by the worker that claimed it
    have hopen := isOpen_of_state (.inl hstate)
    refine ⟨hopen, .inl fun x hx hd => ?_⟩
    obtain ⟨-, hnone, -⟩ := hs.apart x hx r hr hd hopen
    rw [hclaim] at hnone
    cases hnone
  | stopFailed hopen => exact ⟨hopen, .inr ⟨rfl, rfl, rfl⟩⟩
  | completed => cases ho

lemma Shared.updated (hs : Shared holds tests clock) {reading : Option Time}
    (hclock : ∀ now ∈ reading, ∀ last ∈ clock, last ≤ now) {p : TestRow → Bool}
    {f : TestRow → TestRow} (hrows : tests'.rows = Table.updated tests.rows p f)
    (hchange : ∀ r ∈ tests.rows, p r = true → StoredChange reading r (f r)) :
    Shared holds tests' clock := by
  have key : ∀ t ∈ tests'.rows, t.isOpen = true → ∃ r ∈ tests.rows, r.deviceId = t.deviceId ∧
      t = (if p r then f r else r) ∧ r.isOpen = true ∧ ((∀ h ∈ holds, r.deviceId ≠ h.deviceId) ∨
        t.state = r.state ∧ t.workerClaimId = r.workerClaimId ∧ t.ioDeadline = r.ioDeadline) := by
    intro t ht ho
    rw [hrows, Table.mem_updated] at ht
    obtain ⟨r, hr, rfl⟩ := ht
    by_cases hp : p r = true
    · rw [if_pos hp] at ho ⊢
      exact ⟨r, hr, congrArg (·.2.2.1.deviceId) (hchange r hr hp).admission.symm, (if_pos hp).symm,
        hs.change hclock hr (hchange r hr hp) ho⟩
    · rw [if_neg hp] at ho ⊢
      exact ⟨r, hr, rfl, (if_neg hp).symm, ho, .inr ⟨rfl, rfl, rfl⟩⟩
  constructor
  · intro t ht t' ht' ho ho' hsame
    obtain ⟨a, ha, had, rfl, hao, -⟩ := key t ht ho
    obtain ⟨b, hb, hbd, rfl, hbo, -⟩ := key t' ht' ho'
    rw [hs.single a ha b hb hao hbo (had.trans (hsame.trans hbd.symm))]
  · intro h hh t ht hsame ho
    obtain ⟨a, ha, had, -, hao, hfree | ⟨hstate, hclaim, hdeadline⟩⟩ := key t ht ho
    · exact (hfree h hh (had.trans hsame)).elim
    · rw [hstate, hclaim, hdeadline]
      exact hs.apart h hh a ha (had.trans hsame) hao

lemma Shared.admitted {db : Db} {row : TestRow} (hs : Shared db.holds tests clock)
    (hrows : tests'.rows = tests.rows ++ [row]) (hfree : busy db tests row.deviceId = false) :
    Shared db.holds tests' clock := by
  simp only [busy, Bool.or_eq_false_iff, Option.isSome_eq_false_iff,
    Option.isNone_iff_eq_none] at hfree
  obtain ⟨hheld, hnone⟩ := hfree
  have hother : ∀ t ∈ tests.rows, t.isOpen = true → t.deviceId ≠ row.deviceId := by
    intro t ht ho hd
    have hno := Table.first_none hnone ht
    simp [hd, ho] at hno
  constructor
  · intro t ht t' ht' ho ho' hsame
    rw [hrows, List.mem_append, List.mem_singleton] at ht ht'
    rcases ht with ht | rfl <;> rcases ht' with ht' | rfl
    · exact hs.single t ht t' ht' ho ho' hsame
    · exact (hother t ht ho hsame).elim
    · exact (hother t' ht' ho' hsame.symm).elim
    · rfl
  · intro x hx t ht hd ho
    rw [hrows, List.mem_append, List.mem_singleton] at ht
    rcases ht with ht | rfl
    · exact hs.apart x hx t ht hd ho
    · obtain ⟨r, hr, hkind, hstate, rfl⟩ := mem_holds hx
      have hno := Table.first_none hheld hr
      have hd' : r.deviceId = t.deviceId := hd.symm
      simp [hd', hkind, hstate] at hno

theorem applyTest_shared {env : TestEnv} {db : Db} {c : TestCall} {r : TestResult}
    (hs : Shared db.holds tests clock) (hclock : ∀ now ∈ c.now, ∀ last ∈ clock, last ≤ now)
    (h : applyTest env db tests c = .ok (tests', r)) : Shared db.holds tests' clock := by
  have hchain := applyTest_chain h
  clear h
  induction hchain with
  | refl => exact hs
  | tail _ hstep ih =>
    cases hstep with
    | updated hrows hchange => exact ih.updated hclock hrows hchange
    | admitted hrows _ _ hfree => exact ih.admitted hrows hfree

variable {db db' : Db}

def TestFree (tests : List DeviceTestRow) (deviceId : String) (now : Time) : Prop :=
  ∀ t ∈ tests, t.deviceId = deviceId → t.state ≠ .inProgress ∧
    (t.state = .accepted → t.ioDeadline ≤ now ∧ t.workerClaimId = none)

lemma testFree_of_not_busy {env : LedgerEnv} {deviceId : String}
    (h : ¬deviceIsBusy env db deviceId now = true) : TestFree env.deviceTests deviceId now := by
  intro t ht hd
  rw [Bool.not_eq_true, deviceIsBusy, Bool.or_eq_false_iff, List.any_eq_false] at h
  have hno := h.1 t ht
  simp only [hd, BEq.rfl, Bool.true_and, Bool.or_eq_true, Bool.and_eq_true, beq_iff_eq,
    decide_eq_true_eq, not_or, not_and] at hno
  refine ⟨hno.1, fun hstate => ?_⟩
  obtain ⟨⟨hdeadline, hclaim⟩, -⟩ := hno.2 hstate
  exact ⟨not_lt.mp hdeadline, by simpa using hclaim⟩

lemma LedgerStep.held {env : LedgerEnv} {start : Db} {c : LedgerCall}
    {codes : String → String → Prop} (h : LedgerStep codes env start c db db') :
    ∀ x ∈ db'.holds, x ∈ db.holds ∨ TestFree env.deviceTests x.deviceId c.now := by
  intro x hx
  cases h with
  | touches h => exact .inl (h.holds ▸ hx)
  | expires h =>
    obtain ⟨job, -, hstate, -, -, h⟩ := h
    exact .inl ((h.kept hstate nofun).holds ▸ hx)
  | claims hjob _ hfree h =>
    rw [(claim_added ⟨_, hjob, rfl, rfl⟩ h).1.holds] at hx
    rcases List.mem_append.mp hx with hx | hx
    · exact .inl hx
    · obtain rfl := List.mem_singleton.mp hx
      exact .inr (testFree_of_not_busy hfree)
  | starts h =>
    rw [Db.holds, h.reservations] at hx
    exact .inl hx
  | ends _ _ h | recovers _ _ _ h =>
    rw [h.holds] at hx
    exact .inl (List.mem_of_mem_filter hx)

theorem applyLedger_holds {env : LedgerEnv} {c : LedgerCall} {result : LedgerResult}
    (h : applyLedger env db c = .ok (db', result)) :
    ∀ x ∈ db'.holds, x ∈ db.holds ∨ TestFree env.deviceTests x.deviceId c.now := by
  have hchain := applyLedger_chain anyCodes_own (anyCodes_call c) h
  clear h
  induction hchain with
  | refl => exact fun x hx => .inl hx
  | tail _ hstep ih => exact fun x hx => (hstep.held x hx).elim (ih x) .inr

lemma Shared.claimed (hs : Shared holds tests clock) (hclock : ∀ last ∈ clock, last ≤ now)
    (hnew : ∀ x ∈ holds', x ∈ holds ∨ TestFree (tests.rows.map TestRow.seen) x.deviceId now) :
    Shared holds' tests (some now) := by
  refine ⟨hs.single, fun x hx t ht hd ho => ?_⟩
  rcases hnew x hx with hold | hfree
  · exact (hs.later hclock).apart x hold t ht hd ho
  · obtain ⟨hprogress, haccepted⟩ := hfree t.seen (List.mem_map_of_mem ht) hd
    have hstate : t.state = .accepted := by
      simp only [TestRow.isOpen, Bool.or_eq_true, beq_iff_eq] at ho
      exact ho.resolve_right hprogress
    obtain ⟨hdeadline, hclaim⟩ := haccepted hstate
    exact ⟨hstate, hclaim, now, rfl, hdeadline⟩

end Tables

structure DeviceInv (s : DeviceState) : Prop where
  agent : AgentInv anyCodes s.agent
  shared : Shared s.agent.db.holds s.tests s.clock

lemma ledger_shared {db : Db} {tests : Tests} {clock : Option Time}
    (hs : Shared db.holds tests clock) {env : LedgerEnv} {c : LedgerCall} {commit : Commit}
    (htests : env.deviceTests = tests.rows.map TestRow.seen)
    (hclock : ∀ t ∈ commitReading commit (applyLedger env db c) (some c.now),
      ∀ last ∈ clock, last ≤ t) :
    Shared (commitLedger commit db (applyLedger env db c)).1.holds tests
      ((commitReading commit (applyLedger env db c) (some c.now)).or clock) := by
  cases hr : applyLedger env db c with
  | error => exact hs
  | ok r =>
    obtain ⟨db', result⟩ := r
    rw [hr] at hclock
    have hclaimed (hlast : ∀ last ∈ clock, last ≤ c.now) : Shared db'.holds tests (some c.now) :=
      hs.claimed hlast (htests ▸ applyLedger_holds hr)
    cases commit with
    | done => exact hclaimed (hclock c.now rfl)
    | uncertain applied =>
      cases applied with
      | false => exact hs
      | true => exact hclaimed (hclock c.now rfl)

lemma test_shared {db : Db} {tests : Tests} {clock : Option Time}
    (hs : Shared db.holds tests clock) {env : TestEnv} {c : TestCall} {commit : Commit}
    (hclock : ∀ t ∈ commitReading commit (applyTest env db tests c) c.now,
      ∀ last ∈ clock, last ≤ t) :
    Shared db.holds (commitTests commit tests (applyTest env db tests c)).1
      ((commitReading commit (applyTest env db tests c) c.now).or clock) := by
  cases hr : applyTest env db tests c with
  | error => exact hs
  | ok r =>
    obtain ⟨tests', result⟩ := r
    rw [hr] at hclock
    have hcommitted (hlast : ∀ t ∈ c.now, ∀ last ∈ clock, last ≤ t) :
        Shared db.holds tests' (c.now.or clock) := by
      have hs' := applyTest_shared hs hlast hr
      cases hnow : c.now with
      | none => exact hs'
      | some now => exact hs'.later (hlast now hnow)
    cases commit with
    | done => exact hcommitted hclock
    | uncertain applied =>
      cases applied with
      | false => exact hs
      | true => exact hcommitted hclock

lemma seeing_eq {e : AgentEvent} (he : e.isLedger = false) (tests : Tests) (db : Db) :
    e.seeing tests = e ∧ e.committedAt db = none := by
  cases e with
  | ledger => cases he
  | _ => exact ⟨rfl, rfl⟩

lemma deviceInv_step (s : DeviceState) (e : DeviceEvent) (hs : DeviceInv s) (he : s.Orderly e) :
    DeviceInv (s.step e).1 := by
  cases e with
  | test => exact ⟨hs.agent, test_shared hs.shared he⟩
  | agent e =>
    refine ⟨(step_any (e.seeing s.tests) hs.agent).1, ?_⟩
    cases hl : e.isLedger with
    | true =>
      obtain ⟨env, c, commit, rfl⟩ : ∃ env c commit, e = .ledger env c commit := by
        cases e <;> first | exact ⟨_, _, _, rfl⟩ | cases hl
      exact ledger_shared hs.shared rfl he
    | false =>
      obtain ⟨hseen, hnone⟩ := seeing_eq hl s.tests s.agent.db
      simp only [DeviceState.step, hseen, hnone, (step_kept hs.agent hl).holds, Option.none_or]
      exact hs.shared

lemma deviceInv_empty : DeviceInv ({} : DeviceState) :=
  ⟨agentInv_empty, fun _ h => (List.not_mem_nil h).elim, fun _ h => (List.not_mem_nil h).elim⟩

lemma Shared.exclusive {s : DeviceState} (hs : Shared s.agent.db.holds s.tests s.clock) :
    Exclusive s := by
  constructor
  · intro r hr hkind hstate t ht hd huse
    have hheld : (⟨r.jobId, r.deviceId, r.ownerId, r.ownerGeneration⟩ : Hold) ∈ s.agent.db.holds :=
      List.mem_filterMap.mpr ⟨r, hr, by simp [ReservationRow.hold, hkind, hstate]⟩
    obtain ⟨haccepted, hclaim, -⟩ := hs.apart _ hheld t ht hd (isOpen_of_inUse ht huse)
    rcases huse with huse | huse
    · rw [haccepted] at huse
      cases huse
    · rw [hclaim] at huse
      cases huse
  · intro t ht t' ht' huse huse' hd
    exact hs.single t ht t' ht' (isOpen_of_inUse ht huse) (isOpen_of_inUse ht' huse') hd

/-- If clocks do not go back, a Device is never used by a job and a test, nor by two tests. -/
theorem printing_and_testing_exclude (es : List DeviceEvent)
    (h : RunOk DeviceState.Orderly DeviceState.step {} es) :
    Exclusive (final DeviceState.step {} es) := by
  have hinv : DeviceInv (final DeviceState.step {} es) :=
    final_invariant deviceInv_step deviceInv_empty h
  exact hinv.shared.exclusive

/-- Printing waits for a test until its deadline, and its worker comes later. -/
def lateTest : List DeviceEvent :=
  sampleAdmission.map .agent ++
  [.test testEnv (.admitTest ⟨"test", "printer", "binding"⟩ testGrant sampleDigest "record" 1 5) .done,
   .agent (.ledger sampleEnv (.claimNext sampleOwner none 2 ⟨"a1", "l1", "e1", "r1"⟩) .done),
   .agent (.ledger sampleEnv (.claimNext sampleOwner none 6 ⟨"a2", "l2", "e2", "r2"⟩) .done),
   .test testEnv (.claimWorker "record" testGrant "00000000000000000000000000000000" 7) .done]

theorem late_test_gets_no_worker :
    Exclusive (final DeviceState.step {} lateTest) ∧
      (final DeviceState.step {} (lateTest.take 12)).agent.db.holds.length = 0 ∧
      (final DeviceState.step {} lateTest).agent.db.holds.length = 1 ∧
      (final DeviceState.step {} lateTest).tests.rows.map (fun t => (t.state, t.workerClaimId)) =
        [(.failedEnvironment, none)] :=
  ⟨printing_and_testing_exclude lateTest (by decide +kernel), by decide +kernel, by decide +kernel,
    by decide +kernel⟩

end Inari.Agent
