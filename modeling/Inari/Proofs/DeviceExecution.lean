import Inari.Proofs.ExecutionOperations
import Inari.Proofs.PrintJobRuns

/-!
# A Device is used by one execution at a time

A caller passes a claim that an earlier call returned; owners, clocks, uncertain commits and stops
are arbitrary.
-/

namespace Inari.Agent

open Lib SqliteExecutionLedger DurableSpoolAdmissionStore

structure Claimed where
  agent : AgentState := {}
  issued : List ExecutionClaim := []

def AgentOutput.issued : AgentOutput → List ExecutionClaim
  | .ledger (.ok (.claim (some c))) => [c]
  | .ledger (.ok (.renewed c)) => [c]
  | _ => []

def Claimed.step (s : Claimed) (e : AgentEvent) : Claimed × AgentOutput :=
  (⟨(s.agent.step e).1, s.issued ++ (s.agent.step e).2.issued⟩, (s.agent.step e).2)

def Claimed.Uses (s : Claimed) : AgentEvent → Prop
  | .ledger _ c _ => ∀ claim ∈ c.claim?, claim ∈ s.issued
  | _ => True

instance (s : Claimed) (e : AgentEvent) : Decidable (s.Uses e) :=
  match e with
  | .ledger _ c _ => inferInstanceAs (Decidable (∀ claim ∈ c.claim?, claim ∈ s.issued))
  | .releaseRow .. | .persistDerived .. | .accept .. | .reconcile | .advance .. | .stop =>
    .isTrue trivial

def activeAttempts (db : Db) (deviceId : String) : List AttemptRow :=
  db.attempts.select (fun a => a.phase.active &&
    db.jobs.rows.any (fun j => j.id == a.jobId && j.deviceId == deviceId))

def heldReservations (db : Db) (deviceId : String) : List ReservationRow :=
  db.reservations.select (fun r => r.deviceId == deviceId &&
    r.reservationKind == .executionTemp && r.state == .held)

structure LatestAttempt (db : Db) (jobId : String) (a : AttemptRow) : Prop where
  mem : a ∈ db.attempts.rows
  job : a.jobId = jobId
  greatest : ∀ b ∈ db.attempts.rows, b.jobId = jobId → b.attemptNumber ≤ a.attemptNumber

structure OneExecution (db : Db) : Prop where
  one : ∀ deviceId, (activeAttempts db deviceId).length ≤ 1
  reserved : ∀ deviceId,
    (heldReservations db deviceId).length = (activeAttempts db deviceId).length
  unique : ∀ jobId a b, LatestAttempt db jobId a → LatestAttempt db jobId b → a = b
  started : ∀ job ∈ db.jobs.rows, job.state = .inProgress ↔
    ∃ a, LatestAttempt db job.id a ∧
      (a.phase = .markerCommitted ∨ a.phase = .permissionDelivered)

section Tables

variable {db db' : Db}

lemma mem_holds {h : Hold} (hh : h ∈ db.holds) :
    ∃ r ∈ db.reservations.rows, r.reservationKind = .executionTemp ∧ r.state = .held ∧
      h = ⟨r.jobId, r.deviceId, r.ownerId, r.ownerGeneration⟩ := by
  obtain ⟨r, hr, hhold⟩ := List.mem_filterMap.mp hh
  unfold ReservationRow.hold at hhold
  split at hhold
  · rename_i hheld
    exact ⟨r, hr, hheld.1, hheld.2, (Option.some.inj hhold).symm⟩
  · cases hhold

lemma onDevice_unique {jobId d d' : String} (h : db.OnDevice jobId d) (h' : db.OnDevice jobId d') :
    d = d' := by
  obtain ⟨j, hj, hid, rfl⟩ := h
  obtain ⟨j', hj', hid', rfl⟩ := h'
  rw [job_eq_of_id db hj hj' (hid.trans hid'.symm)]

variable {deviceId : String} {a : AttemptRow} {r : ReservationRow} {F : PrintJobRow → Prop}

lemma mem_activeAttempts :
    a ∈ activeAttempts db deviceId ↔
      a ∈ db.attempts.rows ∧ a.phase.active = true ∧ db.OnDevice a.jobId deviceId := by
  simp [activeAttempts, Table.select, Db.OnDevice]

lemma mem_heldReservations :
    r ∈ heldReservations db deviceId ↔ r ∈ db.reservations.rows ∧ r.deviceId = deviceId ∧
      r.reservationKind = .executionTemp ∧ r.state = .held := by
  simp [heldReservations, Table.select, and_assoc]

lemma Coupled.reservation (hc : Coupled db) (ha : a ∈ activeAttempts db deviceId) :
    ∃ r ∈ heldReservations db deviceId, r.jobId = some a.jobId := by
  obtain ⟨hmem, hact, hon⟩ := mem_activeAttempts.mp ha
  obtain ⟨h, hh, hfor⟩ := hc.held a.execution (List.mem_map_of_mem hmem)
    ((AttemptPhase.active_iff _).mp hact)
  have hdevice := onDevice_unique (hc.device h hh a.jobId hfor.job) hon
  have hjob := hfor.job
  obtain ⟨r, hr, hkind, hstate, rfl⟩ := mem_holds hh
  exact ⟨r, mem_heldReservations.mpr ⟨hr, hdevice, hkind, hstate⟩, hjob⟩

lemma Coupled.attempt (hc : Coupled db) (hr : r ∈ heldReservations db deviceId) :
    ∃ a, a ∈ activeAttempts db deviceId := by
  obtain ⟨hmem, rfl, hkind, hstate⟩ := mem_heldReservations.mp hr
  have hh : (⟨r.jobId, r.deviceId, r.ownerId, r.ownerGeneration⟩ : Hold) ∈ db.holds :=
    List.mem_filterMap.mpr ⟨r, hmem, by simp [ReservationRow.hold, hkind, hstate]⟩
  obtain ⟨x, hx, hstage, hfor⟩ := hc.active _ hh
  obtain ⟨a, ha, rfl⟩ := List.mem_map.mp hx
  exact ⟨a, mem_activeAttempts.mpr ⟨ha, (AttemptPhase.active_iff _).mpr hstage,
    hc.device _ hh a.jobId hfor.job⟩⟩

/-- By the unique index. -/
lemma heldReservations_le_one (db : Db) (deviceId : String) :
    (heldReservations db deviceId).length ≤ 1 := by
  rw [heldReservations, Table.select, ← List.countP_eq_length_filter]
  refine db.reservations.countP_le_one (u := ReservationRow.uqExecutionDeviceActive)
    (by simp [ReservationRow.spec]) (k := deviceId) ?_
  intro r _ hr
  simp only [Bool.and_eq_true, beq_iff_eq] at hr
  simp [ReservationRow.uqExecutionDeviceActive, hr.1.1, hr.1.2, hr.2]

lemma held_unique {r' : ReservationRow} (hr : r ∈ heldReservations db deviceId)
    (hr' : r' ∈ heldReservations db deviceId) : r = r' := by
  obtain ⟨hmem, hdev, hkind, hstate⟩ := mem_heldReservations.mp hr
  obtain ⟨hmem', hdev', hkind', hstate'⟩ := mem_heldReservations.mp hr'
  exact db.reservations.eq_of_key (u := ReservationRow.uqExecutionDeviceActive)
    (by simp [ReservationRow.spec]) hmem hmem' (k := deviceId)
    (by simp [ReservationRow.uqExecutionDeviceActive, hdev, hkind, hstate])
    (by simp [ReservationRow.uqExecutionDeviceActive, hdev', hkind', hstate'])

/-- Two active attempts for a Device share its reservation, so they are of one job. -/
lemma Coupled.active_unique (hc : Coupled db) {b : AttemptRow} (ha : a ∈ activeAttempts db deviceId)
    (hb : b ∈ activeAttempts db deviceId) : a.attemptId = b.attemptId := by
  obtain ⟨r, hr, hrjob⟩ := hc.reservation ha
  obtain ⟨r', hr', hrjob'⟩ := hc.reservation hb
  rw [held_unique hr hr', hrjob'] at hrjob
  obtain ⟨hamem, haact, -⟩ := mem_activeAttempts.mp ha
  obtain ⟨hbmem, hbact, -⟩ := mem_activeAttempts.mp hb
  have heq := hc.eq_of_job (List.mem_map_of_mem hamem) (List.mem_map_of_mem hbmem)
    ((AttemptPhase.active_iff _).mp haact) ((AttemptPhase.active_iff _).mp hbact)
    (Option.some.inj hrjob).symm
  exact congrArg Execution.attemptId heq

lemma Coupled.activeAttempts_le_one (hc : Coupled db) (deviceId : String) :
    (activeAttempts db deviceId).length ≤ 1 := by
  have hids : (activeAttempts db deviceId).Pairwise (fun a b => a.attemptId ≠ b.attemptId) :=
    selected_ids _
  have huniq : ∀ a ∈ activeAttempts db deviceId, ∀ b ∈ activeAttempts db deviceId,
      a.attemptId = b.attemptId := fun a ha b hb => hc.active_unique ha hb
  match hl : activeAttempts db deviceId with
  | [] => exact Nat.zero_le _
  | [_] => exact le_rfl
  | a :: b :: rest =>
    rw [hl] at hids huniq
    have hne := (List.pairwise_cons.mp hids).1 b List.mem_cons_self
    exact (hne (huniq a List.mem_cons_self b (by simp))).elim

lemma Coupled.reserved_eq (hc : Coupled db) (deviceId : String) :
    (heldReservations db deviceId).length = (activeAttempts db deviceId).length := by
  have hle := heldReservations_le_one db deviceId
  have hle' := hc.activeAttempts_le_one deviceId
  have hiff : 0 < (heldReservations db deviceId).length ↔
      0 < (activeAttempts db deviceId).length := by
    rw [List.length_pos_iff_exists_mem, List.length_pos_iff_exists_mem]
    constructor
    · rintro ⟨r, hr⟩
      exact hc.attempt hr
    · rintro ⟨a, ha⟩
      obtain ⟨r, hr, -⟩ := hc.reservation ha
      exact ⟨r, hr⟩
  omega

lemma Coupled.latest_unique (hc : Coupled db) {jobId : String} {b : AttemptRow}
    (ha : LatestAttempt db jobId a) (hb : LatestAttempt db jobId b) : a = b := by
  by_contra hne
  have hexec : a.execution ≠ b.execution := fun h =>
    hne (attempt_eq_of_id db ha.mem hb.mem (congrArg Execution.attemptId h))
  have hab := ha.greatest b hb.mem hb.job
  have hba := hb.greatest a ha.mem ha.job
  rcases hc.compare (List.mem_map_of_mem ha.mem) (List.mem_map_of_mem hb.mem) hexec
    (ha.job.trans hb.job.symm) with ⟨-, hlt⟩ | ⟨-, hlt⟩
  · exact (Nat.not_lt.mpr hab hlt).elim
  · exact (Nat.not_lt.mpr hba hlt).elim

lemma stage_started (p : AttemptPhase) :
    p.stage = .started ↔ p = .markerCommitted ∨ p = .permissionDelivered := by
  cases p <;> simp [AttemptPhase.stage]

/-- An attempt that is not over is the last of its job. -/
lemma Coupled.latest (hc : Coupled db) (ha : a ∈ db.attempts.rows) (hstage : a.phase.stage ≠ .over) :
    LatestAttempt db a.jobId a := by
  refine ⟨ha, rfl, fun b hb hjob => ?_⟩
  by_cases heq : b.execution = a.execution
  · exact (congrArg Execution.attemptNumber heq).le
  · rcases hc.compare (List.mem_map_of_mem hb) (List.mem_map_of_mem ha) heq hjob with
      ⟨-, hlt⟩ | ⟨hover, -⟩
    · exact Nat.le_of_lt hlt
    · exact (hstage hover).elim

theorem Coupled.oneExecution (hc : Coupled db) : OneExecution db where
  one := hc.activeAttempts_le_one
  reserved := hc.reserved_eq
  unique := fun _ _ _ => hc.latest_unique
  started := by
    intro job hjob
    have hiff : job.state = .inProgress ↔ db.InProgress job.id := by
      refine ⟨fun h => ⟨job, hjob, rfl, h⟩, ?_⟩
      rintro ⟨j, hj, hid, hstate⟩
      rw [← job_eq_of_id db hj hjob hid]
      exact hstate
    rw [hiff, hc.progress]
    constructor
    · rintro ⟨x, hx, hxjob, hxstage⟩
      obtain ⟨a, ha, rfl⟩ := List.mem_map.mp hx
      have hlatest := hc.latest ha (by rw [show a.phase.stage = .started from hxstage]; exact nofun)
      rw [show a.jobId = job.id from hxjob] at hlatest
      exact ⟨a, hlatest, (stage_started _).mp hxstage⟩
    · rintro ⟨a, hlatest, hphase⟩
      exact ⟨a.execution, List.mem_map_of_mem hlatest.mem, hlatest.job,
        (stage_started _).mpr hphase⟩

lemma executionKept_of_same (hatt : db'.attempts = db.attempts) (hholds : db'.holds = db.holds)
    (hjobs : db'.jobs = db.jobs) : ExecutionKept db db' := by
  refine ⟨by simp only [Db.executions, hatt], hholds, ?_, ?_⟩
  · intro jobId deviceId h
    simpa only [Db.OnDevice, hjobs] using h
  · intro jobId
    simp only [Db.InProgress, hjobs]

lemma hold_eq_none (h : r.reservationKind = .admission) : r.hold = none := by
  simp [ReservationRow.hold, h]

lemma SpoolWrite.holds (h : SpoolWrite F db db') : db'.holds = db.holds := by
  cases h with
  | other _ hres | stage _ _ _ _ _ _ hres | abort _ _ _ _ _ hres => simp only [Db.holds, hres]
  | hold held _ hkind _ _ _ _ hres => simp [Db.holds, hres, hold_eq_none hkind]
  | release p now hopen hres =>
    refine holds_kept hres ?_
    intro r hr hp
    obtain ⟨x, hx, -⟩ := hopen r hr (Bool.and_eq_true_iff.mp hp).1
    rw [hold_releasedRow, hold_eq_none (admissionKind_of_admissionId hr hx)]
  | publish plan row now _ _ _ hplan _ hres =>
    refine holds_kept hres ?_
    intro r hr hp
    obtain ⟨r', hr', hid, hkind, -⟩ := hplan.reservation
    obtain rfl := reservation_eq_of_id db hr hr' ((beq_iff_eq.mp hp).trans hid.symm)
    rw [hold_eq_none hkind, hold_eq_none (r := committedRow _ _) hkind]
  | fail job now _ _ _ _ _ hres =>
    refine holds_kept hres ?_
    intro r _ hp
    simp only [Bool.and_eq_true, beq_iff_eq] at hp
    rw [hold_releasedRow]
    simp [ReservationRow.hold, hp.2]

/-- Admission and reconcile change no execution. -/
lemma SpoolWrite.execution (h : SpoolWrite F db db') : ExecutionKept db db' := by
  have hholds := h.holds
  cases h with
  | other _ _ hjobs _ hatt | stage _ _ _ _ _ _ _ hjobs _ hatt | abort _ _ _ _ _ _ hjobs _ hatt
  | hold _ _ _ _ _ _ _ _ _ hjobs _ hatt | release _ _ _ _ _ hjobs _ hatt =>
    exact executionKept_of_same hatt hholds hjobs
  | publish plan row now _ _ _ _ _ _ hjobs _ hatt =>
    refine ⟨by simp only [Db.executions, hatt], hholds, ?_, ?_⟩
    · rintro jobId deviceId ⟨j, hj, hjob⟩
      refine ⟨j, ?_, hjob⟩
      rw [hjobs]
      exact List.mem_append_left _ hj
    · intro jobId
      simp [Db.InProgress, hjobs, publishedRow]
  | fail job now _ _ _ hjobs _ _ _ hatt =>
    have haccepted : ∀ r, stillAccepted job r = true → r.state = .accepted := by
      intro r hr
      simp only [stillAccepted, Bool.and_eq_true, beq_iff_eq] at hr
      exact hr.1.2
    refine ⟨by simp only [Db.executions, hatt], hholds, ?_, fun jobId => ?_⟩
    · rintro jobId deviceId ⟨j, hj, rfl, rfl⟩
      exact Table.exists_updated hjobs hj (fun _ => ⟨rfl, rfl⟩) (fun _ => ⟨rfl, rfl⟩)
    · constructor
      · rintro ⟨r, hr, hid, hstate⟩
        rcases Table.updated_cases hjobs hr with ⟨hr, -⟩ | ⟨_, -, -, rfl⟩
        · exact ⟨r, hr, hid, hstate⟩
        · cases hstate
      · rintro ⟨r, hr, hid, hstate⟩
        refine ⟨r, Table.mem_left hjobs hr (Bool.eq_false_iff.mpr fun hlost => ?_), hid, hstate⟩
        simp [haccepted r hlost] at hstate

lemma SpoolWrites.execution (h : SpoolWrites F db db') : ExecutionKept db db' := by
  induction h with
  | refl => exact .refl db
  | tail _ hw ih => exact ih.trans hw.execution

lemma ledgerChain_write {env : LedgerEnv} {start : Db} {c : LedgerCall} {I : Db → Prop}
    {codes : String → String → Prop} (hI : ∀ db db', I db → ExecutionWrite db db' → I db')
    (hdb : I db) (hc : Coupled db) (hissued : ∀ claim ∈ c.claim?, Issued db claim)
    (h : Relation.ReflTransGen (LedgerStep codes env start c) db db') : I db' := by
  have hinv : I db' ∧ Coupled db' ∧ ∀ claim ∈ c.claim?, Issued db' claim := by
    induction h with
    | refl => exact ⟨hdb, hc, hissued⟩
    | tail _ hstep ih =>
      have hw := hstep.write ih.2.1 ih.2.2
      exact ⟨hI _ _ ih.1 hw, ih.2.1.write hw, fun claim hclaim => (ih.2.2 claim hclaim).write hw⟩
  exact hinv.1

theorem applyLedger_executions {env : LedgerEnv} {c : LedgerCall} {result : LedgerResult}
    {I : Db → Prop} (hI : ∀ db db', I db → ExecutionWrite db db' → I db') (hdb : I db)
    (hc : Coupled db) (hissued : ∀ claim ∈ c.claim?, Issued db claim)
    (h : applyLedger env db c = .ok (db', result)) :
    I db' ∧ ∀ claim ∈ (AgentOutput.ledger (.ok result)).issued, Issued db' claim := by
  have hchain := applyLedger_chain anyCodes_own (anyCodes_call c) h
  refine ⟨ledgerChain_write hI hdb hc hissued hchain, ?_⟩
  cases c with
  | claimNext =>
    obtain ⟨⟨db1, r⟩, hop, heq⟩ := map_ok.mp h
    cases heq
    obtain ⟨db2, -, ⟨-, rfl⟩ | ⟨job, hjob, -, -, c, rfl, hclaim⟩⟩ := claimNext_cases anyCodes hop
    · exact fun _ h => (List.not_mem_nil h).elim
    · obtain ⟨hadded, hclaimed⟩ := claim_added ⟨job, hjob, rfl, rfl⟩ hclaim
      intro claim hc
      obtain rfl := List.mem_singleton.mp hc
      refine ⟨_, ?_, hclaimed⟩
      rw [hadded.executions]
      exact List.mem_append_right _ (List.mem_singleton_self _)
  | renew claim =>
    obtain ⟨⟨db1, r⟩, hop, heq⟩ := map_ok.mp h
    cases heq
    obtain ⟨htouches, hid, hjob, howner⟩ := renew_touches hop
    intro claim' hclaim
    obtain rfl := List.mem_singleton.mp hclaim
    obtain ⟨x, hx, hclaimed⟩ := hissued claim rfl
    refine ⟨x, htouches.executions ▸ hx, ?_⟩
    rwa [Execution.ClaimedBy, hid, hjob, howner]
  | _ =>
    obtain ⟨_, -, heq⟩ := map_ok.mp h
    cases heq
    exact fun _ h => (List.not_mem_nil h).elim

end Tables

structure ClaimedInv (s : Claimed) : Prop where
  agent : AgentInv anyCodes s.agent
  coupled : Coupled s.agent.db
  issued : ∀ c ∈ s.issued, Issued s.agent.db c

def OnRecord (claims : List ExecutionClaim) (db : Db) : Prop :=
  Coupled db ∧ ∀ c ∈ claims, Issued db c

lemma onRecord_write (claims : List ExecutionClaim) (db db' : Db) (h : OnRecord claims db)
    (hw : ExecutionWrite db db') : OnRecord claims db' :=
  ⟨h.1.write hw, fun c hc => (h.2 c hc).write hw⟩

variable {e : AgentEvent}

lemma step_kept {s : AgentState} (hinv : AgentInv anyCodes s) (he : e.isLedger = false) :
    ExecutionKept s.db (s.step e).1.db := by
  have hsteps := s.step_cases e
  generalize s.step e = result at hsteps
  cases hsteps with
  | raised | ledger => cases he
  | releaseRow | persistDerived => exact executionKept_of_same rfl rfl rfl
  | moves hcall hsteps | ends hcall hsteps =>
    exact (hsteps.promises hinv.journal (hinv.call _ hcall)).1.execution
  | _ => exact .refl s.db

lemma issued_eq_nil {s : AgentState} (he : e.isLedger = false) : (s.step e).2.issued = [] := by
  have hsteps := s.step_cases e
  generalize s.step e = result at hsteps
  cases hsteps with
  | raised | ledger => cases he
  | _ => rfl

/-- The claims given out so far stay on record. -/
lemma step_onRecord {s : Claimed} (hs : ClaimedInv s) (he : s.Uses e) :
    OnRecord (s.issued ++ (s.agent.step e).2.issued) (s.agent.step e).1.db := by
  have hrec : OnRecord s.issued s.agent.db := ⟨hs.coupled, hs.issued⟩
  cases hl : e.isLedger with
  | false =>
    rw [issued_eq_nil hl, List.append_nil]
    exact onRecord_write _ _ _ hrec (.keep (step_kept hs.agent hl))
  | true =>
    have hsteps := s.agent.step_cases e
    generalize s.agent.step e = result at hsteps
    cases hsteps with
    | raised =>
      rw [show ∀ e, (AgentOutput.ledger (.error e)).issued = [] from fun _ => rfl, List.append_nil]
      exact hrec
    | ledger hok hr =>
      obtain ⟨⟨hcoupled, hkept⟩, hnew⟩ := applyLedger_executions (onRecord_write s.issued) hrec
        hs.coupled (fun claim hclaim => hs.issued claim (he claim hclaim)) hok
      refine ⟨hcoupled, fun claim hclaim => ?_⟩
      rcases List.mem_append.mp hclaim with hclaim | hclaim
      · exact hkept claim hclaim
      · obtain rfl | ⟨e, rfl⟩ := hr
        · exact hnew claim hclaim
        · exact (List.not_mem_nil hclaim).elim
    | waits hother => cases hl.symm.trans hother
    | _ => cases hl

lemma claimedInv_step (s : Claimed) (e : AgentEvent) (hs : ClaimedInv s) (he : s.Uses e) :
    ClaimedInv (s.step e).1 := by
  obtain ⟨hcoupled, hissued⟩ := step_onRecord hs he
  exact ⟨(step_any e hs.agent).1, hcoupled, hissued⟩

lemma coupled_empty : Coupled ({} : Db) := by
  have hexec : ({} : Db).executions = [] := rfl
  have hholds : ({} : Db).holds = [] := rfl
  constructor <;> simp [Db.InProgress, hexec, hholds]

lemma claimedInv_empty : ClaimedInv ({} : Claimed) :=
  ⟨agentInv_empty, coupled_empty, fun _ h => (List.not_mem_nil h).elim⟩

/-- A Device has at most one active attempt, and is reserved exactly while it has one. -/
theorem device_used_by_one_execution (es : List AgentEvent)
    (h : RunOk Claimed.Uses Claimed.step {} es) :
    OneExecution (final Claimed.step {} es).agent.db := by
  have hinv : ClaimedInv (final Claimed.step {} es) :=
    final_invariant claimedInv_step claimedInv_empty h
  exact hinv.coupled.oneExecution

def sampleIssued : ExecutionClaim := { sampleClaim with leaseExpiresAt := 1 + 60 * second }

def nextOwner : ExecutionOwner :=
  { sampleOwner with generation := 2, generation_pos := by decide }

def sampleRecovery : List AgentEvent :=
  sampleAdmission ++
  [.ledger sampleEnv (.claimNext sampleOwner none 1 ⟨"attempt", "lease", "execution", "temp"⟩) .done,
   .ledger sampleEnv (.markPrepared sampleIssued 1) .done,
   .ledger sampleEnv (.markIoStarted sampleIssued 1 "marker") .done,
   .stop,
   .ledger sampleEnv (.recover nextOwner 2) .done]

theorem recovered_device_is_free :
    OneExecution (final Claimed.step {} sampleRecovery).agent.db ∧
      (final Claimed.step {} (sampleRecovery.take 13)).agent.db.jobs.rows.map PrintJobRow.state =
        [.inProgress] ∧
      (final Claimed.step {} sampleRecovery).agent.db.jobs.rows.map PrintJobRow.state =
        [.outcomeUnknown] :=
  ⟨device_used_by_one_execution sampleRecovery (by decide +kernel), by decide +kernel,
    by decide +kernel⟩

end Inari.Agent
