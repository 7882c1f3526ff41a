import Inari.Proofs.DeviceExecution
import Inari.Proofs.ExecutionHandlers

/-!
# Devices that a finished execution leaves reserved

When `run_one` ends, its attempt is over exactly when no call answered one of the results that
`strands` lists.
-/

namespace Inari.Agent

open Lib SqliteExecutionLedger DurableSpoolAdmissionStore

namespace PhysicalExecution

inductive Effect (a : Access executionInterface) (db db' : Db) : Prop
  | kept (hclaimed : claimed a = none) (hends : ends a = false) (h : ExecutionKept db db')
  | claim (c : ExecutionClaim) (x : Execution) (deviceId : String) (db1 : Db)
      (hclaimed : claimed a = some c) (hends : ends a = false) (hx : x.ClaimedBy c)
      (hkept : ExecutionKept db db1) (hadded : ExecutionAdded x deviceId db1 db')
      (hjob : ∃ r ∈ db1.jobs.rows, r.id = x.jobId ∧ r.state = .accepted)
  | start (c : ExecutionClaim) (x : Execution) (hop : a.1.claim? = some c)
      (hclaimed : claimed a = none) (hends : ends a = false) (hid : x.attemptId = c.attemptId)
      (h : ExecutionStarted x db db')
  | finish (c : ExecutionClaim) (hop : a.1.claim? = some c) (hclaimed : claimed a = none)
      (hends : ends a = true) (h : EndsClaim c db db')

section Accesses

variable {s : AgentState} {input : ExecutionInput} {α : Type}

lemma transactLedger_cases (input : ExecutionInput) (s : AgentState)
    (r : Except LedgerError (Db × α)) :
    (∃ e, transactLedger input s r = (s, ⟨.error e, none⟩)) ∨
    ∃ db a result, r = .ok (db, a) ∧ transactLedger input s r = ({ s with db := db }, ⟨result, some a⟩) ∧
      (result = .ok a ∨ ∃ e, result = .error e) := by
  unfold transactLedger
  split
  · exact .inl ⟨_, rfl⟩
  · exact .inl ⟨_, rfl⟩
  · split
    · exact .inr ⟨_, _, _, rfl, rfl, .inl rfl⟩
    · exact .inr ⟨_, _, _, rfl, rfl, .inr ⟨_, rfl⟩⟩
    · exact .inl ⟨_, rfl⟩

lemma effect_of_ending {c : ExecutionClaim} {op : ExecutionOp}
    {r : Except LedgerError (Db × ExecutionReceipt)} {answer : executionInterface.Answer op}
    {s' : AgentState} {reply : Answered ExecutionReceipt}
    (hexec : transactLedger input s r = (s', reply)) (hop : op.claim? = some c)
    (hclaimed : claimed ⟨op, answer⟩ = none) (hends : ends ⟨op, answer⟩ = reply.applied)
    (h : ∀ db receipt, r = .ok (db, receipt) → EndsClaim c s.db db) :
    Effect ⟨op, answer⟩ s.db s'.db := by
  obtain ⟨e, he⟩ | ⟨db, receipt, result, hr, he, -⟩ := transactLedger_cases input s r
  · obtain ⟨rfl, rfl⟩ := Prod.mk.inj (he.symm.trans hexec)
    exact .kept hclaimed (hends.trans rfl) (.refl _)
  · obtain ⟨rfl, rfl⟩ := Prod.mk.inj (he.symm.trans hexec)
    exact .finish c hop hclaimed (hends.trans (by simp [Answered.applied])) (h _ _ hr)

lemma effect_of_keeping {op : ExecutionOp} {r : Except LedgerError (Db × α)}
    {answer : executionInterface.Answer op} {s' : AgentState} {reply : Answered α}
    (hexec : transactLedger input s r = (s', reply)) (hclaimed : claimed ⟨op, answer⟩ = none)
    (hends : ends ⟨op, answer⟩ = false) (h : ∀ db a, r = .ok (db, a) → ExecutionKept s.db db) :
    Effect ⟨op, answer⟩ s.db s'.db := by
  refine .kept hclaimed hends ?_
  obtain ⟨e, he⟩ | ⟨db, a, result, hr, he, -⟩ := transactLedger_cases input s r
  · obtain ⟨rfl, rfl⟩ := Prod.mk.inj (he.symm.trans hexec)
    exact .refl _
  · obtain ⟨rfl, rfl⟩ := Prod.mk.inj (he.symm.trans hexec)
    exact h _ _ hr

theorem exec_effect (hinv : AgentInv anyCodes s) (op : ExecutionOp)
    (hissued : ∀ c ∈ op.claim?, Issued s.db c) :
    Effect ⟨op, (exec op s input).2⟩ s.db (exec op s input).1.db := by
  cases op with
  | claimNext owner deviceId =>
    obtain ⟨e, he⟩ | ⟨db, a, result, hr, he, hresult⟩ := transactLedger_cases input s
      (SqliteExecutionLedger.claimNext input.env s.db owner deviceId input.now input.ids)
    · simp only [exec, he]
      exact .kept rfl rfl (.refl _)
    · simp only [exec, he]
      have hclaimed : claimed ⟨.claimNext owner deviceId, ⟨result, some a⟩⟩ = a := by
        rcases hresult with rfl | ⟨e, rfl⟩ <;> rfl
      obtain ⟨db1, hexpire, ⟨rfl, rfl⟩ | ⟨job, hjob, hstate, -, c, rfl, hclaim⟩⟩ :=
        claimNext_cases anyCodes hr
      · exact .kept hclaimed rfl (expiries_kept hexpire)
      · obtain ⟨hadded, hx⟩ := claim_added ⟨job, hjob, rfl, rfl⟩ hclaim
        exact .claim c _ _ db1 hclaimed rfl hx (expiries_kept hexpire) hadded ⟨job, hjob, rfl, hstate⟩
  | markIoStarted c =>
    obtain ⟨e, he⟩ | ⟨db, permit, result, hr, he, -⟩ := transactLedger_cases input s
      (SqliteExecutionLedger.markIoStarted input.env s.db c input.now input.markerId)
    · simp only [exec, he]
      exact .kept rfl rfl (.refl _)
    · simp only [exec, he]
      have hstarts : IoStarts anyCodes c s.db db := (markIoStarted_starts hr).1
      obtain ⟨x, hid, hstarted⟩ := hstarts.starts (hissued c rfl)
      exact .start c x rfl rfl rfl hid hstarted
  | failBeforeIo c =>
    refine effect_of_ending rfl rfl rfl rfl fun db receipt h => ?_
    have hends : ClaimEnds anyCodes c .accepted s.db db := failBeforeIo_ends trivial h
    exact hends.ends (hissued c rfl)
  | finish c =>
    refine effect_of_ending rfl rfl rfl rfl fun db receipt h => ?_
    have hends : ClaimEnds anyCodes c .inProgress s.db db :=
      finish_ends (fun _ _ _ _ _ _ => trivial) h
    exact hends.ends (hissued c rfl)
  | abandonAfterMarker c =>
    refine effect_of_ending rfl rfl rfl rfl fun db receipt h => ?_
    have hends : ClaimEnds anyCodes c .inProgress s.db db := abandonAfterMarker_ends trivial h
    exact hends.ends (hissued c rfl)
  | markPrepared =>
    refine effect_of_keeping rfl rfl rfl fun db a h => ?_
    obtain ⟨db1, hop, heq⟩ := map_ok.mp h
    cases heq
    exact (markPrepared_touches hop).execution
  | notePermissionDelivered =>
    refine effect_of_keeping rfl rfl rfl fun db a h => ?_
    obtain ⟨db1, hop, heq⟩ := map_ok.mp h
    cases heq
    exact (notePermissionDelivered_touches hop).execution
  | renew => exact effect_of_keeping rfl rfl rfl fun db a h => (renew_touches h).1.execution
  | spoolPrepare c | workerPrepare c | waitReady | execute permit | close place
  | spoolRelease => exact .kept rfl rfl (.refl _)
  | agent =>
    refine .kept rfl rfl ?_
    simp only [exec]
    split
    · exact .refl _
    · rename_i he
      exact step_kept hinv (Bool.not_eq_true _ ▸ he)

lemma transactLedger_step {call : LedgerCall} {f : α → LedgerResult}
    {r : Except LedgerError (Db × α)}
    (h : applyLedger input.env s.db call = r.map (fun x => (x.1, f x.2))) :
    (transactLedger input s r).1 = s ∨
      (transactLedger input s r).1 = (s.step (.ledger input.env call .done)).1 := by
  obtain ⟨e, he⟩ | ⟨db, a, result, rfl, he, -⟩ := transactLedger_cases input s r
  · exact .inl (by rw [he])
  · refine .inr ?_
    rw [he]
    simp only [AgentState.step, h]
    rfl

lemma exec_step (s : AgentState) (input : ExecutionInput) (op : ExecutionOp) :
    (exec op s input).1 = s ∨ ∃ e, (exec op s input).1 = (s.step e).1 := by
  have ofLedger {α : Type} (call : LedgerCall) {r : Except LedgerError (Db × α)}
      (f : α → LedgerResult)
      (h : applyLedger input.env s.db call = r.map (fun x => (x.1, f x.2))) :
      (transactLedger input s r).1 = s ∨ ∃ e, (transactLedger input s r).1 = (s.step e).1 :=
    (transactLedger_step h).imp id fun h => ⟨_, h⟩
  cases op with
  | claimNext owner deviceId =>
    exact ofLedger (.claimNext owner deviceId input.now input.ids) .claim rfl
  | markPrepared c =>
    refine ofLedger (.markPrepared c input.now) (fun _ => .none) ?_
    simp only [applyLedger]
    cases SqliteExecutionLedger.markPrepared s.db c input.now <;> rfl
  | failBeforeIo c errorCode messageKey =>
    exact ofLedger (.failBeforeIo c errorCode messageKey input.now) .receipt rfl
  | markIoStarted c =>
    exact ofLedger (.markIoStarted c input.now input.markerId) .permit rfl
  | notePermissionDelivered c permit =>
    refine ofLedger (.notePermissionDelivered c permit input.now) (fun _ => .none) ?_
    simp only [applyLedger]
    cases SqliteExecutionLedger.notePermissionDelivered s.db c permit input.now <;> rfl
  | finish c result => exact ofLedger (.finish c result input.now) .receipt rfl
  | abandonAfterMarker c => exact ofLedger (.abandonAfterMarker c input.now) .receipt rfl
  | renew c => exact ofLedger (.renew c input.now) .renewed rfl
  | spoolPrepare c | workerPrepare c | waitReady | execute permit | close place
  | spoolRelease => exact .inl rfl
  | agent e =>
    simp only [exec]
    split
    · exact .inl rfl
    · exact .inr ⟨e, rfl⟩

lemma jobEnded_of_spec {F : PrintJobRow → Prop} {codes : String → String → Prop} {db db' : Db}
    (h : EventSpec F codes db db') {jobId : String} (hended : db.JobEnded jobId) :
    db'.JobEnded jobId := by
  obtain ⟨r, hr, hid, haccepted, hprogress⟩ := hended
  refine ⟨r, ?_, hid, haccepted, hprogress⟩
  rcases h.writes with hframe | hwrites
  · exact hframe.jobs.ended r hr haccepted hprogress
  · exact hwrites.ended hr haccepted

lemma exec_agent (hinv : AgentInv anyCodes s) (input : ExecutionInput) (op : ExecutionOp) :
    AgentInv anyCodes (exec op s input).1 ∧
      ∀ jobId, s.db.JobEnded jobId → (exec op s input).1.db.JobEnded jobId := by
  obtain h | ⟨e, h⟩ := exec_step s input op
  · rw [h]
    exact ⟨hinv, fun _ h => h⟩
  · obtain ⟨hagent, hspec⟩ := step_any e hinv
    rw [h]
    exact ⟨hagent, fun _ => jobEnded_of_spec hspec⟩

end Accesses

def Running (db : Db) (c : ExecutionClaim) : Prop :=
  ∃ x ∈ db.executions, x.ClaimedBy c ∧ x.stage ≠ .over

structure Settled (db : Db) (c : ExecutionClaim) : Prop where
  issued : Issued db c
  ended : db.JobEnded c.jobId
  stopped : ∀ x ∈ db.executions, x.jobId = c.jobId → x.stage = .over

section Attempts

variable {a : Access executionInterface} {db db' : Db} {c : ExecutionClaim}

lemma Running.issued (h : Running db c) : Issued db c := by
  obtain ⟨x, hx, hclaimed, -⟩ := h
  exact ⟨x, hx, hclaimed⟩

lemma Effect.coupled (h : Effect a db db') (hc : Coupled db) : Coupled db' := by
  cases h with
  | kept _ _ h => exact hc.keep h
  | claim c x deviceId db1 _ _ _ hkept hadded => exact (hc.keep hkept).claim hadded
  | start c x _ _ _ _ h => exact hc.start h
  | finish c _ _ _ h =>
    obtain ⟨x, -, h, -⟩ := h
    exact hc.finish h

lemma Effect.issued (h : Effect a db db') (hi : Issued db c) : Issued db' c := by
  cases h with
  | kept _ _ h => exact hi.write (.keep h)
  | claim c x deviceId db1 _ _ _ hkept hadded =>
    exact (hi.write (.keep hkept)).write (.claim x deviceId hadded)
  | start c x _ _ _ _ h => exact hi.write (.start x h)
  | finish c _ _ _ h =>
    obtain ⟨x, -, h, -⟩ := h
    exact hi.write (.finish x h)

lemma Settled.effect (hs : Settled db c) (h : Effect a db db')
    (hjob : db'.JobEnded c.jobId) : Settled db' c := by
  refine ⟨h.issued hs.issued, hjob, fun y hy hyjob => ?_⟩
  cases h with
  | kept _ _ h =>
    rw [h.executions] at hy
    exact hs.stopped y hy hyjob
  | claim c' x deviceId db1 _ _ _ hkept hadded haccepted =>
    rw [hadded.executions, hkept.executions] at hy
    rcases List.mem_append.mp hy with hy | hy
    · exact hs.stopped y hy hyjob
    · obtain rfl := List.mem_singleton.mp hy
      obtain ⟨r, hr, hrid, hrstate⟩ := haccepted
      obtain ⟨r', hr', hrid', hrstate', -⟩ := hjob
      rw [hadded.jobs] at hr'
      obtain rfl := job_eq_of_id db1 hr hr' (by rw [hrid, hrid', hyjob])
      exact (hrstate' hrstate).elim
  | start c' x _ _ _ _ h =>
    rw [h.executions] at hy
    rcases mem_map_update.mp hy with ⟨-, rfl⟩ | ⟨hy, -⟩
    · have hover := hs.stopped x h.mem hyjob
      rw [h.stage] at hover
      cases hover
    · exact hs.stopped y hy hyjob
  | finish c' _ _ _ h =>
    obtain ⟨x, -, h, -⟩ := h
    rw [h.executions] at hy
    rcases mem_map_update.mp hy with ⟨-, rfl⟩ | ⟨hy, -⟩
    · rfl
    · exact hs.stopped y hy hyjob

lemma Running.effect (hr : Running db c) (h : Effect a db db')
    (hother : ends a = true → ∀ c', a.1.claim? = some c' → c'.attemptId ≠ c.attemptId) :
    Running db' c := by
  obtain ⟨x, hx, hclaimed, hstage⟩ := hr
  cases h with
  | kept _ _ h => exact ⟨x, h.executions ▸ hx, hclaimed, hstage⟩
  | claim c' x' deviceId db1 _ _ _ hkept hadded =>
    refine ⟨x, ?_, hclaimed, hstage⟩
    rw [hadded.executions, hkept.executions]
    exact List.mem_append_left _ hx
  | start c' x' _ _ _ _ h =>
    by_cases heq : x = x'
    · subst heq
      refine ⟨{ x with stage := .started, marked := true }, ?_, hclaimed, nofun⟩
      rw [h.executions]
      exact mem_map_update.mpr (.inl ⟨hx, rfl⟩)
    · refine ⟨x, ?_, hclaimed, hstage⟩
      rw [h.executions]
      exact mem_map_update.mpr (.inr ⟨hx, heq⟩)
  | finish c' hop _ hends h =>
    obtain ⟨x', hid, h, -⟩ := h
    refine ⟨x, ?_, hclaimed, hstage⟩
    rw [h.executions]
    refine mem_map_update.mpr (.inr ⟨hx, ?_⟩)
    rintro rfl
    exact hother hends c' hop (hid.symm.trans hclaimed.1)

lemma settled_of_ends (hi : Issued db c) (hc : Coupled db) (h : EndsClaim c db db') :
    Settled db' c := by
  obtain ⟨x, hid, hended, hjob⟩ := h
  have hissued := hi.write (.finish x hended)
  obtain ⟨y, hy, hclaimed⟩ := hi
  obtain rfl := execution_eq_of_id hended.mem hy (hid.trans hclaimed.1.symm)
  have hxjob : x.jobId = c.jobId := hclaimed.2.1
  refine ⟨hissued, hxjob ▸ hjob, fun z hz hzjob => ?_⟩
  rw [hended.executions] at hz
  rcases mem_map_update.mp hz with ⟨-, rfl⟩ | ⟨hz, hne⟩
  · rfl
  · by_contra hactive
    exact hne (hc.eq_of_job hz hended.mem hactive hended.active (hzjob.trans hxjob.symm))

/-- The attempt of the claim is in no active phase, and no reservation holds a Device for its
job. -/
def Freed (db : Db) (c : ExecutionClaim) : Prop :=
  (∀ r ∈ db.attempts.rows, r.attemptId = c.attemptId → r.phase.active = false) ∧
  ∀ r ∈ db.reservations.rows, r.jobId = some c.jobId → r.reservationKind = .executionTemp →
    r.state ≠ .held

instance (db : Db) (c : ExecutionClaim) : Decidable (Freed db c) :=
  inferInstanceAs (Decidable (_ ∧ _))

lemma Settled.freed (hs : Settled db c) (hc : Coupled db) : Freed db c := by
  constructor
  · intro r hr hid
    obtain ⟨x, hx, hclaimed⟩ := hs.issued
    obtain rfl := execution_eq_of_id (List.mem_map_of_mem hr) hx (hid.trans hclaimed.1.symm)
    have hover := hs.stopped _ hx hclaimed.2.1
    by_contra hactive
    exact (AttemptPhase.active_iff _).mp (Bool.not_eq_false _ ▸ hactive) hover
  · intro r hr hjob hkind hheld
    have hh : (⟨r.jobId, r.deviceId, r.ownerId, r.ownerGeneration⟩ : Hold) ∈ db.holds :=
      List.mem_filterMap.mpr ⟨r, hr, by simp [ReservationRow.hold, hkind, hheld]⟩
    obtain ⟨x, hx, hactive, hfor⟩ := hc.active _ hh
    exact hactive (hs.stopped x hx (Option.some.inj (hfor.job.symm.trans hjob)))

lemma Running.not_freed (hr : Running db c) : ¬Freed db c := by
  intro hfreed
  obtain ⟨x, hx, hclaimed, hstage⟩ := hr
  obtain ⟨r, hr, rfl⟩ := List.mem_map.mp hx
  have hactive := (AttemptPhase.active_iff _).mpr hstage
  rw [hfreed.1 r hr hclaimed.1] at hactive
  cases hactive

end Attempts

abbrev ExecutionSystem : Type :=
  System AgentState executionInterface Request Raised (Option ExecutionReceipt)

def Tracked (trace : Trace) (db : Db) : Prop :=
  ∀ c, claimOf trace = some c →
    (trace.any ends = false → Running db c) ∧ (trace.any ends = true → Settled db c)

structure ServiceInv (s : ExecutionSystem) : Prop where
  agent : AgentInv anyCodes s.store
  coupled : Coupled s.store.db
  follows : Service.CallsObey (fun _ => Follows) (fun _ _ _ => True) s
  tracked : ∀ k, Tracked (s.trace k) s.store.db
  apart : ∀ k k' c c', claimOf (s.trace k) = some c → claimOf (s.trace k') = some c' →
    c.attemptId = c'.attemptId → k = k'

variable {trace : Trace}

variable {c : ExecutionClaim}

lemma Tracked.issued {db : Db} (h : Tracked trace db) (hc : claimOf trace = some c) :
    Issued db c := by
  cases hends : trace.any ends with
  | false => exact ((h c hc).1 hends).issued
  | true => exact ((h c hc).2 hends).issued

lemma Follows.claim {op : ExecutionOp} (h : Follows trace op) (hc : op.claim? = some c) :
    claimOf trace = some c := by
  obtain ⟨-, hopens⟩ | ⟨c', hc', -, hown⟩ := h
  · have hclosed : op.opens = false := by cases op <;> first | rfl | cases hc
    rw [hclosed] at hopens
    cases hopens
  · rw [hc', hown c hc]

lemma Tracked.own {db db' : Db} {op : ExecutionOp} {answer : executionInterface.Answer op}
    (h : Tracked trace db) (hc : Coupled db) (hf : Follows trace op)
    (he : Effect ⟨op, answer⟩ db db') (hjob : ∀ jobId, db.JobEnded jobId → db'.JobEnded jobId) :
    Tracked (trace ++ [⟨op, answer⟩]) db' := by
  intro c hclaim
  rw [claimOf_append] at hclaim
  simp only [List.any_append, List.any_cons, List.any_nil, Bool.or_false]
  cases hcall : claimOf trace with
  | some c' =>
    rw [hcall, Option.some_or] at hclaim
    obtain rfl := Option.some.inj hclaim
    cases htrace : trace.any ends with
    | true =>
      have hs := (h c' hcall).2 htrace
      exact ⟨nofun, fun _ => hs.effect he (hjob _ hs.ended)⟩
    | false =>
      rw [Bool.false_or]
      refine ⟨fun hends => ?_, fun hends => ?_⟩
      · refine ((h c' hcall).1 htrace).effect he fun h => ?_
        rw [hends] at h
        cases h
      · cases he with
        | kept _ h | claim _ _ _ _ _ h | start _ _ _ _ h =>
          rw [h] at hends
          cases hends
        | finish c'' hop _ _ hended =>
          have heq := hf.claim hop
          rw [hcall] at heq
          obtain rfl := Option.some.inj heq
          exact settled_of_ends (h.issued hcall) hc hended
  | none =>
    rw [hcall, Option.none_or] at hclaim
    -- the call has just claimed its job
    cases he with
    | kept hnone | start _ _ _ hnone | finish _ _ hnone =>
      rw [hnone] at hclaim
      cases hclaim
    | claim c' x deviceId db1 hclaimed hends hx hkept hadded =>
      rw [hclaimed] at hclaim
      obtain rfl := Option.some.inj hclaim
      have htrace : trace = [] := by
        obtain ⟨htrace, -⟩ | ⟨c'', hc'', -⟩ := hf
        · exact htrace
        · rw [hcall] at hc''
          cases hc''
      rw [htrace, hends]
      refine ⟨fun _ => ⟨x, ?_, hx, ?_⟩, nofun⟩
      · rw [hadded.executions]
        exact List.mem_append_right _ (List.mem_singleton_self _)
      · rw [hadded.stage]
        exact nofun

lemma Tracked.other {db db' : Db} {a : Access executionInterface} (h : Tracked trace db)
    (he : Effect a db db') (hjob : ∀ jobId, db.JobEnded jobId → db'.JobEnded jobId)
    (hapart : ∀ c c', claimOf trace = some c → a.1.claim? = some c' →
      c'.attemptId ≠ c.attemptId) : Tracked trace db' := by
  intro c hclaim
  refine ⟨fun hends => ?_, fun hends => ?_⟩
  · exact ((h c hclaim).1 hends).effect he fun _ c' hc' => hapart c c' hclaim hc'
  · have hs := (h c hclaim).2 hends
    exact hs.effect he (hjob _ hs.ended)

lemma Effect.fresh {a : Access executionInterface} {db db' : Db} (he : Effect a db db')
    {c' : ExecutionClaim} (hc : claimed a = some c) (hc' : Issued db c') :
    c.attemptId ≠ c'.attemptId := by
  cases he with
  | kept hnone | start _ _ _ hnone | finish _ _ hnone =>
    rw [hnone] at hc
    cases hc
  | claim c'' x deviceId db1 hclaimed _ hx hkept hadded =>
    rw [hclaimed] at hc
    obtain rfl := Option.some.inj hc
    obtain ⟨y, hy, hyc⟩ := hc'
    rw [← hkept.executions] at hy
    intro heq
    exact hadded.fresh y hy (hyc.1.trans (heq.symm.trans hx.1.symm))

lemma serviceInv_step (s : ExecutionSystem) (e : CallEvent Request ExecutionInput)
    (hs : ServiceInv s) : ServiceInv (service.step s e).1 := by
  have hfollows := Service.CallsObey.step (S := service) body_follows hs.follows e
  rcases Service.access_cases (S := service) s e with ⟨hstore, htrace⟩ |
    ⟨k, input, call, op, hcall, hp, htr, hstore, hown, hother⟩
  · refine ⟨hstore ▸ hs.agent, hstore ▸ hs.coupled, hfollows, fun k => ?_, ?_⟩
    · rw [hstore, htrace]
      exact hs.tracked k
    · intro k k' c c' hc hc'
      rw [htrace] at hc hc'
      exact hs.apart k k' c c' hc hc'
  obtain ⟨call', hcall', hf⟩ := hs.follows.pending hp
  obtain rfl := Option.some.inj (hcall.symm.trans hcall')
  rw [← htr] at hf
  have he : Effect ⟨op, (exec op s.store input).2⟩ s.store.db (exec op s.store input).1.db :=
    exec_effect hs.agent op fun c hc => (hs.tracked k).issued (hf.claim hc)
  obtain ⟨hagent, hjob⟩ := exec_agent hs.agent input op
  have hclaimOf (k' : Nat) (c : ExecutionClaim)
      (h : claimOf ((service.step s e).1.trace k') = some c) : claimOf (s.trace k') = some c ∨
        (k' = k ∧ claimed ⟨op, (exec op s.store input).2⟩ = some c) := by
    by_cases hk : k' = k
    · subst hk
      rw [hown, claimOf_append] at h
      rcases Option.or_eq_some_iff.mp h with h | ⟨-, h⟩
      · exact .inl h
      · exact .inr ⟨rfl, h⟩
    · rw [hother k' hk] at h
      exact .inl h
  refine ⟨hstore ▸ hagent, hstore ▸ he.coupled hs.coupled, hfollows, fun k' => ?_, ?_⟩
  · rw [hstore]
    by_cases hk : k' = k
    · subst hk
      rw [hown]
      exact (hs.tracked k').own hs.coupled hf he hjob
    · rw [hother k' hk]
      refine (hs.tracked k').other he hjob fun c c' hc hc' heq => ?_
      exact hk (hs.apart k' k c c' hc (hf.claim hc') heq.symm)
  · intro j j' c c' hc hc' heq
    rcases hclaimOf j c hc with hc | ⟨rfl, hc⟩ <;> rcases hclaimOf j' c' hc' with hc' | ⟨rfl, hc'⟩
    · exact hs.apart j j' c c' hc hc' heq
    · exact (he.fresh hc' ((hs.tracked j).issued hc) heq.symm).elim
    · exact (he.fresh hc ((hs.tracked j').issued hc') heq).elim
    · rfl

lemma serviceInv_start {s : AgentState} (hagent : AgentInv anyCodes s) (hc : Coupled s.db) :
    ServiceInv ⟨s, []⟩ where
  agent := hagent
  coupled := hc
  follows := fun k call h => by cases h
  tracked := fun k c h => by cases h
  apart := fun k k' c c' h => by cases h

def Tells (s : ExecutionSystem) : Prop :=
  Service.CallsObey (fun _ _ _ => True)
    (fun _ trace _ => (claimOf trace).isSome → trace.any ends = !strands trace) s

lemma Tells.result {s : ExecutionSystem} (hs : Tells s) {k : Nat}
    {r : Except Raised (Option ExecutionReceipt)} (hr : s.result k = some r)
    (hc : claimOf (s.trace k) = some c) : (s.trace k).any ends = !strands (s.trace k) := by
  obtain ⟨call, hcall, htold⟩ := Service.CallsObey.result hs hr
  have htrace : s.trace k = call.trace := by simp [System.trace, hcall]
  rw [htrace] at hc ⊢
  exact htold (by rw [hc]; rfl)

lemma body_told (request : Request) : (body request).Obeys (fun _ _ => True)
    (fun trace _ => (claimOf trace).isSome → trace.any ends = !strands trace) [] := by
  cases request with
  | runOne owner deviceId => exact runOne_told owner deviceId
  | heartbeat =>
    refine obeys_ask trivial fun answer => ?_
    cases answer.result <;> exact nofun
  | agent => exact obeys_ask trivial fun answer => nofun

lemma tells_step (s : ExecutionSystem) (e : CallEvent Request ExecutionInput) (hs : Tells s) :
    Tells (service.step s e).1 :=
  Service.CallsObey.step (S := service) body_told hs e

/-- When a `run_one` has ended, its attempt is over exactly when none of its calls answered a result
that `strands` lists. -/
theorem run_one_frees_device_iff (before : List AgentEvent)
    (hbefore : RunOk Claimed.Uses Claimed.step {} before)
    (es : List (CallEvent Request ExecutionInput)) (k : Nat)
    (r : Except Raised (Option ExecutionReceipt)) (c : ExecutionClaim)
    (hr : (final service.step ⟨(final Claimed.step {} before).agent, []⟩ es).result k = some r)
    (hc : claimOf ((final service.step ⟨(final Claimed.step {} before).agent, []⟩ es).trace k) =
      some c) :
    Freed (final service.step ⟨(final Claimed.step {} before).agent, []⟩ es).store.db c ↔
      strands ((final service.step ⟨(final Claimed.step {} before).agent, []⟩ es).trace k) =
        false := by
  have hstart : ClaimedInv (final Claimed.step {} before) :=
    final_invariant claimedInv_step claimedInv_empty hbefore
  have hinv := final_of_step serviceInv_step (serviceInv_start hstart.agent hstart.coupled) es
  have htells : Tells (final service.step ⟨(final Claimed.step {} before).agent, []⟩ es) :=
    final_of_step tells_step (fun k call h => by cases h) es
  have hends := htells.result hr hc
  obtain ⟨hrunning, hsettled⟩ := hinv.tracked k c hc
  constructor
  · intro hfreed
    by_contra hstrands
    rw [Bool.not_eq_false] at hstrands
    rw [hstrands] at hends
    exact (hrunning hends).not_freed hfreed
  · intro hstrands
    rw [hstrands] at hends
    exact (hsettled hends).freed hinv.coupled

def sampleExecutionInput (now : Time) : ExecutionInput where
  env := sampleEnv
  now := now
  ids := ⟨"attempt", "lease", "execution", "temp"⟩
  markerId := "marker"
  commit := .done
  raised := none
  answer := .ok ()
  executed := .ok sampleResult

def printedRun : List (CallEvent Request ExecutionInput) :=
  .start (.runOne sampleOwner none) :: List.replicate 11 (.resume 0 (sampleExecutionInput 1))

theorem printed_run_frees_device :
    Freed (final service.step ⟨(final Claimed.step {} sampleAdmission).agent, []⟩
      printedRun).store.db sampleIssued :=
  (run_one_frees_device_iff sampleAdmission (by decide +kernel) printedRun 0
    (.ok (some ⟨"job", .outputConfirmed, 3⟩)) sampleIssued (by decide +kernel)
    (by decide +kernel)).mpr (by decide +kernel)

/-- A second `run_one` of the owner marks the prepared job as expired, and the first one goes on. -/
def expiredRun : List (CallEvent Request ExecutionInput) :=
  [.start (.runOne sampleOwner none), .start (.runOne sampleOwner none)] ++
  List.replicate 5 (.resume 0 (sampleExecutionInput (hour - 10 * second))) ++
  [.resume 1 (sampleExecutionInput hour)] ++
  List.replicate 2 (.resume 0 (sampleExecutionInput hour))

theorem expired_run_strands_device :
    (final service.step ⟨(final Claimed.step {} sampleAdmission).agent, []⟩ expiredRun).result 0 =
        some (.error .leaseLost) ∧
      claimOf ((final service.step ⟨(final Claimed.step {} sampleAdmission).agent, []⟩
        expiredRun).trace 0) =
          some { sampleClaim with leaseExpiresAt := hour - 10 * second + 60 * second } ∧
      ¬Freed (final service.step ⟨(final Claimed.step {} sampleAdmission).agent, []⟩
        expiredRun).store.db
          { sampleClaim with leaseExpiresAt := hour - 10 * second + 60 * second } ∧
      deviceIsBusy sampleEnv (final service.step ⟨(final Claimed.step {} sampleAdmission).agent, []⟩
        expiredRun).store.db "printer" (24 * hour) = true := by
  decide +kernel

end PhysicalExecution

end Inari.Agent
