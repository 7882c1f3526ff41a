import Inari.Agent.PhysicalExecution

/-!
# The handlers of `run_one`

`strands` lists the results after which a `run_one` that returns has not ended its attempt.
-/

namespace Inari.Agent

open Lib SqliteExecutionLedger DurableSpoolAdmissionStore

namespace PhysicalExecution

abbrev Trace := List (Access executionInterface)

/-- The claim that `claim_next` made: the one it returned, or wrote when its commit was uncertain. -/
def claimed : Access executionInterface → Option ExecutionClaim
  | ⟨.claimNext .., a⟩ =>
    match a.result with
    | .ok c => c
    | .error _ => a.written.join
  | _ => none

def ends : Access executionInterface → Bool
  | ⟨.failBeforeIo .., a⟩ => a.applied
  | ⟨.finish .., a⟩ => a.applied
  | ⟨.abandonAfterMarker _, a⟩ => a.applied
  | _ => false

/-- Results before the marker that leave an active attempt. -/
def lost : Access executionInterface → Bool
  | ⟨.claimNext .., a⟩ => !a.result.isOk
  | ⟨.spoolPrepare _, r⟩ => r = .error .cancelled
  | ⟨.markPrepared _, a⟩ => a.result = .error .cancelled
  | ⟨.workerPrepare _, r⟩ => r = .error .cancelled
  | ⟨.waitReady, r⟩ => r = .error .cancelled
  | ⟨.failBeforeIo .., a⟩ => !a.applied
  | ⟨.markIoStarted _, a⟩ =>
    match a.result with
    | .ok _ => false
    | .error e => !e.isPreIoFailure
  | _ => false

def started : Access executionInterface → Bool
  | ⟨.markIoStarted _, a⟩ => a.result.isOk
  | _ => false

def finished : Access executionInterface → Bool
  | ⟨.finish .., a⟩ => a.applied
  | _ => false

/-- Results in the handler: the worker does not close, or the attempt is not abandoned. -/
def unable : Access executionInterface → Bool
  | ⟨.close .handler, r⟩ => !r.isOk
  | ⟨.abandonAfterMarker _, a⟩ => !a.applied
  | _ => false

/-- The results after which the attempt stays active. -/
def strands (trace : Trace) : Bool :=
  trace.any lost || (trace.any started && !trace.any finished && trace.any unable)

def claimOf (trace : Trace) : Option ExecutionClaim :=
  trace.findSome? claimed

lemma claimOf_append (trace : Trace) (a : Access executionInterface) :
    claimOf (trace ++ [a]) = (claimOf trace).or (claimed a) := by
  simp [claimOf, List.findSome?_append]

/-! ## The handlers of `run_one` -/

section Handlers

variable {α β : Type} {P : Trace → ExecutionOp → Prop} {Q : Trace → Except Raised β → Prop}
  {trace : Trace} {claim : ExecutionClaim} {op : ExecutionOp} {t : Tally} {exit : Exit}

lemma obeys_ask {read : executionInterface.Answer op → Except Raised α}
    {f : Except Raised α → Task β} (hop : P trace op)
    (h : ∀ answer, (f (read answer)).Obeys P Q (trace ++ [⟨op, answer⟩])) :
    (ask op read >>= f).Obeys P Q trace :=
  ⟨hop, h⟩

/-- What the accesses of a trace, or a single one, decide. -/
@[ext]
structure Tally where
  lost : Bool := false
  started : Bool := false
  finished : Bool := false
  unable : Bool := false
  ends : Bool := false

def tallyOf (a : Access executionInterface) : Tally :=
  ⟨lost a, started a, finished a, unable a, ends a⟩

def tally (trace : Trace) : Tally :=
  ⟨trace.any lost, trace.any started, trace.any finished, trace.any unable, trace.any ends⟩

def Tally.add (t u : Tally) : Tally :=
  ⟨t.lost || u.lost, t.started || u.started, t.finished || u.finished, t.unable || u.unable,
    t.ends || u.ends⟩

lemma tally_append (trace : Trace) (a : Access executionInterface) :
    tally (trace ++ [a]) = (tally trace).add (tallyOf a) := by
  simp [tally, tallyOf, Tally.add]

@[simp] lemma Tally.add_empty (t : Tally) : t.add {} = t := by
  ext <;> simp [Tally.add]

@[simp] lemma Tally.empty_add (t : Tally) : Tally.add {} t = t := by
  ext <;> simp [Tally.add]

lemma tally_add (h : tally trace = t) (a : Access executionInterface) :
    tally (trace ++ [a]) = t.add (tallyOf a) := by
  rw [tally_append, h]

lemma tally_quiet {a : Access executionInterface} (h : tally trace = t) (ha : tallyOf a = {}) :
    tally (trace ++ [a]) = t := by
  rw [tally_add h, ha, Tally.add_empty]

/-- The block is left with the marker committed and an error, or the attempt has ended or is lost.
-/
structure Left (t : Tally) (exit : Exit) : Prop where
  unable : t.unable = false
  marked : exit.markerCommitted = true →
    (∃ e, exit.result = .error e) ∧ t.lost = false ∧ t.started = true ∧ t.ends = t.finished
  unmarked : exit.markerCommitted = false →
    t.ends = !t.lost ∧ (t.started = true → t.finished = true)

def LeftWith (trace : Trace) (r : Except Raised Exit) : Prop :=
  ∃ exit, r = .ok exit ∧ Left (tally trace) exit

lemma rejected_left (h : tally trace = {}) (errorCode messageKey : String)
    (preparedWorker : Bool) :
    (rejected claim errorCode messageKey preparedWorker).Obeys (fun _ _ => True) LeftWith trace := by
  refine obeys_ask trivial fun answer => ⟨_, rfl, ?_⟩
  rw [tally_add h, Tally.empty_add]
  refine ⟨rfl, nofun, fun _ => ⟨?_, nofun⟩⟩
  simp [tallyOf, ends, lost]

def PreparedWith (trace : Trace) (r : Except Raised (Except Raised Unit × Bool)) : Prop :=
  ∃ ready preparedWorker, r = .ok (ready, preparedWorker) ∧
    ((ready = .error .cancelled ∧ tally trace = { lost := true }) ∨
      (ready ≠ .error .cancelled ∧ tally trace = {}))

lemma prepared_step (h : tally trace = {})
    {read : executionInterface.Answer op → Except Raised Unit}
    {f : Except Raised Unit → Task (Except Raised Unit × Bool)}
    (hop : ∀ answer, tallyOf ⟨op, answer⟩ = { lost := read answer = .error .cancelled })
    (herror : ∀ e, ∃ preparedWorker, f (.error e) = pure (.error e, preparedWorker))
    (hok : ∀ trace, tally trace = {} → (f (.ok ())).Obeys (fun _ _ => True) PreparedWith trace) :
    (ask op read >>= f).Obeys (fun _ _ => True) PreparedWith trace := by
  refine obeys_ask trivial fun answer => ?_
  have htally := tally_add h ⟨op, answer⟩
  rw [hop, Tally.empty_add] at htally
  cases hr : read answer with
  | ok =>
    refine hok _ (htally.trans ?_)
    simp [hr]
  | error e =>
    obtain ⟨preparedWorker, hf⟩ := herror e
    rw [hf]
    refine ⟨.error e, preparedWorker, rfl, ?_⟩
    by_cases he : e = .cancelled
    · subst he
      exact .inl ⟨rfl, htally.trans (by simp [hr])⟩
    · have hne : (Except.error e : Except Raised Unit) ≠ .error .cancelled :=
        fun h => he (Except.error.inj h)
      exact .inr ⟨hne, htally.trans (by simp [hr, hne])⟩

lemma prepare_left (h : tally trace = {}) :
    (prepare claim).Obeys (fun _ _ => True) PreparedWith trace := by
  refine prepared_step h (fun _ => rfl) (fun e => ⟨_, rfl⟩) fun trace h => ?_
  refine prepared_step h (fun _ => rfl) (fun e => ⟨_, rfl⟩) fun trace h => ?_
  refine prepared_step h (fun _ => rfl) (fun e => ⟨_, rfl⟩) fun trace h => ?_
  -- both results of `wait_ready` leave the block
  refine obeys_ask trivial fun ready => ?_
  have htally := tally_add h ⟨.waitReady, ready⟩
  rw [Tally.empty_add] at htally
  refine ⟨ready, true, rfl, ?_⟩
  by_cases hr : ready = .error .cancelled
  · exact .inl ⟨hr, htally.trans (by simp [tallyOf, lost, started, finished, unable, ends, hr])⟩
  · exact .inr ⟨hr, htally.trans (by simp [tallyOf, lost, started, finished, unable, ends, hr])⟩

lemma left_of_marked (h : tally trace = { started := true }) {e : Raised} {preparedWorker : Bool} :
    Left (tally trace) ⟨.error e, preparedWorker, true⟩ := by
  rw [h]
  exact ⟨rfl, fun _ => ⟨⟨e, rfl⟩, rfl, rfl, rfl⟩, nofun⟩

lemma deliver_left (h : tally trace = { started := true }) (permit : IoPermit) :
    (deliver claim permit).Obeys (fun _ _ => True) LeftWith trace := by
  refine obeys_ask trivial fun noted => ?_
  have h1 := tally_quiet h (a := ⟨.notePermissionDelivered claim permit, noted⟩) rfl
  cases noted.result with
  | error => exact ⟨_, rfl, left_of_marked h1⟩
  | ok u =>
  refine obeys_ask trivial fun executed => obeys_ask trivial fun closed => ?_
  have h2 := tally_quiet (tally_quiet h1 (a := ⟨.execute permit, executed⟩) rfl)
    (a := ⟨.close .block, closed⟩) rfl
  cases closed with
  | error => exact ⟨_, rfl, left_of_marked h2⟩
  | ok u =>
  refine obeys_ask trivial fun answer => ?_
  have h3 := tally_add h2 ⟨.finish claim (executionResult (id executed)), answer⟩
  cases hr : answer.result with
  | error e =>
    -- the commit of `finish` may still have been applied
    refine ⟨_, rfl, ?_⟩
    rw [h3]
    exact ⟨rfl, fun _ => ⟨⟨e, rfl⟩, rfl, rfl, rfl⟩, nofun⟩
  | ok receipt =>
  have happlied : answer.applied = true := by simp [Answered.applied, hr, Except.isOk, Except.toBool]
  have hfinished : Tally.add { started := true }
      (tallyOf ⟨.finish claim (executionResult (id executed)), answer⟩) =
      { started := true, finished := true, ends := true } := by
    simp [Tally.add, tallyOf, lost, started, finished, unable, ends, happlied]
  refine obeys_ask trivial fun released => ?_
  have h4 := tally_quiet (h3.trans hfinished) (a := ⟨.spoolRelease claim receipt, released⟩) rfl
  have hleft (result : Except Raised ExecutionReceipt) :
      Left { started := true, finished := true, ends := true } ⟨result, false, false⟩ :=
    ⟨rfl, nofun, fun _ => ⟨rfl, fun _ => rfl⟩⟩
  split
  · exact ⟨_, rfl, h4 ▸ hleft _⟩
  · split
    · exact ⟨_, rfl, h4 ▸ hleft _⟩
    · exact ⟨_, rfl, h4 ▸ hleft _⟩

lemma block_left (h : tally trace = {}) : (block claim).Obeys (fun _ _ => True) LeftWith trace := by
  refine Proc.obeys_bind.mpr ((prepare_left h).mono (fun _ _ h => h) ?_)
  rintro trace _ ⟨ready, preparedWorker, rfl, ⟨rfl, h⟩ | ⟨hne, h⟩⟩
  · refine ⟨_, rfl, ?_⟩
    rw [h]
    exact ⟨rfl, nofun, fun _ => ⟨rfl, nofun⟩⟩
  cases ready with
  | error e =>
    cases e with
    | preIoFailure | leaseLost | other => exact rejected_left h _ _ _
    | cancelled => exact (hne rfl).elim
  | ok =>
    refine obeys_ask trivial fun answer => ?_
    have h1 := tally_add h ⟨.markIoStarted claim, answer⟩
    rw [Tally.empty_add] at h1
    cases hr : answer.result with
    | error e =>
      have htally : tallyOf ⟨.markIoStarted claim, answer⟩ = { lost := !e.isPreIoFailure } := by
        simp [tallyOf, lost, started, finished, unable, ends, hr, Except.isOk, Except.toBool]
      rw [htally] at h1
      cases e with
      | preIoFailure => exact rejected_left h1 _ _ _
      | leaseLost | other | cancelled =>
        refine ⟨_, rfl, ?_⟩
        rw [h1]
        exact ⟨rfl, nofun, fun _ => ⟨rfl, nofun⟩⟩
    | ok permit =>
      refine deliver_left (h1.trans ?_) permit
      simp [tallyOf, lost, started, finished, unable, ends, hr, Except.isOk, Except.toBool]

/-- The attempt has ended, unless one of the listed results occurred. -/
def Tally.Told (t : Tally) : Prop :=
  t.ends = !(t.lost || (t.started && !t.finished && t.unable))

lemma Left.told_unable (h : Left t exit) (unable : Bool)
    (hm : exit.markerCommitted = true → unable = true) : (t.add { unable := unable }).Told := by
  cases hmarked : exit.markerCommitted with
  | false =>
    obtain ⟨hends, hstarted⟩ := h.unmarked hmarked
    cases hs : t.started with
    | false => simp [Tally.Told, Tally.add, hends, hs]
    | true => simp [Tally.Told, Tally.add, hends, hstarted hs]
  | true =>
    obtain ⟨-, hlost, hstarted, hends⟩ := h.marked hmarked
    simp [Tally.Told, Tally.add, hlost, hstarted, hends, hm hmarked]

lemma Left.told (h : Left t exit) (hm : exit.markerCommitted = false) : t.Told := by
  have htold := h.told_unable false (fun h => by rw [hm] at h; cases h)
  rwa [Tally.add_empty] at htold

lemma Left.told_abandon (h : Left t exit) (hm : exit.markerCommitted = true) (applied : Bool) :
    (t.add { unable := !applied, ends := applied }).Told := by
  obtain ⟨-, hlost, hstarted, hends⟩ := h.marked hm
  cases applied <;> simp [Tally.Told, Tally.add, hlost, hstarted, hends, h.unable]

def ToldWith {α : Type} (trace : Trace) (r : Except Raised α) : Prop :=
  (∃ a, r = .ok a) ∧ (tally trace).Told

lemma abandonMarked_told (h : Left (tally trace) exit) (e : Raised) :
    (abandonMarked claim e exit.markerCommitted).Obeys (fun _ _ => True) ToldWith trace := by
  cases hm : exit.markerCommitted with
  | false => exact ⟨⟨_, rfl⟩, h.told hm⟩
  | true =>
    refine obeys_ask trivial fun answer => ?_
    have htold := h.told_abandon hm answer.applied
    rw [show Tally.mk false false false (!answer.applied) answer.applied =
      tallyOf ⟨.abandonAfterMarker claim, answer⟩ from rfl, ← tally_append] at htold
    cases answer.result with
    | error | ok => exact ⟨⟨_, rfl⟩, htold⟩

lemma handleRaised_told (h : Left (tally trace) exit) :
    (handleRaised claim exit).Obeys (fun _ _ => True) ToldWith trace := by
  unfold handleRaised
  split
  · rename_i receipt hresult
    refine ⟨⟨exit, rfl⟩, h.told ?_⟩
    by_contra hm
    obtain ⟨⟨e, he⟩, -⟩ := h.marked (Bool.not_eq_false _ ▸ hm)
    rw [hresult] at he
    cases he
  · cases hp : exit.preparedWorker with
    | false => exact abandonMarked_told h _
    | true =>
      refine obeys_ask trivial fun closed => ?_
      cases closed with
      | error =>
        refine ⟨⟨_, rfl⟩, ?_⟩
        rw [tally_append]
        exact h.told_unable true (fun _ => rfl)
      | ok =>
        refine abandonMarked_told ?_ _
        rwa [tally_quiet rfl rfl]

lemma cleanUp_told (h : (tally trace).Told) :
    (cleanUp exit).Obeys (fun _ _ => True) (fun trace _ => (tally trace).Told) trace := by
  cases hp : exit.preparedWorker with
  | false =>
    simp only [cleanUp, hp]
    cases exit.result <;> exact h
  | true =>
    simp only [cleanUp, hp]
    refine obeys_ask trivial fun closed => ?_
    have htold : (tally (trace ++ [⟨.close .final, closed⟩])).Told := by rwa [tally_quiet rfl rfl]
    cases closed with
    | error => exact htold
    | ok => cases exit.result <;> exact htold

/-- Whatever its calls answer, a `run_one` that returns has ended its attempt or was told otherwise.
-/
theorem runOne_told (owner : ExecutionOwner) (deviceId : Option String) :
    (runOne owner deviceId).Obeys (fun _ _ => True)
      (fun trace _ => (claimOf trace).isSome → trace.any ends = !strands trace) [] := by
  refine obeys_ask trivial fun answer => ?_
  have hclaimed : claimOf [⟨.claimNext owner deviceId, answer⟩] =
      claimed ⟨.claimNext owner deviceId, answer⟩ := by simp [claimOf]
  cases hr : answer.result with
  | error =>
    -- the commit of the claim was uncertain
    intro _
    simp [strands, lost, ends, hr, Except.isOk, Except.toBool]
  | ok c =>
    cases c with
    | none =>
      intro h
      rw [List.nil_append, hclaimed] at h
      simp [claimed, hr] at h
    | some =>
      have htally : tally [⟨.claimNext owner deviceId, answer⟩] = {} := by
        simp [tally, lost, started, finished, unable, ends, hr, Except.isOk, Except.toBool]
      refine Proc.obeys_bind.mpr ((block_left htally).mono (fun _ _ h => h) ?_)
      rintro trace _ ⟨exit, rfl, hleft⟩
      refine Proc.obeys_bind.mpr ((handleRaised_told hleft).mono (fun _ _ h => h) ?_)
      rintro trace _ ⟨⟨exit, rfl⟩, htold⟩
      exact (cleanUp_told htold).mono (fun _ _ h => h) (fun _ _ h _ => h)

def ExecutionOp.claim? : ExecutionOp → Option ExecutionClaim
  | .markPrepared c | .failBeforeIo c _ _ | .markIoStarted c | .notePermissionDelivered c _
  | .finish c _ | .abandonAfterMarker c => some c
  | _ => none

def ExecutionOp.opens : ExecutionOp → Bool
  | .claimNext .. | .renew _ | .agent _ => true
  | _ => false

def Own (c : ExecutionClaim) (op : ExecutionOp) : Prop :=
  op.opens = false ∧ ∀ c' ∈ op.claim?, c' = c

lemma own_of_claim {c : ExecutionClaim} (hopens : op.opens = false) (h : op.claim? = some c) :
    Own c op := by
  refine ⟨hopens, fun c' hc' => ?_⟩
  rw [h] at hc'
  exact (Option.mem_some_iff.mp hc').symm

lemma own_of_none {c : ExecutionClaim} (hopens : op.opens = false) (h : op.claim? = none) :
    Own c op := by
  refine ⟨hopens, fun c' hc' => ?_⟩
  rw [h] at hc'
  cases hc'

lemma uses_ask {allowed : ExecutionOp → Prop}
    {read : executionInterface.Answer op → Except Raised α} (h : allowed op) :
    (ask op read).Uses allowed :=
  Proc.uses_attempt h

lemma prepare_own : (prepare claim).Uses (Own claim) := by
  refine .bind (uses_ask (own_of_none rfl rfl)) fun spooled => ?_
  cases spooled with
  | error => exact trivial
  | ok u =>
  refine .bind (uses_ask (own_of_claim rfl rfl)) fun marked => ?_
  cases marked with
  | error => exact trivial
  | ok u =>
  refine .bind (uses_ask (own_of_none rfl rfl)) fun prepared => ?_
  cases prepared with
  | error => exact trivial
  | ok => exact .bind (uses_ask (own_of_none rfl rfl)) fun ready => trivial

lemma rejected_own (errorCode messageKey : String) (preparedWorker : Bool) :
    (rejected claim errorCode messageKey preparedWorker).Uses (Own claim) :=
  .bind (uses_ask (own_of_claim rfl rfl)) fun _ => trivial

lemma deliver_own (permit : IoPermit) : (deliver claim permit).Uses (Own claim) := by
  refine .bind (uses_ask (own_of_claim rfl rfl)) fun noted => ?_
  cases noted with
  | error => exact trivial
  | ok u =>
  refine .bind (uses_ask (own_of_none rfl rfl)) fun executed => ?_
  refine .bind (uses_ask (own_of_none rfl rfl)) fun closed => ?_
  cases closed with
  | error => exact trivial
  | ok u =>
  refine .bind (uses_ask (own_of_claim rfl rfl)) fun receipt => ?_
  cases receipt with
  | error => exact trivial
  | ok receipt =>
  refine .bind (uses_ask (own_of_none rfl rfl)) fun released => ?_
  split
  · exact trivial
  · split <;> exact trivial

lemma block_own : (block claim).Uses (Own claim) := by
  refine .bind prepare_own fun (ready, preparedWorker) => ?_
  cases ready with
  | error e => cases e <;> first | exact rejected_own _ _ _ | exact trivial
  | ok u =>
  refine .bind (uses_ask (own_of_claim rfl rfl)) fun permit => ?_
  cases permit with
  | error e => cases e <;> first | exact rejected_own _ _ _ | exact trivial
  | ok permit => exact deliver_own permit

lemma closePrepared_own (preparedWorker : Bool) (place : CloseIn) :
    (closePrepared preparedWorker place).Uses (Own claim) := by
  cases preparedWorker with
  | false => exact trivial
  | true => exact uses_ask (own_of_none rfl rfl)

lemma handleRaised_own (exit : Exit) : (handleRaised claim exit).Uses (Own claim) := by
  unfold handleRaised
  split
  · exact trivial
  refine .bind (closePrepared_own _ _) fun closed => ?_
  cases closed with
  | error => exact trivial
  | ok =>
    cases exit.markerCommitted with
    | false => exact trivial
    | true =>
      refine .bind (uses_ask (own_of_claim rfl rfl)) fun abandoned => ?_
      cases abandoned <;> exact trivial

lemma cleanUp_own (exit : Exit) : (cleanUp exit).Uses (Own claim) := by
  refine .bind (closePrepared_own _ _) fun closed => ?_
  cases closed with
  | error => exact trivial
  | ok => cases exit.result <;> exact trivial

/-- A task opens with a claim, a renewal or an event of the Agent, and uses its own claim later. -/
def Follows (trace : Trace) (op : ExecutionOp) : Prop :=
  (trace = [] ∧ op.opens = true) ∨ ∃ c, claimOf trace = some c ∧ Own c op

theorem body_follows (request : Request) : (body request).Obeys Follows (fun _ _ => True) [] := by
  cases request with
  | heartbeat =>
    refine obeys_ask (.inl ⟨rfl, rfl⟩) fun answer => ?_
    cases answer.result <;> exact trivial
  | agent => exact obeys_ask (.inl ⟨rfl, rfl⟩) fun answer => trivial
  | runOne owner deviceId =>
    refine obeys_ask (.inl ⟨rfl, rfl⟩) fun answer => ?_
    cases hr : answer.result with
    | error => exact trivial
    | ok c =>
      cases c with
      | none => exact trivial
      | some claim =>
        have hclaim : claimOf [⟨.claimNext owner deviceId, answer⟩] = some claim := by
          simp [claimOf, claimed, hr]
        have huses : Proc.Uses (Own claim) (do
            let exit ← block claim
            let exit ← handleRaised claim exit
            cleanUp exit) :=
          .bind block_own fun exit => .bind (handleRaised_own exit) fun exit => cleanUp_own exit
        refine (huses.keeps (T := fun trace => claimOf trace = some claim) hclaim ?_).mono ?_
          (fun _ _ _ => trivial)
        · intro trace op answer hop htrace
          rw [claimOf_append, htrace, Option.some_or]
        · intro trace op hop
          exact .inr ⟨claim, hop.1, hop.2⟩

end Handlers

end PhysicalExecution

end Inari.Agent
