import Inari.Controller.AgentState
import Inari.Proofs.CommandDelivery

/-!
# The lifecycle of a Print Job on both sides

`transition` and `reconcile_version` agree, except that the Controller takes no state after
`outcome_unknown`.
-/

namespace Inari.Controller

open Lib Agent

variable {job next : PrintJob} {call : TransitionCall} {o o' first : AgentStateObservation}
  {calls : List TransitionCall} {jobs : List PrintJob} {rest : List AgentStateObservation}

lemma transition_spec (h : transition job call = .ok next) :
    canTransition job.state call.target = true ∧ next.toPrintJobFields = job.moved call := by
  simp only [transition, bind_ok, require_ok] at h
  obtain ⟨_, hcan, _, _, _, _, _, _, _, _, _, _, h⟩ := h
  refine ⟨hcan, ?_⟩
  split at h
  · obtain ⟨_, _, h⟩ := bind_ok.mp h
    exact create_ok.mp h
  · exact create_ok.mp h

lemma startedAt_of_accepted (h : job.state = .accepted) : job.startedAt = none := by
  have hvalid := job.valid
  simp only [PrintJobFields.check, bind_ok] at hvalid
  obtain ⟨_, _, _, _, _, _, _, _, _, _, _, _, _, _, hlife⟩ := hvalid
  rw [h] at hlife
  simp only [validateLifecycle, validateMarkers, bind_ok, require_ok, Bool.and_eq_true,
    Option.isNone_iff_eq_none] at hlife
  obtain ⟨_, ⟨hstarted, _⟩, _⟩ := hlife
  exact hstarted

def Observes (job : PrintJob) (o : AgentStateObservation) : Prop :=
  ManagedPrintJobSnapshot.ofAgent? job = some o.job

structure ObservedFields (job : PrintJob) (s : ManagedPrintJobSnapshot) : Prop where
  printJobId : s.printJobId = job.jobId
  origin : ManagedPrintJobOrigin.ofAgent? job.origin = some s.origin
  state : s.state = .ofAgent job.state
  stateVersion : s.stateVersion = job.stateVersion
  acceptedAt : s.acceptedAt = job.acceptedAt
  startedAt : s.startedAt = job.startedAt
  expiresAt : s.expiresAt = job.expiresAt

lemma Observes.fields (h : Observes job o) : ObservedFields job o.job := by
  simp only [Observes, ManagedPrintJobSnapshot.ofAgent?, Option.bind_eq_bind,
    Option.bind_eq_some_iff, Option.some.injEq] at h
  obtain ⟨_, _, _, _, origin, horigin, _, _, hjob⟩ := h
  rw [← hjob]
  exact ⟨rfl, horigin, rfl, rfl, rfl, rfl, rfl⟩

lemma ofAgent_ne_accepted {current target : Agent.PrintJobState}
    (h : canTransition current target = true) : PrintJobState.ofAgent target ≠ .accepted := by
  cases current <;> cases target <;> revert h <;> decide

lemma isTerminal_of_canTransition {current target : Agent.PrintJobState}
    (h : canTransition current target = true) :
    (PrintJobState.ofAgent current).isTerminal = true ↔ current = .outcomeUnknown := by
  cases current <;> cases target <;> revert h <;> decide

lemma startedAt_moved (hcan : canTransition job.state call.target = true)
    (hstarted : job.startedAt.isSome = true) : (job.moved call).startedAt = job.startedAt := by
  by_cases htarget : call.target = .inProgress
  · have hstate : job.state = .accepted := by
      rw [htarget] at hcan
      cases hs : job.state <;> rw [hs] at hcan <;> revert hcan <;> decide
    rw [startedAt_of_accepted hstate] at hstarted
    cases hstarted
  · simp [PrintJob.moved, htarget]

structure Succeeds (o o' : AgentStateObservation) : Prop where
  printJobId : o.job.printJobId = o'.job.printJobId
  acceptedAt : o.job.acceptedAt = o'.job.acceptedAt
  expiresAt : o.job.expiresAt = o'.job.expiresAt
  origin : o.job.origin = o'.job.origin
  stateVersion : o.job.stateVersion < o'.job.stateVersion
  state : o'.job.state ≠ .accepted
  startedAt : o.job.startedAt.isSome = true → o.job.startedAt = o'.job.startedAt
  sequence : o.durableStateSequence < o'.durableStateSequence

lemma transition_succeeds (h : transition job call = .ok next) (ho : Observes job o)
    (ho' : Observes next o') (hseq : o.durableStateSequence < o'.durableStateSequence) :
    Succeeds o o' := by
  obtain ⟨hcan, hnext⟩ := transition_spec h
  have old := ho.fields
  have new := ho'.fields
  constructor
  · simp [old.printJobId, new.printJobId, hnext, PrintJob.moved]
  · simp [old.acceptedAt, new.acceptedAt, hnext, PrintJob.moved]
  · simp [old.expiresAt, new.expiresAt, hnext, PrintJob.moved]
  · have hsame := new.origin
    rw [hnext] at hsame
    exact Option.some.inj (old.origin.symm.trans hsame)
  · simp [old.stateVersion, new.stateVersion, hnext, PrintJob.moved]
  · rw [new.state, hnext]
    exact ofAgent_ne_accepted hcan
  · intro hsome
    rw [old.startedAt] at hsome
    rw [old.startedAt, new.startedAt, hnext, startedAt_moved hcan hsome]
  · exact hseq

lemma Succeeds.reconcileVersion (h : Succeeds o o') :
    reconcileVersion o o' = .ok true ↔ ¬o.job.state.isTerminal = true := by
  have hmeta : ¬(o.job.printJobId ≠ o'.job.printJobId ∨ o.job.acceptedAt ≠ o'.job.acceptedAt ∨
      o.job.expiresAt ≠ o'.job.expiresAt ∨ o.job.origin ≠ o'.job.origin) := by
    simp [h.printJobId, h.acceptedAt, h.expiresAt, h.origin]
  have hversion := h.stateVersion
  have hlater : ¬o'.job.stateVersion < o.job.stateVersion := by omega
  have hother : ¬o'.job.stateVersion = o.job.stateVersion := by omega
  have hstarted : ¬(o.job.startedAt.isSome = true ∧ o.job.startedAt ≠ o'.job.startedAt) :=
    fun hne => hne.2 (h.startedAt hne.1)
  have hsequence := h.sequence
  have hnotle : ¬o'.durableStateSequence ≤ o.durableStateSequence := by omega
  simp only [Controller.reconcileVersion, hmeta, hlater, hother, h.state, hstarted, hnotle, or_false,
    if_false]
  by_cases hterminal : o.job.state.isTerminal = true
  · simp [hterminal, invalidState]
  · simp [hterminal]

lemma reconcileVersion_transition (h : transition job call = .ok next) (ho : Observes job o)
    (ho' : Observes next o') (hseq : o.durableStateSequence < o'.durableStateSequence) :
    reconcileVersion o o' = .ok true ↔ job.state ≠ .outcomeUnknown := by
  have hterminal := isTerminal_of_canTransition (transition_spec h).1
  rw [← ho.fields.state] at hterminal
  rw [(transition_succeeds h ho ho' hseq).reconcileVersion, hterminal]

lemma transitionAll_states (h : transitionAll job calls = .ok jobs) :
    jobs.map (·.state) = calls.map (·.target) := by
  induction calls generalizing job jobs with
  | nil =>
    rw [transitionAll, pure_ok] at h
    rw [← h]
    rfl
  | cons call calls ih =>
    simp only [transitionAll, bind_ok, pure_ok] at h
    obtain ⟨next, hnext, rest, hrest, rfl⟩ := h
    rw [List.map_cons, List.map_cons, ih hrest, (transition_spec hnext).2]
    rfl

/-- The Controller takes every state of a history exactly when no state follows
`outcome_unknown`. -/
lemma chain_iff (hrun : transitionAll job calls = .ok jobs)
    (hobs : List.Forall₂ Observes (job :: jobs) (first :: rest))
    (hseq : (first :: rest).IsChain (fun a b => a.durableStateSequence < b.durableStateSequence)) :
    (first :: rest).IsChain (fun a b => reconcileVersion a b = .ok true) ↔
      ∀ j ∈ (job :: jobs).dropLast, j.state ≠ .outcomeUnknown := by
  induction calls generalizing job jobs first rest with
  | nil =>
    rw [transitionAll, pure_ok] at hrun
    subst hrun
    rw [List.forall₂_cons, List.forall₂_nil_left_iff] at hobs
    rw [hobs.2]
    simp
  | cons call calls ih =>
    simp only [transitionAll, bind_ok, pure_ok] at hrun
    obtain ⟨next, hnext, later, hlater, rfl⟩ := hrun
    obtain ⟨hfirst, hobs⟩ := List.forall₂_cons.mp hobs
    obtain ⟨second, rest, hsecond, hrest, rfl⟩ := List.forall₂_cons_left_iff.mp hobs
    rw [List.isChain_cons_cons] at hseq ⊢
    rw [reconcileVersion_transition hnext hfirst hsecond hseq.1,
      ih hlater (.cons hsecond hrest) hseq.2, List.dropLast_cons_cons, List.forall_mem_cons]

lemma projectAll_of_chain (h : (first :: rest).IsChain (fun a b => reconcileVersion a b = .ok true)) :
    projectAll first rest = .ok ((first :: rest).getLast (by simp)) := by
  induction rest generalizing first with
  | nil => rfl
  | cons second rest ih =>
    rw [List.isChain_cons_cons] at h
    simp only [projectAll, h.1, bind_ok]
    exact ⟨true, rfl, ih h.2⟩

lemma lifecycle_taken (hrun : transitionAll job calls = .ok jobs)
    (haccepted : job.state = .accepted) (hobs : List.Forall₂ Observes (job :: jobs) (first :: rest))
    (hseq : (first :: rest).IsChain (fun a b => a.durableStateSequence < b.durableStateSequence)) :
    (first :: rest).IsChain (fun a b => reconcileVersion a b = .ok true) ↔
      ∀ call ∈ calls.dropLast, call.target ≠ .outcomeUnknown := by
  have hstates := transitionAll_states hrun
  have hjobs : (∀ j ∈ jobs.dropLast, j.state ≠ .outcomeUnknown) ↔
      ∀ call ∈ calls.dropLast, call.target ≠ .outcomeUnknown := by
    rw [← List.forall_mem_map (f := fun j : PrintJob => j.state)
        (P := fun s => s ≠ Agent.PrintJobState.outcomeUnknown),
      ← List.forall_mem_map (f := fun c : TransitionCall => c.target)
        (P := fun s => s ≠ Agent.PrintJobState.outcomeUnknown),
      List.map_dropLast, List.map_dropLast, hstates]
  rw [chain_iff hrun hobs hseq, ← hjobs]
  cases jobs with
  | nil => simp
  | cons => simp [haccepted]

/-- A job history is taken in full exactly when no transition leaves `outcome_unknown`. -/
theorem lifecycle_taken_iff (job : PrintJob) (haccepted : job.state = .accepted)
    (calls : List TransitionCall) (jobs : List PrintJob)
    (hrun : transitionAll job calls = .ok jobs) (first : AgentStateObservation)
    (rest : List AgentStateObservation)
    (hobs : List.Forall₂ Observes (job :: jobs) (first :: rest))
    (hseq : (first :: rest).IsChain (fun a b => a.durableStateSequence < b.durableStateSequence)) :
    ((first :: rest).IsChain (fun a b => reconcileVersion a b = .ok true) ∧
        projectAll first rest = .ok ((first :: rest).getLast (by simp))) ↔
      ∀ call ∈ calls.dropLast, call.target ≠ .outcomeUnknown := by
  rw [← lifecycle_taken hrun haccepted hobs hseq]
  exact ⟨fun h => h.1, fun h => ⟨h, projectAll_of_chain h⟩⟩

def sampleOrigin : ReportPrintOriginFields :=
  ⟨"org_example", "site_example", "production", "7", "binding-1", "manual",
    "sale.action_report_saleorder", "sale.order", ["42"], none, 0⟩

def sampleJob : PrintJob where
  jobId := "pj_1"
  intentId := "pi_v1_1"
  deviceId := "dev_printer"
  origin := .report sampleOrigin (by decide +kernel)
  state := .accepted
  stateVersion := 1
  acceptedAt := 0
  expiresAt := 300000000
  retryable := false
  contractVersion := "v1"
  managedWorkId := some "mw_1"
  startedAt := none
  terminalAt := none
  errorCode := none
  messageKey := none
  confirmationEvidence := none
  valid := by decide +kernel

def startCall : TransitionCall :=
  ⟨.inProgress, 1, some ⟨"marker-1", "pj_1", 1, 1⟩, none, none, none, none⟩

def unknownCall : TransitionCall :=
  ⟨.outcomeUnknown, 2, none, none, some "device_timeout", some "print.device_timeout", none⟩

def confirmCall : TransitionCall := ⟨.outputConfirmed, 3, none, some .device, none, none, none⟩

def sampleJobs (calls : List TransitionCall) : List PrintJob :=
  (transitionAll sampleJob calls).toOption.getD []

def observedStart : AgentStateObservation :=
  sampleObservation 2 .inProgress (some 1) none none none none

def observedUnknown : AgentStateObservation :=
  sampleObservation 3 .outcomeUnknown (some 1) (some 2) (some "device_timeout")
    (some "print.device_timeout") none

def observedConfirmed (version : Nat) : AgentStateObservation :=
  sampleObservation version .outputConfirmed (some 1) (some 3) none none (some .device)

instance (job : PrintJob) (o : AgentStateObservation) : Decidable (Observes job o) :=
  inferInstanceAs (Decidable (_ = _))

theorem confirmed_history_taken :
    projectAll observedAccepted [observedStart, observedConfirmed 3] =
      .ok (observedConfirmed 3) :=
  ((lifecycle_taken_iff sampleJob rfl [startCall, confirmCall] (sampleJobs [startCall, confirmCall])
    (by decide +kernel) observedAccepted [observedStart, observedConfirmed 3] (by decide +kernel)
    (by decide +kernel)).mpr (by decide +kernel)).2

theorem improved_outcome_refused :
    transitionAll sampleJob [startCall, unknownCall, confirmCall] =
        .ok (sampleJobs [startCall, unknownCall, confirmCall]) ∧
      List.Forall₂ Observes (sampleJob :: sampleJobs [startCall, unknownCall, confirmCall])
        [observedAccepted, observedStart, observedUnknown, observedConfirmed 4] ∧
      reconcileVersion observedUnknown (observedConfirmed 4) =
        .error (.conflict "Agent State conflicts with the recorded Print Job lifecycle") ∧
      projectAll observedAccepted [observedStart, observedUnknown, observedConfirmed 4] =
        .error (.conflict "Agent State conflicts with the recorded Print Job lifecycle") := by
  refine ⟨?_, ?_, ?_, ?_⟩ <;> decide +kernel

end Inari.Controller
