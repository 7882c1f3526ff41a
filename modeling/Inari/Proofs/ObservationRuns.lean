import Inari.Proofs.JobLifecycle
import Inari.Proofs.WorkLifecycle

/-!
# The projection of Print Job observations

A Managed Work shows the Print Job of the highest version that was recorded, in whatever order.
-/

namespace Inari.Controller

open Lib Agent

variable {tools : WireTools} {verified : SignedAgentStateObservation → Prop} {db db' : Controller.Db}
  {w w' : ManagedWorkRow}

variable {incoming o o' : AgentStateObservation} {history : List AgentStateObservation}

lemma reconcileVersion_ok {current : AgentStateObservation} {replace : Bool}
    (h : reconcileVersion current incoming = .ok replace) :
    current.job.printJobId = incoming.job.printJobId ∧
      (incoming.job.stateVersion < current.job.stateVersion ∧ replace = false ∨
        current.job = incoming.job ∨
        current.job.stateVersion < incoming.job.stateVersion ∧
          current.job.state.isTerminal = false ∧ replace = true) := by
  simp only [reconcileVersion, invalidState] at h
  split_ifs at h with hmeta hlower hequal hsame hlife <;> push Not at hmeta
  · cases h
    exact ⟨hmeta.1, .inl ⟨hlower, rfl⟩⟩
  · exact ⟨hmeta.1, .inr (.inl (not_not.mp hsame))⟩
  · cases h
    push Not at hlife
    exact ⟨hmeta.1, .inr (.inr ⟨by omega, by simpa using hlife.1, rfl⟩)⟩

structure Advances (w w' : ManagedWorkRow) : Prop where
  printJobId : ∀ id, w.printJobId = some id → w'.printJobId = some id
  observation : ∀ s, w.printJobObservation = some s → ∃ s', w'.printJobObservation = some s' ∧
    s.observation.job.stateVersion ≤ s'.observation.job.stateVersion ∧
    (s.observation.job.state.isTerminal = true → s'.observation.job = s.observation.job)

lemma Advances.refl (w : ManagedWorkRow) : Advances w w :=
  ⟨fun _ h => h, fun s h => ⟨s, h, le_rfl, fun _ => rfl⟩⟩

lemma Advances.trans {w₁ w₂ w₃ : ManagedWorkRow} (h : Advances w₁ w₂) (h' : Advances w₂ w₃) :
    Advances w₁ w₃ where
  printJobId id hid := h'.printJobId id (h.printJobId id hid)
  observation s hs := by
    obtain ⟨s₂, hs₂, hle, hsame⟩ := h.observation s hs
    obtain ⟨s₃, hs₃, hle', hsame'⟩ := h'.observation s₂ hs₂
    refine ⟨s₃, hs₃, hle.trans hle', fun hterminal => ?_⟩
    have hjob := hsame hterminal
    rw [← hjob] at hterminal
    exact (hsame' hterminal).trans hjob

lemma swept_observation (w : ManagedWorkRow) (now : Instant) :
    (w.swept now).printJobId = w.printJobId ∧
      (w.swept now).printJobObservation = w.printJobObservation := by
  unfold ManagedWorkRow.swept
  split <;> exact ⟨rfl, rfl⟩

lemma WorkMove.advances (h : WorkMove verified w w') : Advances w w' := by
  cases h with
  | same => exact .refl w
  | swept now =>
    obtain ⟨hid, hobservation⟩ := swept_observation w now
    exact ⟨fun id h => hid.trans h, fun s h => ⟨s, hobservation.trans h, le_rfl, fun _ => rfl⟩⟩
  | observed signed now _ hidentity hreplace =>
    constructor
    · intro id hid
      simp only [validateWorkIdentity, require_ok, Bool.and_eq_true, hid, Option.all_some,
        beq_iff_eq] at hidentity
      simp [ManagedWorkRow.observed, hidentity]
    · intro s hs
      rw [replacesCurrent, hs] at hreplace
      obtain ⟨_, ⟨_, hfalse⟩ | hjob | ⟨hlt, hopen, _⟩⟩ := reconcileVersion_ok hreplace
      · cases hfalse
      · exact ⟨signed, rfl, by rw [hjob], fun _ => hjob.symm⟩
      · exact ⟨signed, rfl, hlt.le, fun hterminal => by simp [hopen] at hterminal⟩

lemma WorkMoves.advances (h : WorkMoves verified w w') : Advances w w' := by
  induction h with
  | refl => exact .refl w
  | tail _ hmove ih => exact ih.trans hmove.advances

lemma storeObservation_rows {observations observations' : Table observationSpec}
    {row : ObservationRow} (h : storeObservation observations row = .ok observations') :
    observations.rows <+: observations'.rows ∧
      (∃ o ∈ observations'.rows, o.managedWorkId = row.managedWorkId ∧
        o.observation = row.observation) ∧
      ∀ o ∈ observations'.rows, o ∈ observations.rows ∨ o = row := by
  unfold storeObservation at h
  split at h
  · rename_i stored hstored
    simp only [bind_ok, require_ok, pure_ok, Bool.and_eq_true, beq_iff_eq] at h
    obtain ⟨_, ⟨⟨_, hwork⟩, hobservation⟩, rfl⟩ := h
    exact ⟨List.prefix_rfl, ⟨stored, (Table.first_spec hstored).1, hwork, hobservation⟩,
      fun o ho => .inl ho⟩
  · have hrows := Table.insert_rows h
    rw [hrows]
    refine ⟨List.prefix_append _ _, ⟨row, by simp, rfl, rfl⟩, fun o ho => ?_⟩
    rcases List.mem_append.mp ho with ho | ho
    · exact .inl ho
    · exact .inr (List.mem_singleton.mp ho)

lemma Write.observations (h : Write tools verified db db') :
    db.observations.rows <+: db'.observations.rows := by
  have hsame : db'.observations = db.observations →
      db.observations.rows <+: db'.observations.rows := fun h => h ▸ List.prefix_rfl
  cases h with
  | frame _ _ _ hobservations | inline _ _ _ _ _ _ _ _ _ _ _ _ hobservations
  | managed _ _ _ _ _ _ _ _ _ _ _ _ _ _ hobservations | sweep _ _ _ _ _ _ hobservations =>
    exact hsame hobservations
  | observe _ _ _ _ _ _ _ _ _ _ _ _ hobservations => exact (storeObservation_rows hobservations).1

lemma Writes.observations (h : Writes tools verified db db') :
    db.observations.rows <+: db'.observations.rows := by
  induction h with
  | refl => exact List.prefix_rfl
  | tail _ hlast ih => exact ih.trans hlast.observations

lemma after_observations (tools : Tools) (ts : List Transaction) (db : Controller.Db) :
    db.observations.rows <+: (after tools db ts).observations.rows := by
  induction ts generalizing db with
  | nil => exact List.prefix_rfl
  | cons t ts ih => exact (transact_writes tools db t).observations.trans (ih _)

/-- Each Managed Work shows a recorded observation, and none of a later version is recorded. -/
structure ProjectionInv (db : Controller.Db) : Prop where
  current : ∀ w ∈ db.works.rows, ∀ s, w.printJobObservation = some s →
    ∃ o ∈ db.observations.rows, o.managedWorkId = w.managedWorkId ∧ o.observation = s
  highest : ∀ o ∈ db.observations.rows, ∃ w ∈ db.works.rows, w.managedWorkId = o.managedWorkId ∧
    ∃ s, w.printJobObservation = some s ∧
      o.observation.observation.job.stateVersion ≤ s.observation.job.stateVersion

lemma projectionInv_empty : ProjectionInv {} := by
  constructor <;> simp

lemma ProjectionInv.frame (hinv : ProjectionInv db)
    (hobservations : db'.observations = db.observations)
    (hkept : ∀ w ∈ db.works.rows, ∃ w' ∈ db'.works.rows, w'.managedWorkId = w.managedWorkId ∧
      w'.printJobObservation = w.printJobObservation)
    (hback : ∀ w' ∈ db'.works.rows, w'.printJobObservation ≠ none →
      ∃ w ∈ db.works.rows, w'.managedWorkId = w.managedWorkId ∧
        w'.printJobObservation = w.printJobObservation) : ProjectionInv db' := by
  constructor
  · intro w' hw' s hs
    obtain ⟨w, hw, hid, hsame⟩ := hback w' hw' (by simp [hs])
    rw [hobservations, hid]
    exact hinv.current w hw s (hsame ▸ hs)
  · rw [hobservations]
    intro o ho
    obtain ⟨w, hw, hid, s, hs, hle⟩ := hinv.highest o ho
    obtain ⟨w', hw', hid', hsame⟩ := hkept w hw
    exact ⟨w', hw', hid'.trans hid, s, hsame.trans hs, hle⟩

lemma replacesCurrent_highest {replace : Bool} (h : replacesCurrent w incoming = .ok replace)
    {s : SignedAgentStateObservation} (hs : w.printJobObservation = some s) :
    (replace = true → s.observation.job.stateVersion ≤ incoming.job.stateVersion) ∧
      (replace = false → incoming.job.stateVersion ≤ s.observation.job.stateVersion) := by
  rw [replacesCurrent, hs] at h
  obtain ⟨_, ⟨hlt, hreplace⟩ | hjob | ⟨hlt, _, hreplace⟩⟩ := reconcileVersion_ok h
  · simp [hreplace, hlt.le]
  · simp [hjob]
  · simp [hreplace, hlt.le]

theorem ProjectionInv.write (hinv : ProjectionInv db) (h : Write tools verified db db') :
    ProjectionInv db' := by
  cases h with
  | frame _ hworks _ hobservations | inline _ _ _ _ _ _ _ _ _ _ hworks _ hobservations =>
    exact hinv.frame hobservations (fun w hw => ⟨w, hworks ▸ hw, rfl, rfl⟩)
      (fun w hw _ => ⟨w, hworks ▸ hw, rfl, rfl⟩)
  | managed _ work _ _ _ _ _ _ hfresh _ _ _ hworks _ hobservations =>
    refine hinv.frame hobservations (fun w hw => ⟨w, ?_, rfl, rfl⟩) (fun w hw hsome => ⟨w, ?_, rfl, rfl⟩)
    · rw [hworks]
      exact List.mem_append_left _ hw
    · rw [hworks] at hw
      refine (List.mem_append.mp hw).resolve_right (fun hnew => hsome ?_)
      rw [List.mem_singleton.mp hnew]
      exact hfresh.printJobObservation
  | sweep ids now _ _ hworks _ hobservations =>
    have hswept : ∀ w : ManagedWorkRow, (w.swept now).managedWorkId = w.managedWorkId ∧
        (w.swept now).printJobObservation = w.printJobObservation :=
      fun w => ⟨swept_managedWorkId w now, (swept_observation w now).2⟩
    refine hinv.frame hobservations (fun w hw => ?_) (fun w' hw' _ => ?_)
    · exact Table.exists_updated hworks hw (fun _ => ⟨rfl, rfl⟩) (fun _ => hswept w)
    · rcases Table.updated_cases hworks hw' with ⟨hw, -⟩ | ⟨w, hw, -, rfl⟩
      · exact ⟨w', hw, rfl, rfl⟩
      · exact ⟨w, hw, hswept w⟩
  | observe agentId work signed replace now hmem _ _ hreplace _ hworks _ hobservations =>
    obtain ⟨hgrows, hstored, hrows⟩ := storeObservation_rows hobservations
    constructor
    · intro w' hw' s hs
      rcases Table.updated_cases hworks hw' with ⟨hw, -⟩ | ⟨w, -, -, rfl⟩
      · obtain ⟨o, ho, hid, hsame⟩ := hinv.current w' hw s hs
        exact ⟨o, hgrows.subset ho, hid, hsame⟩
      · -- the Managed Work shows the observation that was just stored
        simp only [ManagedWorkRow.observed, Option.some.injEq] at hs
        rw [← hs]
        exact hstored
    · intro o ho
      rcases hrows o ho with hold | rfl
      · obtain ⟨w, hw, hid, s, hs, hle⟩ := hinv.highest o hold
        refine Table.exists_updated hworks hw (fun _ => ⟨hid, s, hs, hle⟩) (fun htaken => ?_)
        simp only [Bool.and_eq_true, beq_iff_eq] at htaken
        obtain rfl := work_unique hw hmem htaken.2
        exact ⟨hid, signed, rfl, hle.trans ((replacesCurrent_highest hreplace hs).1 htaken.1)⟩
      · refine Table.exists_updated hworks hmem (fun hkept => ?_)
          (fun _ => by simp [ManagedWorkRow.observed])
        obtain rfl : replace = false := by simpa using hkept
        obtain ⟨s, hs⟩ := Option.ne_none_iff_exists'.mp (replacesCurrent_false hreplace)
        simpa [hs] using (replacesCurrent_highest hreplace hs).2 rfl

lemma after_projectionInv (tools : Tools) (ts : List Transaction) :
    ProjectionInv (after tools {} ts) :=
  after_invariant (fun _ _ _ hinv hwrite => hinv.write hwrite) ts projectionInv_empty

/-- The observations of one job, none after `outcome_unknown`. -/
structure HonestHistory (history : List AgentStateObservation) : Prop where
  run : ∃ (job : PrintJob) (calls : List TransitionCall) (jobs : List PrintJob),
    job.state = .accepted ∧ transitionAll job calls = .ok jobs ∧
      (∀ call ∈ calls.dropLast, call.target ≠ .outcomeUnknown) ∧
      List.Forall₂ Observes (job :: jobs) history
  sequences : history.IsChain (fun a b => a.durableStateSequence < b.durableStateSequence)

def TakenFrom (history : List AgentStateObservation) (o : AgentStateObservation) : Prop :=
  ∃ h ∈ history, o.job = h.job ∧ o.durableStateSequence = h.durableStateSequence

def Supersedes (o o' : AgentStateObservation) : Prop :=
  Succeeds o o' ∧ ¬o.job.state.isTerminal = true

instance : Trans Supersedes Supersedes Supersedes where
  trans := by
    rintro a b c ⟨hab, hopen⟩ ⟨hbc, _⟩
    refine ⟨⟨hab.printJobId.trans hbc.printJobId, hab.acceptedAt.trans hbc.acceptedAt,
      hab.expiresAt.trans hbc.expiresAt, hab.origin.trans hbc.origin,
      hab.stateVersion.trans hbc.stateVersion, hbc.state, fun hsome => ?_,
      hab.sequence.trans hbc.sequence⟩, hopen⟩
    have hstarted := hab.startedAt hsome
    exact hstarted.trans (hbc.startedAt (hstarted ▸ hsome))

lemma chain_succeeds {job : PrintJob} {calls : List TransitionCall} {jobs : List PrintJob}
    (hrun : transitionAll job calls = .ok jobs) (hobs : List.Forall₂ Observes (job :: jobs) history)
    (hseq : history.IsChain (fun a b => a.durableStateSequence < b.durableStateSequence)) :
    history.IsChain Succeeds := by
  induction calls generalizing job jobs history with
  | nil =>
    rw [transitionAll, pure_ok] at hrun
    subst hrun
    obtain ⟨first, rest, _, hrest, rfl⟩ := List.forall₂_cons_left_iff.mp hobs
    rw [List.forall₂_nil_left_iff] at hrest
    rw [hrest]
    simp
  | cons call calls ih =>
    simp only [transitionAll, bind_ok, pure_ok] at hrun
    obtain ⟨next, hnext, later, hlater, rfl⟩ := hrun
    obtain ⟨first, rest, hfirst, hrest, rfl⟩ := List.forall₂_cons_left_iff.mp hobs
    obtain ⟨second, rest, hsecond, _, rfl⟩ := List.forall₂_cons_left_iff.mp hrest
    rw [List.isChain_cons_cons] at hseq ⊢
    exact ⟨transition_succeeds hnext hfirst hsecond hseq.1, ih hlater hrest hseq.2⟩

lemma HonestHistory.pairwise (h : HonestHistory history) : history.Pairwise Supersedes := by
  obtain ⟨⟨job, calls, jobs, haccepted, hrun, hopen, hobs⟩, hseq⟩ := h
  have hsucceeds := chain_succeeds hrun hobs hseq
  obtain ⟨first, rest, hfirst, hrest, rfl⟩ := List.forall₂_cons_left_iff.mp hobs
  have htaken := (lifecycle_taken hrun haccepted hobs hseq).mpr hopen
  rw [← List.isChain_iff_pairwise]
  rw [List.isChain_iff_getElem] at hsucceeds htaken ⊢
  exact fun i hi => ⟨hsucceeds i hi, (hsucceeds i hi).reconcileVersion.mp (htaken i hi)⟩

lemma HonestHistory.cases (h : HonestHistory history) {a b : AgentStateObservation}
    (ha : a ∈ history) (hb : b ∈ history) : a = b ∨ Supersedes a b ∨ Supersedes b a := by
  by_cases heq : a = b
  · exact .inl heq
  · have : Std.Symm (fun a b => Supersedes a b ∨ Supersedes b a) := ⟨fun _ _ => Or.symm⟩
    have hpairs : history.Pairwise (fun a b => Supersedes a b ∨ Supersedes b a) :=
      h.pairwise.imp .inl
    exact .inr (hpairs.forall ha hb heq)

lemma Succeeds.congr {a b : AgentStateObservation} (h : Succeeds a b) (ha : o.job = a.job)
    (hb : o'.job = b.job) (hsa : o.durableStateSequence = a.durableStateSequence)
    (hsb : o'.durableStateSequence = b.durableStateSequence) : Succeeds o o' := by
  obtain ⟨hid, haccepted, hexpires, horigin, hversion, hstate, hstarted, hsequence⟩ := h
  rw [← ha, ← hb] at hid haccepted hexpires horigin hversion hstarted
  rw [← hb] at hstate
  rw [← hsa, ← hsb] at hsequence
  exact ⟨hid, haccepted, hexpires, horigin, hversion, hstate, hstarted, hsequence⟩

lemma Succeeds.reconcileVersion_earlier (h : Succeeds o o') :
    Controller.reconcileVersion o' o = .ok false := by
  simp only [Controller.reconcileVersion, h.printJobId, h.acceptedAt, h.expiresAt, h.origin,
    h.stateVersion, ne_eq, not_true, or_false, if_false, if_true]

lemma HonestHistory.reconcileVersion (h : HonestHistory history) {current : AgentStateObservation}
    (hcurrent : TakenFrom history current) (hincoming : TakenFrom history incoming) :
    ∃ replace, Controller.reconcileVersion current incoming = .ok replace := by
  obtain ⟨a, ha, hja, hsa⟩ := hcurrent
  obtain ⟨b, hb, hjb, hsb⟩ := hincoming
  rcases h.cases ha hb with rfl | ⟨hlater, hopen⟩ | ⟨hearlier, _⟩
  · have hjob : current.job = incoming.job := hja.trans hjb.symm
    simp [Controller.reconcileVersion, hjob]
  · have hsucceeds : Succeeds current incoming := hlater.congr hja hjb hsa hsb
    exact ⟨true, hsucceeds.reconcileVersion.mpr (hja ▸ hopen)⟩
  · exact ⟨false, (hearlier.congr hjb hja hsb hsa).reconcileVersion_earlier⟩

lemma HonestHistory.job_of_version (h : HonestHistory history) (ho : TakenFrom history o)
    (ho' : TakenFrom history o') (hversion : o.job.stateVersion = o'.job.stateVersion) :
    o.job = o'.job := by
  obtain ⟨a, ha, hja, _⟩ := ho
  obtain ⟨b, hb, hjb, _⟩ := ho'
  rw [hja, hjb] at hversion ⊢
  rcases h.cases ha hb with rfl | ⟨hlater, _⟩ | ⟨hearlier, _⟩
  · rfl
  · exact absurd hversion hlater.stateVersion.ne
  · exact absurd hversion.symm hearlier.stateVersion.ne

lemma reconcileCurrent_stored {agentId : AgentId} {messageId : String} {occurredAt now : Instant}
    {event : RuntimeEvent} {commandId jobId : Option String} {signed : SignedAgentStateObservation}
    (h : reconcileCurrent db agentId messageId occurredAt event commandId jobId signed now =
      .ok db') :
    ∃ o ∈ db'.observations.rows, o.managedWorkId = signed.observation.job.managedWorkId ∧
      o.observation = signed := by
  simp only [reconcileCurrent, bind_ok, orRaise_ok] at h
  obtain ⟨_, _, _, _, dispatch, _, _, _, work, hwork, h⟩ := h
  simp only [projectObservation, bind_ok, pure_ok] at h
  obtain ⟨_, _, _, _, replace, _, observations, hobservations, works, _, commands, _, rfl⟩ := h
  have hid : work.managedWorkId = signed.observation.job.managedWorkId :=
    beq_iff_eq.mp (Table.first_spec hwork).2
  obtain ⟨o, ho, hwork', hsigned⟩ := (storeObservation_rows hobservations).2.1
  exact ⟨o, ho, hwork'.trans hid, hsigned⟩

/-- Versions do not decrease, terminal snapshots stay, a Print Job of an Agent belongs to one
Managed Work, and of an honest history the highest delivered version is shown. -/
theorem observation_projection (tools : Tools) (ts : List Transaction) :
    (∀ ts', ∀ w ∈ (after tools {} ts).works.rows,
      ∃ w' ∈ (after tools (after tools {} ts) ts').works.rows,
        w'.managedWorkId = w.managedWorkId ∧
        (∀ id, w.printJobId = some id → w'.printJobId = some id) ∧
        ∀ s, w.printJobObservation = some s → ∃ s', w'.printJobObservation = some s' ∧
          s.observation.job.stateVersion ≤ s'.observation.job.stateVersion ∧
          (s.observation.job.state.isTerminal = true → s'.observation.job = s.observation.job)) ∧
    (∀ w ∈ (after tools {} ts).works.rows, ∀ w' ∈ (after tools {} ts).works.rows, ∀ id,
      w.agentId = w'.agentId → w.printJobId = some id → w'.printJobId = some id → w = w') ∧
    (∀ ts', (after tools {} ts).observations.rows <+:
      (after tools (after tools {} ts) ts').observations.rows) ∧
    (∀ o ∈ (after tools {} ts).observations.rows, ∀ o' ∈ (after tools {} ts).observations.rows,
      o.envelopeId = o'.envelopeId → o = o') ∧
    (∀ agentId messageId occurredAt event commandId jobId signed now db',
      reconcileCurrent (after tools {} ts) agentId messageId occurredAt event commandId jobId signed
        now = .ok db' →
      ∃ o ∈ db'.observations.rows, o.managedWorkId = signed.observation.job.managedWorkId ∧
        o.observation = signed) ∧
    ∀ w ∈ (after tools {} ts).works.rows, ∀ history, HonestHistory history →
      (∀ o ∈ (after tools {} ts).observations.rows, o.managedWorkId = w.managedWorkId →
        TakenFrom history o.observation.observation) →
      (∀ incoming, TakenFrom history incoming → ∃ replace, replacesCurrent w incoming = .ok replace) ∧
      ∀ o ∈ (after tools {} ts).observations.rows, o.managedWorkId = w.managedWorkId →
        (∀ o' ∈ (after tools {} ts).observations.rows, o'.managedWorkId = w.managedWorkId →
          o'.observation.observation.job.stateVersion ≤
            o.observation.observation.job.stateVersion) →
        ∃ s, w.printJobObservation = some s ∧
          s.observation.job = o.observation.observation.job := by
  have hinv := after_projectionInv tools ts
  refine ⟨fun ts' w hw => ?_, fun w hw w' hw' id hagent hid hid' => ?_,
    fun ts' => after_observations tools ts' _, fun o ho o' ho' hid => ?_,
    fun _ _ _ _ _ _ _ _ _ h => reconcileCurrent_stored h,
    fun w hw history hhonest htaken => ⟨fun incoming hincoming => ?_, fun o ho hid hmax => ?_⟩⟩
  · obtain ⟨w', hw', hmoves⟩ := after_moves tools ts' hw
    have hadvances := hmoves.advances
    exact ⟨w', hw', managedWorkId_of_identity hmoves.identity.1, hadvances.printJobId,
      hadvances.observation⟩
  · exact (after tools {} ts).works.eq_of_key (u := workPrintJobKey) (k := (w.agentId, id))
      (by simp [workSpec]) hw hw' (by simp [workPrintJobKey, hid])
      (by simp [workPrintJobKey, hid', hagent])
  · exact (after tools {} ts).observations.eq_of_key (u := observationIdKey)
      (by simp [observationSpec]) ho ho' rfl (by simp [observationIdKey, hid])
  · cases hs : w.printJobObservation with
    | none => exact ⟨true, by rw [replacesCurrent, hs]⟩
    | some s =>
      obtain ⟨o, ho, hid, rfl⟩ := hinv.current w hw s hs
      rw [replacesCurrent, hs]
      exact hhonest.reconcileVersion (htaken o ho hid) hincoming
  · obtain ⟨v, hv, hidv, s, hs, hle⟩ := hinv.highest o ho
    obtain rfl : v = w := work_unique hv hw (hidv.trans hid)
    obtain ⟨shown, hshown, hids, rfl⟩ := hinv.current v hv s hs
    have hversion := (hmax shown hshown hids).antisymm hle
    exact ⟨_, hs, hhonest.job_of_version (htaken shown hshown hids) (htaken o ho hid) hversion⟩

def confirmedHistory : List AgentStateObservation :=
  [observedAccepted, observedStart, observedConfirmed 3]

/-- No observation of a printed job is refused after the first. -/
theorem confirmed_history_projected :
    HonestHistory confirmedHistory ∧
      ∀ w ∈ (after twinTools {} twinRun).works.rows, w.managedWorkId = sampleWork →
        ∀ o ∈ confirmedHistory, ∃ replace, replacesCurrent w o = .ok replace := by
  have hhonest : HonestHistory confirmedHistory :=
    ⟨⟨sampleJob, [startCall, confirmCall], sampleJobs [startCall, confirmCall], rfl,
      by decide +kernel, by decide, by decide +kernel⟩, by decide⟩
  have hseen : (after twinTools {} twinRun).observations.rows.all (fun o =>
      o.managedWorkId != sampleWork || o.observation.observation == observedAccepted) = true := by
    decide +kernel
  refine ⟨hhonest, fun w hw hid o ho => ?_⟩
  have hprojects := (observation_projection twinTools twinRun).2.2.2.2.2 w hw confirmedHistory hhonest
  refine (hprojects fun seen hmem hwork => ?_).1 o ⟨o, ho, rfl, rfl⟩
  have hfirst := List.all_eq_true.mp hseen seen hmem
  simp only [hwork.trans hid, bne_self_eq_false, Bool.false_or, beq_iff_eq] at hfirst
  exact ⟨observedAccepted, List.mem_cons_self, by rw [hfirst], by rw [hfirst]⟩

/-- Print Job ids are unique for each Agent only. -/
theorem print_job_id_of_two_agents :
    (after twinTools {} twinRun).works.rows.map
        (fun w => (w.managedWorkId.text, w.agentId.text, w.printJobId)) =
      [("mw_1", "agt_front_desk", some "pj_1"), ("mw_2", "agt_back_office", some "pj_1")] := by
  decide +kernel

end Inari.Controller
