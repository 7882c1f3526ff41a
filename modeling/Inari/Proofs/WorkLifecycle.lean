import Inari.Controller.Transactions
import Inari.Proofs.ControllerStore

/-!
# The lifecycle of Managed Work

A sweep takes the payload of Managed Work, a verified observation accepts it, and nothing else
changes it.
-/

namespace Inari.Controller

open Lib

inductive WorkMove (verified : SignedAgentStateObservation → Prop) (w : ManagedWorkRow) :
    ManagedWorkRow → Prop
  | same : WorkMove verified w w
  | swept (now : Instant) (hdue : w.due now = true) : WorkMove verified w (w.swept now)
  | observed (signed : SignedAgentStateObservation) (now : Instant) (hverified : verified signed)
      (hidentity : validateWorkIdentity w signed.observation = .ok ())
      (hreplace : replacesCurrent w signed.observation = .ok true) :
      WorkMove verified w (w.observed signed now)

abbrev WorkMoves (verified : SignedAgentStateObservation → Prop) :
    ManagedWorkRow → ManagedWorkRow → Prop :=
  Relation.ReflTransGen (WorkMove verified)

variable {tools : WireTools} {verified : SignedAgentStateObservation → Prop} {db db' : Db}
  {w w' : ManagedWorkRow}

lemma WorkMove.mono {verified' : SignedAgentStateObservation → Prop}
    (hmono : ∀ signed, verified signed → verified' signed) (h : WorkMove verified w w') :
    WorkMove verified' w w' := by
  cases h with
  | same => exact .same
  | swept now hdue => exact .swept now hdue
  | observed signed now hverified hidentity hreplace =>
    exact .observed signed now (hmono _ hverified) hidentity hreplace

lemma WorkMove.identity (h : WorkMove verified w w') :
    w'.identity = w.identity ∧ w'.agentId = w.agentId := by
  cases h with
  | same => exact ⟨rfl, rfl⟩
  | swept =>
    unfold ManagedWorkRow.swept
    split <;> exact ⟨rfl, rfl⟩
  | observed => exact ⟨rfl, rfl⟩

lemma WorkMoves.identity (h : WorkMoves verified w w') :
    w'.identity = w.identity ∧ w'.agentId = w.agentId := by
  induction h with
  | refl => exact ⟨rfl, rfl⟩
  | tail _ hmove ih => exact ⟨hmove.identity.1.trans ih.1, hmove.identity.2.trans ih.2⟩

lemma managedWorkId_of_identity (h : w'.identity = w.identity) :
    w'.managedWorkId = w.managedWorkId :=
  congrArg SubmissionIdentity.managedWorkId h

lemma Write.move (h : Write tools verified db db') (hw : w ∈ db.works.rows) :
    ∃ w' ∈ db'.works.rows, WorkMove verified w w' := by
  cases h with
  | frame _ hworks | inline _ _ _ _ _ _ _ _ _ _ hworks => exact ⟨w, hworks ▸ hw, .same⟩
  | managed _ _ _ _ _ _ _ _ _ _ _ _ hworks =>
    rw [hworks]
    exact ⟨w, List.mem_append_left _ hw, .same⟩
  | sweep ids now hdue _ hworks =>
    exact Table.exists_updated hworks hw (fun _ => .same) (fun hp => .swept now (hdue w hw hp))
  | observe agentId work signed replace now hmem hverified hidentity hreplace _ hworks =>
    refine Table.exists_updated hworks hw (fun _ => .same) (fun htaken => ?_)
    simp only [Bool.and_eq_true, beq_iff_eq] at htaken
    obtain rfl := work_unique hw hmem htaken.2
    exact .observed signed now hverified hidentity (htaken.1 ▸ hreplace)

lemma Writes.moves (h : Writes tools verified db db') (hw : w ∈ db.works.rows) :
    ∃ w' ∈ db'.works.rows, WorkMoves verified w w' := by
  induction h with
  | refl => exact ⟨w, hw, .refl⟩
  | tail _ hlast ih =>
    obtain ⟨w₁, hw₁, hmoves⟩ := ih
    obtain ⟨w₂, hw₂, hmove⟩ := hlast.move hw₁
    exact ⟨w₂, hw₂, hmoves.tail hmove⟩

def Transaction.Verifies (envelopes : StateEnvelopes) :
    Transaction → SignedAgentStateObservation → Prop
  | .request event => event.Verifies envelopes
  | .reconcileStateObservation fleet agentId publication _ =>
    VerifiedBy envelopes fleet agentId publication
  | _ => fun _ => False

def Transaction.Admits : Transaction → Prop
  | .request event => event.Admits
  | .admitManagedWork .. => True
  | _ => False

theorem transact_change (tools : Tools) (db : Db) (t : Transaction) :
    Change tools.wire t.Admits (t.Verifies tools.envelopes) db (transact tools db t) ∨
      ∃ fleet agentId key message inventoryOk now,
        t = .request (.publication fleet agentId key message inventoryOk now) ∧
        recordPublication tools.envelopes fleet db agentId key message inventoryOk now =
          .ok (transact tools db t) := by
  unfold transact
  split
  · rename_i db' hrun
    cases t with
    | request =>
      rcases run_change hrun with hchange | ⟨_, _, _, _, _, _, rfl⟩
      · exact .inl hchange
      · exact .inr ⟨_, _, _, _, _, _, rfl, hrun⟩
    | admitManagedWork =>
      obtain ⟨⟨_, result⟩, hadmitted, rfl⟩ := map_ok.mp hrun
      exact .inl (admitManagedWork_change trivial hadmitted)
    | replayManagedWork =>
      obtain ⟨_, _, rfl⟩ := map_ok.mp hrun
      exact .inl .none
    | expireManagedPayloads => exact .inl (.swept hrun)
    | managedPayload =>
      obtain ⟨_, _, rfl⟩ := map_ok.mp hrun
      exact .inl .none
    | reconcileStateObservation =>
      exact .inl (reconcileStateObservation_change _ _ hrun)
  · exact .inl .none

lemma transact_writes (tools : Tools) (db : Db) (t : Transaction) :
    Writes tools.wire (t.Verifies tools.envelopes) db (transact tools db t) := by
  rcases transact_change tools db t with hchange | ⟨_, _, _, _, _, _, rfl, hrecord⟩
  · exact .single hchange.write
  · exact recordPublication_writes hrecord

theorem after_invariant {tools : Tools} {I : Db → Prop}
    (hwrite : ∀ verified db db', I db → Write tools.wire verified db db' → I db')
    (ts : List Transaction) {db : Db} (hdb : I db) : I (after tools db ts) := by
  induction ts generalizing db with
  | nil => exact hdb
  | cons t ts ih => exact ih ((transact_writes tools db t).preserve (hwrite _) hdb)

lemma after_storeInv (tools : Tools) (ts : List Transaction) :
    StoreInv tools.wire (after tools {} ts) :=
  after_invariant (fun _ _ _ hinv hwrite => hinv.write hwrite) ts storeInv_empty

lemma after_moves (tools : Tools) (ts : List Transaction) {db : Db} (hw : w ∈ db.works.rows) :
    ∃ w' ∈ (after tools db ts).works.rows, WorkMoves (fun _ => True) w w' := by
  induction ts generalizing db w with
  | nil => exact ⟨w, hw, .refl⟩
  | cons t ts ih =>
    obtain ⟨w₁, hw₁, hfirst⟩ := (transact_writes tools db t).moves hw
    obtain ⟨w₂, hw₂, hrest⟩ := ih hw₁
    have hfirst' : WorkMoves (fun _ => True) w w₁ :=
      hfirst.lift id (fun _ _ h => h.mono (fun _ _ => trivial))
    exact ⟨w₂, hw₂, hfirst'.trans hrest⟩

lemma WorkMoves.of_mem {v : ManagedWorkRow} (h : WorkMoves verified w v) (hv : v ∈ db'.works.rows)
    (hw' : w' ∈ db'.works.rows) (hid : w'.managedWorkId = w.managedWorkId) :
    WorkMoves verified w w' := by
  have hsame : v = w' :=
    work_unique hv hw' ((managedWorkId_of_identity h.identity.1).trans hid.symm)
  exact hsame ▸ h

/-- Managed Work either waits for its Agent or has lost its payload. -/
def ManagedWorkRow.Settled (w : ManagedWorkRow) : Prop :=
  (w.state = .recoveryUncertain ∨ w.state = .accepted) ∧ w.payloadDeletedAt ≠ none

structure LifecycleInv (db : Db) : Prop where
  waits : ∀ w ∈ db.works.rows, w.state = .dispatching ∧ w.payloadDeletedAt = none ∨ w.Settled
  deleted : ∀ w ∈ db.works.rows, w.payloadDeletedAt ≠ none →
    ∀ p ∈ db.payloads.rows, p.managedWorkId ≠ w.managedWorkId
  named : ∀ w ∈ db.works.rows, ∃ c ∈ commandKeys db, c.command = .managedWork w.managedWorkId

lemma lifecycleInv_empty : LifecycleInv {} := by
  constructor <;> simp

lemma payloadDeletedAt_of_due {now : Instant} (h : w.due now = true) :
    w.payloadDeletedAt = none := by
  simp only [ManagedWorkRow.due, Bool.and_eq_true, Option.isNone_iff_eq_none] at h
  exact h.1

lemma swept_settled {now : Instant} (hdue : w.due now = true)
    (h : w.state = .dispatching ∧ w.payloadDeletedAt = none ∨ w.Settled) :
    (w.swept now).Settled := by
  rcases h with ⟨hstate, _⟩ | ⟨_, hsome⟩
  · simp [ManagedWorkRow.Settled, ManagedWorkRow.swept, hstate]
  · exact absurd (payloadDeletedAt_of_due hdue) hsome

lemma observed_settled (w : ManagedWorkRow) (signed : SignedAgentStateObservation)
    (now : Instant) : (w.observed signed now).Settled := by
  refine ⟨.inr rfl, ?_⟩
  cases h : w.payloadDeletedAt <;> simp [ManagedWorkRow.observed, h]

lemma LifecycleInv.frame (hinv : LifecycleInv db) {keys : List CommandKey}
    (hkeys : commandKeys db' = commandKeys db ++ keys) (hworks : db'.works.rows = db.works.rows)
    (hpayloads : db'.payloads.rows = db.payloads.rows) : LifecycleInv db' where
  waits := by rw [hworks]; exact hinv.waits
  deleted := by rw [hworks, hpayloads]; exact hinv.deleted
  named := by
    rw [hworks, hkeys]
    intro w hw
    obtain ⟨c, hc, hnames⟩ := hinv.named w hw
    exact ⟨c, List.mem_append_left _ hc, hnames⟩

lemma LifecycleInv.settle (hinv : LifecycleInv db) {p : ManagedWorkRow → Bool}
    {q : ManagedPayloadRow → Bool} {f : ManagedWorkRow → ManagedWorkRow}
    (hkeys : commandKeys db' = commandKeys db)
    (hworks : db'.works.rows = Table.updated db.works.rows p f)
    (hpayloads : db'.payloads.rows = db.payloads.rows.filter (fun r => !q r))
    (hf : ∀ w ∈ db.works.rows, p w = true →
      (f w).managedWorkId = w.managedWorkId ∧ (f w).Settled)
    (hq : ∀ w ∈ db.works.rows, p w = true → ∀ r, r.managedWorkId = w.managedWorkId → q r = true) :
    LifecycleInv db' := by
  have hcases : ∀ w' ∈ db'.works.rows, ∃ w ∈ db.works.rows,
      w'.managedWorkId = w.managedWorkId ∧ (w' = w ∨ p w = true ∧ w'.Settled) := by
    intro w' hw'
    rcases Table.updated_cases hworks hw' with ⟨hw, -⟩ | ⟨w, hw, hp, rfl⟩
    · exact ⟨w', hw, rfl, .inl rfl⟩
    · exact ⟨w, hw, (hf w hw hp).1, .inr ⟨hp, (hf w hw hp).2⟩⟩
  constructor
  · intro w' hw'
    obtain ⟨w, hw, _, rfl | ⟨_, hsettled⟩⟩ := hcases w' hw'
    · exact hinv.waits w' hw
    · exact .inr hsettled
  · intro w' hw' hdeleted r hr hid
    rw [hpayloads, List.mem_filter] at hr
    obtain ⟨w, hw, hsame, rfl | ⟨hp, _⟩⟩ := hcases w' hw'
    · exact hinv.deleted w' hw hdeleted r hr.1 hid
    · rw [hq w hw hp r (hid.trans hsame)] at hr
      exact absurd hr.2 (by simp)
  · intro w' hw'
    obtain ⟨w, hw, hsame, _⟩ := hcases w' hw'
    rw [hkeys, hsame]
    exact hinv.named w hw

theorem LifecycleInv.write (hinv : LifecycleInv db) (h : Write tools verified db db') :
    LifecycleInv db' := by
  cases h with
  | frame hkeys hworks hpayloads =>
    have hnone : commandKeys db' = commandKeys db ++ [] := by rw [hkeys, List.append_nil]
    exact hinv.frame hnone hworks hpayloads
  | inline key _ _ _ _ _ _ _ _ hkeys hworks hpayloads => exact hinv.frame hkeys hworks hpayloads
  | managed key work payload hcommand _ hpayload _ _ hfresh _ _ hkeys hworks hpayloads =>
    constructor
    · rw [hworks]
      intro w hw
      rcases List.mem_append.mp hw with hw | hw
      · exact hinv.waits w hw
      · rw [List.mem_singleton.mp hw]
        exact .inl ⟨hfresh.state, hfresh.payloadDeletedAt⟩
    · intro w hw hdeleted p hp hid
      rw [hpayloads] at hp
      have hnew : w ≠ work := fun heq => hdeleted (heq ▸ hfresh.payloadDeletedAt)
      rcases List.mem_append.mp hp with hp | hp
      · have hold : w ∈ db.works.rows := by
          rw [hworks] at hw
          exact (List.mem_append.mp hw).resolve_right (fun h => hnew (List.mem_singleton.mp h))
        exact hinv.deleted w hold hdeleted p hp hid
      · -- the new payload is that of the new work
        rw [List.mem_singleton.mp hp, hpayload] at hid
        have hwork : work ∈ db'.works.rows := by rw [hworks]; simp
        exact hnew (work_unique hwork hw hid).symm
    · rw [hworks, hkeys]
      intro w hw
      rcases List.mem_append.mp hw with hw | hw
      · obtain ⟨c, hc, hnames⟩ := hinv.named w hw
        exact ⟨c, List.mem_append_left _ hc, hnames⟩
      · rw [List.mem_singleton.mp hw]
        exact ⟨key, by simp, hcommand⟩
  | sweep ids now hdue hkeys hworks hpayloads =>
    refine hinv.settle hkeys hworks hpayloads ?_ ?_
    · intro w hw htaken
      exact ⟨swept_managedWorkId w now, swept_settled (hdue w hw htaken) (hinv.waits w hw)⟩
    · intro w _ htaken r hid
      rw [hid]
      exact htaken
  | observe agentId work signed replace now hmem _ _ _ hkeys hworks hpayloads =>
    refine hinv.settle hkeys hworks hpayloads ?_ ?_
    · intro w hw htaken
      simp only [Bool.and_eq_true, beq_iff_eq] at htaken
      exact ⟨htaken.2.symm, observed_settled work signed now⟩
    · intro w _ htaken r hid
      simp only [Bool.and_eq_true, beq_iff_eq] at htaken
      rw [hid, htaken.2, beq_iff_eq]

lemma after_lifecycleInv (tools : Tools) (ts : List Transaction) :
    LifecycleInv (after tools {} ts) :=
  after_invariant (fun _ _ _ hinv hwrite => hinv.write hwrite) ts lifecycleInv_empty

lemma WorkMove.state (h : WorkMove verified w w')
    (hwaits : w'.state = .pendingAgent ∨ w'.state = .dispatching) : w'.state = w.state := by
  cases h with
  | same => rfl
  | swept =>
    unfold ManagedWorkRow.swept at hwaits ⊢
    split at hwaits <;> simp_all
  | observed => simp [ManagedWorkRow.observed] at hwaits

lemma WorkMoves.state (h : WorkMoves verified w w')
    (hwaits : w'.state = .pendingAgent ∨ w'.state = .dispatching) : w'.state = w.state := by
  induction h with
  | refl => rfl
  | tail _ hmove ih =>
    have hlast := hmove.state hwaits
    rw [hlast] at hwaits ⊢
    exact ih hwaits

/-- The Managed Work is accepted by a verified observation of its Print Intent. -/
def ManagedWorkRow.AcceptedBy (w : ManagedWorkRow)
    (verified : SignedAgentStateObservation → Prop) : Prop :=
  w.state = .accepted ∧ ∃ signed, verified signed ∧ w.printJobObservation = some signed ∧
    signed.observation.agentId = w.agentId ∧
    signed.observation.job.printIntentId = w.printIntentId

lemma WorkMove.recovered (h : WorkMove verified w w')
    (hw : w.state = .recoveryUncertain ∨ w.AcceptedBy verified) :
    w'.state = .recoveryUncertain ∨ w'.AcceptedBy verified := by
  cases h with
  | same => exact hw
  | swept =>
    rcases hw with hstate | ⟨hstate, hsigned⟩
    · simp [ManagedWorkRow.swept, hstate]
    · right
      simpa [ManagedWorkRow.AcceptedBy, ManagedWorkRow.swept, hstate] using hsigned
  | observed signed now hverified hidentity =>
    simp only [validateWorkIdentity, require_ok, Bool.and_eq_true, beq_iff_eq] at hidentity
    exact .inr ⟨rfl, signed, hverified, rfl, by simp_all [ManagedWorkRow.observed]⟩

lemma WorkMoves.recovered (h : WorkMoves verified w w') (hw : w.state = .recoveryUncertain) :
    w'.state = .recoveryUncertain ∨ w'.AcceptedBy verified := by
  induction h with
  | refl => exact .inl hw
  | tail _ hmove ih => exact hmove.recovered ih

lemma payload_iff (hstore : StoreInv tools db) (hinv : LifecycleInv db) (hw : w ∈ db.works.rows) :
    (∃ p ∈ db.payloads.rows, p.managedWorkId = w.managedWorkId) ↔ w.payloadDeletedAt = none := by
  constructor
  · rintro ⟨p, hp, hid⟩
    by_contra hdeleted
    exact hinv.deleted w hw hdeleted p hp hid
  · intro hnone
    rcases hinv.waits w hw with ⟨hstate, _⟩ | ⟨_, hsome⟩
    · exact (hstore.waiting w hw hstate).2
    · exact absurd hnone hsome

lemma managedPayload_error (hw : w ∈ db.works.rows) (hstate : w.state ≠ .dispatching)
    (now : Instant) : ∃ e, managedPayload db w.managedWorkId now = .error e := by
  cases hresult : managedPayload db w.managedWorkId now with
  | error e => exact ⟨e, rfl⟩
  | ok =>
    simp only [managedPayload, bind_ok, orRaise_ok, require_ok, Bool.and_eq_true, beq_iff_eq]
      at hresult
    obtain ⟨v, hv, _, ⟨hdispatching, _⟩, _⟩ := hresult
    obtain ⟨hmem, hid⟩ := Table.first_spec hv
    have hsame : v = w := work_unique hmem hw (beq_iff_eq.mp hid)
    exact absurd (hsame ▸ hdispatching) hstate

lemma command_exists_unique (hstore : StoreInv tools db) (hinv : LifecycleInv db)
    (hw : w ∈ db.works.rows) :
    ∃! c, c ∈ db.commands.rows ∧ c.command = .managedWork w.managedWorkId := by
  obtain ⟨key, hkey, hnames⟩ := hinv.named w hw
  obtain ⟨c, hc, rfl⟩ := List.mem_map.mp hkey
  refine ⟨c, ⟨hc, hnames⟩, ?_⟩
  rintro d ⟨hd, hnames'⟩
  have hid : d.commandId = c.commandId :=
    (hstore.managed d.key (List.mem_map_of_mem hd) _ hnames').trans
      (hstore.managed c.key hkey _ hnames).symm
  exact command_unique hd hc hid

/-- The lifecycle of Managed Work and of its payload in every reachable state. -/
theorem managed_work_lifecycle (tools : Tools) (ts : List Transaction) :
    (∀ w ∈ (after tools {} ts).works.rows,
      ((∃ p ∈ (after tools {} ts).payloads.rows, p.managedWorkId = w.managedWorkId) ↔
        w.payloadDeletedAt = none) ∧
      (w.state = .accepted ∨ w.state = .expired ∨ w.state = .rejected ∨ w.state = .canceled ∨
          w.state = .recoveryUncertain →
        (∀ p ∈ (after tools {} ts).payloads.rows, p.managedWorkId ≠ w.managedWorkId) ∧
        ∀ now, ∃ e, managedPayload (after tools {} ts) w.managedWorkId now = .error e) ∧
      (w.state = .dispatching → ∃! c, c ∈ (after tools {} ts).commands.rows ∧
        c.command = .managedWork w.managedWorkId)) ∧
    (∀ ts', ∀ w ∈ (after tools {} ts).works.rows,
      ∃ w' ∈ (after tools (after tools {} ts) ts').works.rows,
        w'.managedWorkId = w.managedWorkId ∧
        (w'.state = .pendingAgent ∨ w'.state = .dispatching → w'.state = w.state)) ∧
    ∀ t, ∀ w ∈ (after tools {} ts).works.rows, w.state = .recoveryUncertain →
      ∀ w' ∈ (transact tools (after tools {} ts) t).works.rows,
        w'.managedWorkId = w.managedWorkId →
        w'.state = .recoveryUncertain ∨ w'.AcceptedBy (t.Verifies tools.envelopes) := by
  have hstore := after_storeInv tools ts
  have hinv := after_lifecycleInv tools ts
  refine ⟨fun w hw => ⟨payload_iff hstore hinv hw, fun hstate => ?_,
    fun _ => command_exists_unique hstore hinv hw⟩, fun ts' w hw => ?_, fun t w hw hstate w' hw' hid => ?_⟩
  · have hother : w.state ≠ .dispatching := by
      rintro hd
      simp [hd] at hstate
    have hsettled : w.Settled := (hinv.waits w hw).resolve_left (fun h => hother h.1)
    exact ⟨hinv.deleted w hw hsettled.2, managedPayload_error hw hother⟩
  · obtain ⟨w', hw', hmoves⟩ := after_moves tools ts' hw
    exact ⟨w', hw', managedWorkId_of_identity hmoves.identity.1, hmoves.state⟩
  · obtain ⟨v, hv, hmoves⟩ := (transact_writes tools _ t).moves hw
    exact (hmoves.of_mem hv hw' hid).recovered hstate

end Inari.Controller
