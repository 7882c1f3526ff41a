import Inari.Proofs.CommandDelivery
import Inari.Proofs.GatewaySteps

/-!
# Controller commands are executed at most once

A handler creates work only while the record of its command has no answer.
-/

namespace Inari.Agent

open Lib DurableSpoolAdmissionStore DocumentAdmissionService GatewayRepository

namespace Gateway

variable {config : GatewayConfig} {s : Gateway} {h : Handler} {inp : HandlerInput}
  {e : GatewayEvent} {db db' : CommandDb} {history : List GatewayAction}

def Settled (db : CommandDb) : Prop :=
  ∀ r ∈ db.inbound.rows, r.response.isSome = r.state.applied

structure RecordsKept (db db' : CommandDb) : Prop where
  responds : ∀ c a, Responds db c a → Responds db' c a
  payload : ∀ r ∈ db.inbound.rows, ∃ r' ∈ db'.inbound.rows, r'.commandId = r.commandId ∧
    r'.payload = r.payload

lemma RecordsKept.refl (db : CommandDb) : RecordsKept db db :=
  ⟨fun _ _ h => h, fun r hr => ⟨r, hr, rfl, rfl⟩⟩

lemma inbound_eq {r r' : InboundRow ControllerCommandMessage} (hr : r ∈ db.inbound.rows)
    (hr' : r' ∈ db.inbound.rows) (hid : r.commandId = r'.commandId) : r = r' :=
  db.inbound.eq_of_key (u := inboundIdKey) (by simp [inboundSpec]) hr hr' (k := r'.commandId)
    (congrArg some hid) rfl

variable {c : String} {m : ControllerCommandMessage} {dispatchEpoch : Option Nat}
  {answer : CommandAnswer} {s' : Gateway} {verified : VerifiedManagedDispatch}

lemma Responds.unique {a a' : CommandAnswer} (h : Responds db c a) (h' : Responds db c a') :
    a = a' := by
  obtain ⟨r, hr, hid, ha⟩ := h
  obtain ⟨r', hr', hid', ha'⟩ := h'
  obtain rfl := inbound_eq hr hr' (hid.trans hid'.symm)
  exact Option.some.inj (ha.symm.trans ha')

lemma Waiting.not_responds {a : CommandAnswer} (h : Waiting db m dispatchEpoch) :
    ¬Responds db m.commandId a := by
  rintro ⟨r', hr', hid', ha⟩
  obtain ⟨r, hr, hid, -, -, hnone⟩ := h
  obtain rfl := inbound_eq hr hr' (hid.trans hid'.symm)
  rw [ha] at hnone
  cases hnone

lemma recordsKept_append {row : InboundRow ControllerCommandMessage}
    (hrows : db'.inbound.rows = db.inbound.rows ++ [row]) : RecordsKept db db' := by
  constructor
  · rintro c a ⟨r, hr, hid, ha⟩
    exact ⟨r, by rw [hrows]; exact List.mem_append_left _ hr, hid, ha⟩
  · intro r hr
    exact ⟨r, by rw [hrows]; exact List.mem_append_left _ hr, rfl, rfl⟩

structure FinishedAs (answer : CommandAnswer) (r r' : InboundRow ControllerCommandMessage) :
    Prop where
  commandId : r'.commandId = r.commandId
  payload : r'.payload = r.payload
  response : r'.response = some answer
  applied : r'.state.applied = true
  jobId : ∀ jobId, r'.jobId = some jobId → r.jobId = some jobId ∨ answer = .accepted jobId

structure Finishes (db db' : CommandDb) (commandId : String) (answer : CommandAnswer) : Prop where
  rows : ∃ f : InboundRow ControllerCommandMessage → InboundRow ControllerCommandMessage,
    db'.inbound.rows = Table.updated db.inbound.rows (fun r => r.commandId == commandId) f ∧
    ∀ r, FinishedAs answer r (f r)

lemma finish_spec (r : InboundRow ControllerCommandMessage) (answer : CommandAnswer) :
    FinishedAs answer r (r.finish answer) := by
  cases answer with
  | accepted =>
    refine ⟨rfl, rfl, rfl, rfl, ?_⟩
    rintro _ ⟨⟩
    exact .inr rfl
  | rejected => exact ⟨rfl, rfl, rfl, rfl, fun _ h => .inl h⟩

lemma finishes_of_markInbound {commandId : String}
    (hmark : markInbound db commandId answer = .ok db') : Finishes db db' commandId answer := by
  simp only [markInbound, bind_ok, pure_ok] at hmark
  obtain ⟨inbound, hupdate, rfl⟩ := hmark
  exact ⟨⟨(·.finish answer), Table.update_rows hupdate, fun r => finish_spec r answer⟩⟩

lemma finishes_of_finishManagedDispatch {epoch : Nat} (hsettled : Settled db)
    (hwaiting : Waiting db m (some epoch))
    (hfinish : finishManagedDispatch db m.commandId epoch answer = .ok db') :
    Finishes db db' m.commandId answer := by
  simp only [finishManagedDispatch, bind_ok] at hfinish
  obtain ⟨inbound, hone, _, -, hfinish⟩ := hfinish
  obtain ⟨hmem, hid⟩ := Table.one_spec hone
  obtain ⟨r, hr, hrid, -, -, hnone⟩ := hwaiting
  obtain rfl := inbound_eq hr hmem (hrid.trans (beq_iff_eq.mp hid).symm)
  have hstate : r.state.applied = false := by
    rw [← hsettled r hr, hnone]
    rfl
  simp only [hstate, Bool.false_eq_true, if_false, bind_ok, pure_ok] at hfinish
  obtain ⟨sequence, -, position, -, rows, hupdate, rfl⟩ := hfinish
  refine ⟨⟨_, Table.update_rows hupdate, fun r => ?_⟩⟩
  cases answer with
  | accepted jobId => exact finish_spec r (.accepted jobId)
  | rejected => exact ⟨rfl, rfl, rfl, rfl, by rintro _ ⟨⟩⟩

variable {epoch : Option Nat}

lemma Finishes.responds (hf : Finishes db db' m.commandId answer) (hwaiting : Waiting db m epoch) :
    Responds db' m.commandId answer := by
  obtain ⟨f, hrows, hspec⟩ := hf.rows
  obtain ⟨r, hr, hid, -⟩ := hwaiting
  exact ⟨f r, Table.mem_written hrows hr (by simp [hid]), (hspec r).commandId.trans hid,
    (hspec r).response⟩

lemma Finishes.kept (hf : Finishes db db' m.commandId answer) (hwaiting : Waiting db m epoch) :
    RecordsKept db db' := by
  obtain ⟨f, hrows, hspec⟩ := hf.rows
  constructor
  · intro c a hresponds
    have hne : c ≠ m.commandId := by
      rintro rfl
      exact hwaiting.not_responds hresponds
    obtain ⟨r, hr, rfl, ha⟩ := hresponds
    exact ⟨r, Table.mem_left hrows hr (by simp [hne]), rfl, ha⟩
  · intro r hr
    exact Table.exists_updated hrows hr (fun _ => ⟨rfl, rfl⟩)
      (fun _ => ⟨(hspec r).commandId, (hspec r).payload⟩)

lemma Finishes.settled {commandId : String} (hf : Finishes db db' commandId answer)
    (hsettled : Settled db) : Settled db' := by
  obtain ⟨f, hrows, hspec⟩ := hf.rows
  intro r hr
  rcases Table.updated_cases hrows hr with ⟨hr, -⟩ | ⟨r₀, -, -, rfl⟩
  · exact hsettled r hr
  · rw [(hspec r₀).response, (hspec r₀).applied]
    rfl

/-- What the position of a handler says about the record of its command. -/
def PhaseOk (db : CommandDb) (h : Handler) : Prop :=
  match h.phase with
  | .record | .requeue _ => True
  | .enqueue _ | .cancel _ | .publishEvent _ | .finish none _ =>
    Waiting db h.message none ∧ h.message.managedWorkId? = none
  | .startAdmission verified | .admitting verified =>
    Waiting db h.message (some verified.dispatchEpoch) ∧
      h.message.managedWorkId? = some verified.managedWorkId
  | .finish (some epoch) _ => Waiting db h.message (some epoch)
  | .send answer | .resend answer => Responds db h.message.commandId answer

def createsJob (commandId : String) : GatewayAction → Bool
  | .jobCreated _ c _ _ => c == commandId
  | _ => false

def Created (history : List GatewayAction) (commandId : String) : Prop :=
  ∃ action ∈ history, createsJob commandId action = true

/-- Each command created at most one local job, and then has its answer or is between the two. -/
structure Executing (db : CommandDb) (handler : Option Handler) (history : List GatewayAction) :
    Prop where
  settled : Settled db
  phase : ∀ h, handler = some h → PhaseOk db h
  once : ∀ c, history.countP (createsJob c) ≤ 1
  recorded : ∀ c, Created history c →
    ∃ r ∈ db.inbound.rows, r.commandId = c ∧ r.payload.managedWorkId? = none
  answered : ∀ c, Created history c → (∃ a, Responds db c a) ∨
    ∃ h, handler = some h ∧ h.message.commandId = c ∧ createdAt h.phase = true

variable {handler handler' : Option Handler}

lemma Executing.move (hx : Executing db handler history) (hkept : RecordsKept db db')
    (hsettled : Settled db') (hphase : ∀ h, handler' = some h → PhaseOk db' h)
    (hcreated : ∀ h, handler = some h → createdAt h.phase = true →
      Created history h.message.commandId → (∃ a, Responds db' h.message.commandId a) ∨
        ∃ h', handler' = some h' ∧ h'.message.commandId = h.message.commandId ∧
          createdAt h'.phase = true) :
    Executing db' handler' history := by
  refine ⟨hsettled, hphase, hx.once, ?_, ?_⟩
  · intro c hc
    obtain ⟨r, hr, hid, hwork⟩ := hx.recorded c hc
    obtain ⟨r', hr', hid', hpayload⟩ := hkept.payload r hr
    exact ⟨r', hr', hid'.trans hid, by rw [hpayload]; exact hwork⟩
  · intro c hc
    rcases hx.answered c hc with ⟨a, ha⟩ | ⟨h, hhandler, rfl, hat⟩
    · exact .inl ⟨a, hkept.responds c a ha⟩
    · exact hcreated h hhandler hat hc

lemma Executing.append {actions : List GatewayAction} (hx : Executing db handler history)
    (hactions : ∀ c, ∀ action ∈ actions, createsJob c action = false) :
    Executing db handler (history ++ actions) := by
  have hcreated : ∀ c, Created (history ++ actions) c → Created history c := by
    rintro c ⟨action, hmem, hc⟩
    rcases List.mem_append.mp hmem with hmem | hmem
    · exact ⟨action, hmem, hc⟩
    · rw [hactions c action hmem] at hc
      cases hc
  refine ⟨hx.settled, hx.phase, ?_, fun c hc => hx.recorded c (hcreated c hc),
    fun c hc => hx.answered c (hcreated c hc)⟩
  intro c
  have hzero : actions.countP (createsJob c) = 0 := by
    rw [List.countP_eq_zero]
    intro action hmem
    simp [hactions c action hmem]
  rw [List.countP_append, hzero]
  exact hx.once c

lemma Executing.proceed (hx : Executing db (some h) history) {phase : Phase}
    (hphase : PhaseOk db { h with phase := phase })
    (hat : createdAt h.phase = true → createdAt phase = true) :
    Executing db (some { h with phase := phase }) history := by
  apply hx.move (.refl db) hx.settled
  · rintro _ ⟨⟩
    exact hphase
  · rintro _ ⟨⟩ hcreated -
    exact .inr ⟨_, rfl, rfl, hat hcreated⟩

lemma Executing.leave (hx : Executing db (some h) history) (hat : createdAt h.phase = false) :
    Executing db none history := by
  apply hx.move (.refl db) hx.settled
  · rintro _ ⟨⟩
  · rintro _ ⟨⟩ hcreated
    rw [hat] at hcreated
    cases hcreated

structure Keeps (history : List GatewayAction) (s : Gateway) (r : Gateway × List GatewayAction) :
    Prop where
  executing : Executing r.1.commands r.1.handler (history ++ r.2)
  records : RecordsKept s.commands r.1.commands

lemma Keeps.of_silent (hx : Executing s'.commands s'.handler history)
    (hcommands : s'.commands = s.commands) : Keeps history s (s', []) := by
  refine ⟨by rw [List.append_nil]; exact hx, ?_⟩
  show RecordsKept s.commands s'.commands
  rw [hcommands]
  exact .refl _

lemma Starts.phaseOk {phase : Phase} (hs : Starts h epoch phase)
    (hwaiting : Waiting db h.message epoch) : PhaseOk db { h with phase := phase } := by
  cases hs with
  | enqueue payload hcontent | cancel jobId hcontent =>
    exact ⟨hwaiting, by simp only [ControllerCommandMessage.managedWorkId?, hcontent]⟩
  | dispatch payload verified hcontent hwork =>
    exact ⟨hwaiting, by simp only [ControllerCommandMessage.managedWorkId?, hcontent, hwork]⟩

lemma Executing.record {phase : Phase} (hx : Executing db (some h) history)
    (hphase : h.phase = .record) (hstart : Starts h epoch phase)
    (hrows : db'.inbound.rows = db.inbound.rows ++ [(h.message.inbound epoch).row]) :
    Executing db' (some { h with phase := phase }) history := by
  apply hx.move (recordsKept_append hrows)
  · intro r hr
    rw [hrows, List.mem_append, List.mem_singleton] at hr
    rcases hr with hr | rfl
    · exact hx.settled r hr
    · rfl
  · rintro _ ⟨⟩
    refine hstart.phaseOk ⟨(h.message.inbound epoch).row, ?_, rfl, rfl, rfl, rfl⟩
    rw [hrows]
    exact List.mem_append_right _ (List.mem_singleton_self _)
  · rintro _ ⟨⟩ hcreated
    rw [hphase] at hcreated
    cases hcreated

lemma phaseOk_reject {rejection : Rejection} (hok : PhaseOk db h)
    (hphase : rejectsAt h.phase = some epoch) :
    PhaseOk db { h with phase := reject epoch rejection } ∧
      (createdAt h.phase = true → createdAt (reject epoch rejection) = true) := by
  unfold PhaseOk at hok
  cases hp : h.phase with
  | enqueue | cancel | publishEvent =>
    simp only [hp] at hok hphase ⊢
    cases hphase
    exact ⟨hok, fun _ => rfl⟩
  | startAdmission =>
    simp only [hp] at hok hphase ⊢
    cases hphase
    exact ⟨hok.1, by rintro ⟨⟩⟩
  | _ =>
    rw [hp] at hphase
    cases hphase

lemma Executing.create {controller jobId deviceId : String} (hx : Executing db (some h) history)
    (hphase : h.phase = .enqueue deviceId) :
    Executing db (some { h with phase := .publishEvent jobId })
      (history ++ [.jobCreated controller h.message.commandId jobId deviceId]) := by
  have hok := hx.phase h rfl
  simp only [PhaseOk, hphase] at hok
  have hlost : ∀ c, Created history c → ∃ a, Responds db c a := by
    intro c hcreated
    rcases hx.answered c hcreated with ha | ⟨_, ⟨⟩, -, hat⟩
    · exact ha
    · rw [hphase] at hat
      cases hat
  have hfresh : ¬Created history h.message.commandId := by
    intro hcreated
    obtain ⟨a, ha⟩ := hlost _ hcreated
    exact hok.1.not_responds ha
  refine ⟨hx.settled, ?_, ?_, ?_, ?_⟩
  · rintro _ ⟨⟩
    exact hok
  · intro c
    rw [List.countP_append, List.countP_singleton]
    by_cases hc : h.message.commandId = c
    · subst hc
      have hzero : history.countP (createsJob h.message.commandId) = 0 := by
        rw [List.countP_eq_zero]
        intro action hmem haction
        exact hfresh ⟨action, hmem, haction⟩
      simp [hzero, createsJob]
    · simpa [createsJob, hc] using hx.once c
  all_goals
    rintro c ⟨action, hmem, hc⟩
    rw [List.mem_append, List.mem_singleton] at hmem
    rcases hmem with hmem | rfl
  · exact hx.recorded c ⟨action, hmem, hc⟩
  · obtain ⟨⟨r, hr, hid, hpayload, -⟩, hwork⟩ := hok
    obtain rfl := beq_iff_eq.mp hc
    exact ⟨r, hr, hid, by rw [hpayload]; exact hwork⟩
  · exact .inl (hlost c ⟨action, hmem, hc⟩)
  · exact .inr ⟨_, rfl, beq_iff_eq.mp hc, rfl⟩

lemma newPrintJobs_createsJob (c : String) (commandId : Option String) (db db' : Db) :
    ∀ action ∈ newPrintJobs commandId db db', createsJob c action = false := by
  intro action haction
  obtain ⟨x, -, rfl⟩ := List.mem_map.mp haction
  rfl

lemma Records.finishes (hrecord : Records s h answer db' epoch) (hsettled : Settled s.commands)
    (hok : PhaseOk s.commands h) (hphase : h.phase = .finish epoch answer) :
    Waiting s.commands h.message epoch ∧ Finishes s.commands db' h.message.commandId answer := by
  cases epoch with
  | none =>
    simp only [PhaseOk, hphase] at hok
    exact ⟨hok.1, finishes_of_markInbound hrecord⟩
  | some =>
    simp only [PhaseOk, hphase] at hok
    exact ⟨hok, finishes_of_finishManagedDispatch hsettled hok hrecord⟩

variable {next : Gateway × List GatewayAction}

theorem Handles.keeps (hc : Handles s h inp next) (hhandler : s.handler = some h)
    (hx : Executing s.commands (some h) history) : Keeps history s next := by
  have hok := hx.phase h rfl
  cases hc with
  | left hat => exact .of_silent (hx.leave hat) rfl
  | recorded epoch phase commands hphase hstart hrows =>
    exact ⟨(hx.record hphase hstart hrows).append (by simp [createsJob]), recordsKept_append hrows⟩
  | replayed answer hphase hanswer =>
    exact .of_silent (hx.proceed hanswer (by simp [hphase, createdAt])) rfl
  | resumed epoch phase hphase hstart hwaiting =>
    exact .of_silent (hx.proceed (hstart.phaseOk hwaiting) (by simp [hphase, createdAt])) rfl
  | rejected epoch rejection hphase =>
    obtain ⟨hreject, hat⟩ := phaseOk_reject hok hphase
    exact .of_silent (hx.proceed hreject hat) rfl
  | jobCreated deviceId jobs hphase => exact ⟨hx.create hphase, .refl _⟩
  | jobCancelled jobs row hphase =>
    simp only [PhaseOk, hphase] at hok
    have hok : PhaseOk s.commands { h with phase := .publishEvent row.id } := hok
    exact ⟨(hx.proceed hok fun _ => rfl).append (by simp [createsJob]), .refl _⟩
  | eventPublished jobId hphase =>
    simp only [PhaseOk, hphase] at hok
    exact .of_silent (hx.proceed hok fun _ => rfl) rfl
  | waits => exact .of_silent (hhandler ▸ hx) rfl
  | admits verified m hphase =>
    simp only [PhaseOk, hphase] at hok
    exact .of_silent (hx.proceed hok (by simp [hphase, createdAt])) rfl
  | advanced =>
    refine ⟨Executing.append ?_ (fun c => newPrintJobs_createsJob c _ _ _), .refl _⟩
    exact hhandler ▸ hx
  | admitted verified agent output answer hphase =>
    simp only [PhaseOk, hphase] at hok
    refine ⟨Executing.append ?_ (fun c => newPrintJobs_createsJob c _ _ _), .refl _⟩
    exact hx.proceed hok.1 (by simp [hphase, createdAt])
  | finished epoch answer commands hphase hrecord =>
    obtain ⟨hwaiting, hf⟩ := hrecord.finishes hx.settled hok hphase
    have hresponds := hf.responds hwaiting
    refine ⟨?_, hf.kept hwaiting⟩
    rw [List.append_nil]
    apply hx.move (hf.kept hwaiting) (hf.settled hx.settled)
    · rintro _ ⟨⟩
      exact hresponds
    · rintro _ ⟨⟩ - -
      exact .inl ⟨answer, hresponds⟩
  | sent answer outbox queued hphase =>
    exact .of_silent (hx.leave (by rw [hphase]; rfl)) rfl
  | resent answer outbox queued hphase =>
    exact .of_silent (hx.proceed trivial (by simp [hphase, createdAt])) rfl
  | requeued messageId hphase =>
    obtain ⟨outbox, hmark, -⟩ := mark_eq (s := s) messageId .pending
    rw [hmark]
    exact .of_silent (hx.leave (by rw [hphase]; rfl)) rfl

/-- The handler under way has created a local job, and its record has no answer. -/
def unanswered (s : Gateway) : Bool :=
  match s.handler with
  | none => false
  | some h => s.history.any (createsJob h.message.commandId) &&
      s.commands.inbound.rows.all (fun r =>
        r.commandId != h.message.commandId || r.response.isNone)

/-- The event does not lose a handler between its job and its answer. -/
def KeepsAnswer (s : Gateway) : GatewayEvent → Prop
  | .stop | .cancelHandler => s.unanswered = false
  | _ => True

instance (s : Gateway) (e : GatewayEvent) : Decidable (KeepsAnswer s e) := by
  cases e <;> unfold KeepsAnswer <;> infer_instance

lemma responds_of_answered (hhandler : s.handler = some h) (hlost : s.unanswered = false)
    (hcreated : Created s.history h.message.commandId) :
    ∃ a, Responds s.commands h.message.commandId a := by
  obtain ⟨action, hmem, haction⟩ := hcreated
  have hany : s.history.any (createsJob h.message.commandId) = true :=
    List.any_eq_true.mpr ⟨action, hmem, haction⟩
  simp only [unanswered, hhandler, hany, Bool.true_and, List.all_eq_false, Bool.or_eq_true,
    bne_iff_ne, ne_eq, not_or, not_not, Option.isNone_iff_eq_none] at hlost
  obtain ⟨r, hr, hid, hsome⟩ := hlost
  obtain ⟨a, ha⟩ := Option.ne_none_iff_exists'.mp hsome
  exact ⟨a, r, hr, hid, ha⟩

def loses : GatewayEvent → Bool
  | .stop | .cancelHandler => true
  | _ => false

lemma lose_keeps (hx : Executing s.commands s.handler history)
    (hlost : ∀ h, s.handler = some h → Created history h.message.commandId →
      ∃ a, Responds s.commands h.message.commandId a) (hcommands : s'.commands = s.commands)
    (hhandler : s'.handler = none) : Keeps history s (s', []) := by
  refine .of_silent ?_ hcommands
  rw [hcommands, hhandler]
  apply hx.move (.refl _) hx.settled
  · rintro _ ⟨⟩
  · intro h hh _ hcreated
    exact .inl (hlost h hh hcreated)

theorem next_keeps (hx : Executing s.commands s.handler history)
    (hlost : loses e = true → ∀ h, s.handler = some h → Created history h.message.commandId →
      ∃ a, Responds s.commands h.message.commandId a) :
    Keeps history s (s.next config e) := by
  have hsame : Keeps history s (s, []) := .of_silent hx rfl
  have hleft : ofHandler e = false → Keeps history s (s.next config e) := by
    intro he
    have hl := @next_leaves config s e he
    refine ⟨Executing.append ?_ ?_, ?_⟩
    · rw [hl.commands, hl.handler]
      exact hx
    · intro c action haction
      have hquiet := hl.actions action haction
      cases action with
      | printJobCreated | published => rfl
      | recorded | jobCreated | jobCancelled => cases hquiet
    · rw [hl.commands]
      exact .refl _
  cases e with
  | deliver =>
    simp only [next]
    split
    · rename_i enrolled hnone henrolled
      refine .of_silent ?_ rfl
      rw [hnone] at hx
      apply hx.move (.refl _) hx.settled
      · rintro _ ⟨⟩
        exact trivial
      · rintro _ ⟨⟩
    · exact hsame
  | handle =>
    simp only [next]
    split
    · exact hsame
    · rename_i h hhandler
      exact handle_cases.keeps hhandler (hhandler ▸ hx)
  | cancelHandler | stop => exact lose_keeps hx (hlost rfl) rfl rfl
  | _ => exact hleft rfl

structure Recording (s : Gateway) : Prop where
  settled : Settled s.commands
  phase : ∀ h, s.handler = some h → PhaseOk s.commands h

lemma Executing.recording (hx : Executing s.commands s.handler history) : Recording s :=
  ⟨hx.settled, hx.phase⟩

lemma executing_nil (hs : Recording s) : Executing s.commands s.handler [] :=
  ⟨hs.settled, hs.phase, by simp, by simp [Created], by simp [Created]⟩

theorem Recording.step (hs : Recording s) :
    Recording (s.step config e).1 ∧ RecordsKept s.commands (s.next config e).1.commands := by
  have hnever : loses e = true → ∀ h, s.handler = some h → Created [] h.message.commandId →
      ∃ a, Responds s.commands h.message.commandId a := by
    rintro - h - ⟨action, hmem, -⟩
    cases hmem
  have hkeeps := @next_keeps config s e [] (executing_nil hs) hnever
  exact ⟨⟨hkeeps.executing.settled, hkeeps.executing.phase⟩, hkeeps.records⟩

def AnswerStored (db : CommandDb) (p : Publication) : Prop :=
  ∀ c a, p = .answer c a → Responds db c a

lemma AnswerStored.kept {p : Publication} (hp : AnswerStored db p) (hkept : RecordsKept db db') :
    AnswerStored db' p :=
  fun c a heq => hkept.responds c a (hp c a heq)

/-- Every answer that is queued, about to be sent or published is the one in its record. -/
structure Answering (s : Gateway) : Prop where
  queued : ∀ r ∈ s.outbox.rows, AnswerStored s.commands r.payload
  sending : ∀ enrolled rs, s.sending = some (enrolled, rs) → ∀ r ∈ rs,
    AnswerStored s.commands r.payload
  published : ∀ controller queuedFor p, .published controller queuedFor p ∈ s.history →
    AnswerStored s.commands p

lemma Queued.answerStored {r : OutboxRow} (hq : Queued s r) (ha : Answering s)
    (hx : Recording s) : AnswerStored s.commands r.payload := by
  intro c a heq
  cases hq with
  | kept r₀ hr₀ hpayload => exact ha.queued r₀ hr₀ c a (hpayload.symm.trans heq)
  | answer h a' hhandler hphase hpayload =>
    rw [hpayload] at heq
    cases heq
    have hok := hx.phase h hhandler
    rcases hphase with hphase | hphase
    · simpa only [PhaseOk, hphase] using hok
    · simpa only [PhaseOk, hphase] using hok
  | deviceEvent d n _ hpayload | jobEvent job _ commandId n hpayload =>
    rw [hpayload] at heq; cases heq
  | observation enrolled scope event _ _ hobserved =>
    obtain ⟨job, -, w, -, command, -, hpayload⟩ := observation_eq hobserved
    rw [hpayload] at heq
    cases heq

theorem step_answering (ha : Answering s) (hx : Recording s)
    (hkept : RecordsKept s.commands (s.next config e).1.commands) :
    Answering (s.step config e).1 := by
  constructor
  · intro r hr
    exact ((next_effects.outbox r hr).answerStored ha hx).kept hkept
  · intro enrolled rs hs r hr
    cases next_effects.sending _ _ hs _ hr with
    | kept rs₀ hsending hr₀ => exact (ha.sending enrolled rs₀ hsending r hr₀).kept hkept
    | listed _ hr₀ => exact (ha.queued r hr₀).kept hkept
  · intro controller queuedFor p hp
    rcases List.mem_append.mp hp with hp | hp
    · exact (ha.published controller queuedFor p hp).kept hkept
    · cases next_published hp with
      | record enrolled r rs latest hsending _ _ _ hpublication =>
        rw [hpublication]
        exact (ha.sending enrolled _ hsending r List.mem_cons_self).kept hkept
      | snapshot enrolled deviceIds _ _ _ hpublication =>
        rw [hpublication]
        rintro c a ⟨⟩

def AdmitsWork (s : Gateway) : Prop :=
  ∀ h verified, s.handler = some h → h.phase = .admitting verified →
    ∃ call m, s.agent.call = some call ∧ call.request = some m ∧
      m.managedWorkId = some verified.managedWorkId

lemma AdmitsWork.of_eq (ha : AdmitsWork s) (hhandler : s'.handler = s.handler)
    (hcall : s'.agent.call = s.agent.call) : AdmitsWork s' := by
  intro h verified hh hphase
  rw [hcall]
  exact ha h verified (hhandler ▸ hh) hphase

lemma AdmitsWork.of_phase (hs : ∀ h verified, s'.handler = some h → h.phase ≠ .admitting verified) :
    AdmitsWork s' :=
  fun h verified hh hphase => absurd hphase (hs h verified hh)

lemma Handles.admitsWork (hc : Handles s h inp next) (ha : AdmitsWork s) (hinv : RunInv s.agent)
    (hhandler : s.handler = some h) : AdmitsWork next.1 := by
  cases hc with
  | recorded epoch phase commands hphase hstart | resumed epoch phase hphase hstart =>
    cases hstart <;> exact .of_phase (by rintro _ _ ⟨⟩ ⟨⟩)
  | waits => exact ha
  | admits verified m hphase hwork hfree =>
    -- the call starts
    rintro _ _ ⟨⟩ ⟨⟩
    refine ⟨.accept m, m, ?_, rfl, hwork⟩
    simp only [proceed, AgentState.step, hfree, if_true]
  | advanced verified agent output hphase hstep houtput =>
    -- the call goes on for the same request
    obtain ⟨call, m, hcall, hrequest, hwork⟩ := ha h verified hhandler hphase
    have hkept := (step_spec hinv.agent anyCodes_own
      (anyCodes_event (.advance (s.admissionInput inp.admission)))).2.kept
    have hsteps := s.agent.step_cases (.advance (s.admissionInput inp.admission))
    rw [hstep] at hsteps hkept
    intro h' verified' hh hphase'
    obtain rfl := Option.some.inj (hhandler.symm.trans hh)
    rw [hphase] at hphase'
    cases hphase'
    cases hsteps with
    | waits => exact ⟨call, m, hcall, hrequest, hwork⟩
    | @moves _ _ _ call' hcall' hsteps =>
      obtain rfl := Option.some.inj (hcall.symm.trans hcall')
      have hnext := hsteps.answer (hinv.answering call hcall) hkept
      exact ⟨call', m, rfl, hnext.1.trans hrequest, hwork⟩
    | ends hcall' hsteps =>
      obtain rfl := Option.some.inj (hcall.symm.trans hcall')
      obtain rfl := houtput _ rfl
      -- only reconciliation ends as reconciled
      cases hsteps with
      | jobsDone => cases hrequest
  | _ => exact .of_phase (by rintro _ _ ⟨⟩ ⟨⟩)

lemma stepAgent_admits (ha : AdmitsWork s) (e : AgentEvent) : AdmitsWork (s.stepAgent e).1 := by
  unfold stepAgent
  split
  · exact ha
  · rename_i e' he
    intro h verified hh hphase
    obtain ⟨call, m, hcall, hrequest, hwork⟩ := ha h verified hh hphase
    refine ⟨call, m, ?_, hrequest, hwork⟩
    show (s.agent.step e').1.call = some call
    have hsome : s.agent.call.isNone = false := by rw [hcall]; rfl
    cases e with
    | ledger | releaseRow | persistDerived => cases he; exact hcall
    | reconcile =>
      cases he
      simp only [AgentState.step, hsome, Bool.false_eq_true, if_false]
      exact hcall
    | accept =>
      simp only [agentEvent] at he
      split at he <;> cases he
      simp only [AgentState.step, hsome, Bool.false_eq_true, if_false]
      exact hcall
    | advance =>
      obtain ⟨message, enrolled, phase⟩ := h
      obtain rfl : phase = .admitting verified := hphase
      rw [show ({ s with agent := (s.agent.step e').1 } : Gateway).handler = s.handler from rfl] at hh
      simp only [agentEvent, hh] at he
      cases he
    | stop => cases he

theorem next_admits (ha : AdmitsWork s) (hinv : RunInv s.agent) :
    AdmitsWork (s.next config e).1 := by
  have hleft : ofHandler e = false → ofAgent e = false → AdmitsWork (s.next config e).1 := by
    intro he hagent
    have hl := @next_leaves config s e he
    exact ha.of_eq hl.handler (by rw [hl.agent hagent])
  cases e with
  | deliver =>
    simp only [next]
    split
    · exact .of_phase (by rintro _ _ ⟨⟩ ⟨⟩)
    · exact ha
  | handle =>
    simp only [next]
    split
    · exact ha
    · exact handle_cases.admitsWork ha hinv ‹_›
  | agent e => exact stepAgent_admits ha e
  | cancelHandler | stop => exact .of_phase (by rintro _ _ ⟨⟩)
  | _ => exact hleft rfl rfl

structure Printing (s : Gateway) : Prop where
  agent : RunInv s.agent
  naming : Naming s.agent
  admits : AdmitsWork s
  works : s.history.filterMap printWork = s.agent.db.jobs.rows.filterMap managedJob
  command : ∀ c w jobId deviceId, .printJobCreated (some c) w jobId deviceId ∈ s.history →
    ∃ r ∈ s.commands.inbound.rows, r.commandId = c ∧ r.payload.managedWorkId? = some w

theorem step_printing (hp : Printing s) (hx : Recording s)
    (hkept : RecordsKept s.commands (s.next config e).1.commands) :
    Printing (s.step config e).1 := by
  have hrecords : ∀ c w jobId deviceId, .printJobCreated (some c) w jobId deviceId ∈ s.history →
      ∃ r ∈ (s.next config e).1.commands.inbound.rows, r.commandId = c ∧
        r.payload.managedWorkId? = some w := by
    intro c w jobId deviceId hmem
    obtain ⟨r, hr, hid, hwork⟩ := hp.command c w jobId deviceId hmem
    obtain ⟨r', hr', hid', hpayload⟩ := hkept.payload r hr
    exact ⟨r', hr', hid'.trans hid, by rw [hpayload]; exact hwork⟩
  have hadmits := @next_admits config s e hp.admits hp.agent
  cases @next_agent config s e with
  | same hagent hactions =>
    refine ⟨by rw [step, hagent]; exact hp.agent, by rw [step, hagent]; exact hp.naming, hadmits, ?_, ?_⟩
    · show (s.history ++ (s.next config e).2).filterMap printWork = _
      rw [List.filterMap_append, hactions, List.append_nil, step, hagent]
      exact hp.works
    · intro c w jobId deviceId hmem
      rcases List.mem_append.mp hmem with hmem | hmem
      · exact hrecords c w jobId deviceId hmem
      · have hnone : (w, jobId, deviceId) ∈ (s.next config e).2.filterMap printWork :=
          List.mem_filterMap.mpr ⟨_, hmem, rfl⟩
        rw [hactions] at hnone
        cases hnone
  | stepped ae commandId hagent hactions hshared hcommand =>
    obtain ⟨hnaming, hadds⟩ := step_adds ae hp.agent hp.naming
    obtain ⟨hworks, hrows, hnew⟩ := newPrintJobs_spec hadds commandId
    refine ⟨by rw [step, hagent]; exact hp.agent.step ae, by rw [step, hagent]; exact hnaming, hadmits, ?_, ?_⟩
    · show (s.history ++ (s.next config e).2).filterMap printWork =
        (s.next config e).1.agent.db.jobs.rows.filterMap managedJob
      rw [List.filterMap_append, hactions, hworks, hagent, hrows, hp.works]
    · intro c w jobId deviceId hmem
      rcases List.mem_append.mp hmem with hmem | hmem
      · exact hrecords c w jobId deviceId hmem
      · rw [hactions] at hmem
        obtain ⟨rfl, j, ⟨inp, rfl, hadmitted⟩, hw, -⟩ := hnew _ w jobId deviceId hmem
        obtain ⟨h, verified, hhandler, rfl, hphase⟩ := hcommand c rfl
        obtain ⟨call, m, hcall, hrequest, hwork⟩ := hp.admits h verified hhandler hphase
        have hjob := hadmitted.request m (by rw [hcall]; exact hrequest)
        have hok := hx.phase h hhandler
        simp only [PhaseOk, hphase] at hok
        obtain ⟨⟨r, hr, hid, hpayload, -⟩, hmessage⟩ := hok
        obtain ⟨r', hr', hid', hpayload'⟩ := hkept.payload r hr
        refine ⟨r', hr', hid'.trans hid, ?_⟩
        rw [hpayload', hpayload, hmessage, ← hwork, ← hjob, hw]

def workOf (s : Gateway) (commandId : String) : Option String :=
  (s.commands.inbound.first (fun r => r.commandId == commandId)).bind (·.payload.managedWorkId?)

/-- The action is the creation of work for the command. -/
def causedBy (s : Gateway) (commandId : String) : GatewayAction → Bool
  | .jobCreated _ c _ _ => c == commandId
  | .printJobCreated c w _ _ => c == some commandId || s.workOf commandId == some w
  | .recorded _ _ | .jobCancelled _ _ _ _ | .published _ _ _ => false

structure ExecutedOnce (s : Gateway) : Prop where
  work : ∀ c, s.history.countP (s.causedBy c) ≤ 1
  answers : ∀ c a a' controller controller' queuedFor queuedFor',
    .published controller queuedFor (.answer c a) ∈ s.history →
    .published controller' queuedFor' (.answer c a') ∈ s.history → a = a'

structure RunsOnce (s : Gateway) : Prop where
  executing : Executing s.commands s.handler s.history
  answering : Answering s
  printing : Printing s

lemma runsOnce_empty : RunsOnce ({} : Gateway) := by
  refine ⟨⟨?_, ?_, ?_, ?_, ?_⟩, ⟨?_, ?_, ?_⟩, ⟨runInv_empty, ?_, ?_, rfl, ?_⟩⟩
  · simp [Settled]
  · rintro _ ⟨⟩
  · simp
  · simp [Created]
  · simp [Created]
  · simp
  · rintro _ _ ⟨⟩
  · simp
  · rintro _ ⟨⟩
  · rintro _ _ ⟨⟩
  · simp

theorem RunsOnce.step (hs : RunsOnce s) (hok : KeepsAnswer s e) : RunsOnce (s.step config e).1 := by
  have hlost : loses e = true → ∀ h, s.handler = some h → Created s.history h.message.commandId →
      ∃ a, Responds s.commands h.message.commandId a := by
    intro hloses h hhandler hcreated
    cases e with
    | stop | cancelHandler => exact responds_of_answered hhandler hok hcreated
    | _ => cases hloses
  obtain ⟨hexecuting, hkept⟩ := @next_keeps config s e s.history hs.executing hlost
  exact ⟨hexecuting, step_answering hs.answering hs.executing.recording hkept,
    step_printing hs.printing hs.executing.recording hkept⟩

lemma workOf_of_record {r : InboundRow ControllerCommandMessage} (hr : r ∈ s.commands.inbound.rows)
    (hid : r.commandId = c) : s.workOf c = r.payload.managedWorkId? := by
  have hfirst : s.commands.inbound.first (fun r => r.commandId == c) = some r := by
    apply Table.first_eq hr (by simp [hid])
    intro r' hr' hid'
    exact inbound_eq hr' hr ((beq_iff_eq.mp hid').trans hid.symm)
  rw [workOf, hfirst]
  rfl

lemma causes_dispatch (hs : RunsOnce s) {w : String} (hwork : s.workOf c = some w) :
    s.history.countP (s.causedBy c) ≤ 1 := by
  have hwork' : ∀ action ∈ s.history, s.causedBy c action = true →
      ((printWork action).map (fun x => x.1 == w)).getD false = true := by
    intro action hmem haction
    cases action with
    | jobCreated controller c' =>
      obtain ⟨r, hr, hid, hnone⟩ := hs.executing.recorded c' ⟨_, hmem, by simp [createsJob]⟩
      obtain rfl := beq_iff_eq.mp haction
      rw [workOf_of_record hr hid, hnone] at hwork
      cases hwork
    | printJobCreated c' w' jobId deviceId =>
      simp only [causedBy, Bool.or_eq_true, beq_iff_eq] at haction
      rcases haction with rfl | heq
      · obtain ⟨r, hr, hid, hsome⟩ := hs.printing.command c w' jobId deviceId hmem
        rw [workOf_of_record hr hid, hsome] at hwork
        simpa [printWork] using hwork
      · rw [hwork] at heq
        simpa [printWork] using heq.symm
    | recorded | jobCancelled | published => cases haction
  calc s.history.countP (s.causedBy c)
      ≤ s.history.countP (fun action => ((printWork action).map (fun x => x.1 == w)).getD false) :=
        List.countP_mono_left hwork'
    _ = (s.agent.db.jobs.rows.filterMap managedJob).countP (fun x => x.1 == w) := by
        rw [← hs.printing.works, List.countP_filterMap]
    _ = s.agent.db.jobs.rows.countP (fun j => ((managedJob j).map (fun x => x.1 == w)).getD false) :=
        List.countP_filterMap
    _ ≤ 1 := by
        apply s.agent.db.jobs.countP_le_one (u := PrintJobRow.uqManagedWorkId) (k := w)
          (by simp [PrintJobRow.spec])
        intro j _ hj
        cases hw : j.managedWorkId with
        | none => simp [managedJob, hw] at hj
        | some =>
          simp only [managedJob, hw, Option.map_some, Option.getD_some, beq_iff_eq] at hj
          exact hw.trans (congrArg some hj)

lemma causes_job (hs : RunsOnce s) (hwork : s.workOf c = none) :
    s.history.countP (s.causedBy c) ≤ 1 := by
  refine (List.countP_mono_left ?_).trans (hs.executing.once c)
  intro action hmem haction
  cases action with
  | jobCreated => exact haction
  | printJobCreated c' w jobId deviceId =>
    simp only [causedBy, Bool.or_eq_true, beq_iff_eq, hwork, reduceCtorEq, or_false] at haction
    obtain rfl := haction
    obtain ⟨r, hr, hid, hsome⟩ := hs.printing.command c w jobId deviceId hmem
    rw [workOf_of_record hr hid, hsome] at hwork
    cases hwork
  | recorded | jobCancelled | published => cases haction

/-- The Agent executes each command at most once, if no handler is lost between its job and its
answer. -/
theorem commands_executed_once (config : GatewayConfig) (es : List GatewayEvent)
    (hok : RunOk KeepsAnswer (step config) {} es) : ExecutedOnce (final (step config) {} es) := by
  have hs : RunsOnce (final (step config) {} es) :=
    final_invariant (fun s e hs he => hs.step he) runsOnce_empty hok
  constructor
  · intro c
    cases hwork : (final (step config) {} es).workOf c with
    | some => exact causes_dispatch hs hwork
    | none => exact causes_job hs hwork
  · intro c a a' controller controller' queuedFor queuedFor' hp hp'
    exact (hs.answering.published _ _ _ hp c a rfl).unique
      (hs.answering.published _ _ _ hp' c a' rfl)

def sampleConfig : GatewayConfig :=
  ⟨Controller.sampleWire, Controller.sampleCrypto, sampleTools, ⟨"key-1", []⟩⟩

def sampleEnrolled : Enrolled where
  controller := "ctl_1"
  record := {
    enrolledAt := 0
    dataPlane := ⟨[], "inari/agents/agt_front_desk", false⟩
    protocolVersion := "1"
    controllerActions := [.commandsExecute, .jobsCancel]
    controllerName := none
    controllerInstanceId := some "ctl_1"
    certificateExpiresAt := none
    certificateMode := .none
    certificateEnrollment := none
    managedDispatch := none }

def drawerCommand : ControllerCommandMessage :=
  ⟨"msg_1", "cmd_1", 1, none, .executeDeviceCommand ⟨"dev_printer", .openCashDrawer, []⟩⟩

def handlerInput (jobId : String) : HandlerInput where
  now := 0
  resolveTarget := .ok ()
  jobId := jobId
  publishEvent := .ok ()
  moment := sampleMoment 0
  admission := sampleInput
  messageId := "out_1"

def sampleStart : List GatewayEvent :=
  [.enroll (some sampleEnrolled), .share ["dev_printer"], .deliver drawerCommand]

def proceeds (jobId : String) (steps : Nat) : List GatewayEvent :=
  List.replicate steps (.handle (handlerInput jobId))

def sampleRun : List GatewayEvent :=
  sampleStart ++ proceeds "job_1" 5 ++ [.deliver drawerCommand] ++ proceeds "job_2" 3 ++
    [.startFlush ["out_1"], .flushNext "" .sent]

def afterGateway (es : List GatewayEvent) : Gateway := final (step sampleConfig) {} es

theorem sample_command_executed_once :
    RunOk KeepsAnswer (step sampleConfig) {} sampleRun ∧ ExecutedOnce (afterGateway sampleRun) ∧
      (afterGateway sampleRun).history.countP ((afterGateway sampleRun).causedBy "cmd_1") = 1 := by
  have hok : RunOk KeepsAnswer (step sampleConfig) {} sampleRun := by decide +kernel
  exact ⟨hok, commands_executed_once sampleConfig sampleRun hok, by decide +kernel⟩

def lostRun : List GatewayEvent :=
  sampleStart ++ proceeds "job_1" 2 ++ [.stop, .deliver drawerCommand] ++ proceeds "job_2" 2

theorem lost_handler_executes_twice :
    (afterGateway lostRun).history.countP ((afterGateway lostRun).causedBy "cmd_1") = 2 ∧
      ¬ExecutedOnce (afterGateway lostRun) := by
  have htwo : (afterGateway lostRun).history.countP
      ((afterGateway lostRun).causedBy "cmd_1") = 2 := by decide +kernel
  refine ⟨htwo, fun h => ?_⟩
  have hone := h.work "cmd_1"
  omega

end Gateway

end Inari.Agent
