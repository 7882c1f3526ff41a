import Inari.Agent.Gateway
import Inari.Proofs.CommandHandlers
import Inari.Proofs.PublishedWork

/-!
# What one step of a handler can do

`Handles` says what each position of a handler leads to and what the step wrote.
-/

namespace Inari.Agent

open Lib DurableSpoolAdmissionStore DocumentAdmissionService GatewayRepository

/-- The managed work that a dispatch command is for. -/
def ControllerCommandMessage.managedWorkId? (m : ControllerCommandMessage) : Option String :=
  match m.content with
  | .dispatchDeviceWork payload => some payload.managedWorkId
  | .executeDeviceCommand _ | .cancelJob _ => none

namespace Gateway

variable {config : GatewayConfig} {s : Gateway} {h : Handler} {inp : HandlerInput}
  {db db' : CommandDb} {verified : VerifiedManagedDispatch} {jobId : String} {rejection : Rejection}

def Responds (db : CommandDb) (commandId : String) (answer : CommandAnswer) : Prop :=
  ∃ r ∈ db.inbound.rows, r.commandId = commandId ∧ r.response = some answer

def Waiting (db : CommandDb) (m : ControllerCommandMessage) (dispatchEpoch : Option Nat) : Prop :=
  ∃ r ∈ db.inbound.rows, r.commandId = m.commandId ∧ r.payload = m ∧
    r.dispatchEpoch = dispatchEpoch ∧ r.response = none

lemma recordInboundCommand_cases {c : InboundCommand ControllerCommandMessage}
    {record : InboundRow ControllerCommandMessage} {created : Bool}
    (hrecord : recordInboundCommand db c = .ok (db', record, created)) :
    (created = true ∧ record = c.row ∧ db'.inbound.rows = db.inbound.rows ++ [c.row]) ∨
    (created = false ∧ db' = db ∧ record ∈ db.inbound.rows ∧ record.commandId = c.commandId ∧
      record.payload = c.payload ∧ record.dispatchEpoch = c.dispatchEpoch) := by
  unfold recordInboundCommand at hrecord
  split at hrecord
  · rename_i existing hfirst
    obtain ⟨hmem, hid⟩ := Table.first_spec hfirst
    simp only [bind_ok, pure_ok, Prod.mk.injEq, assertExactInboundReplay, require_ok,
      Bool.and_eq_true, beq_iff_eq, decide_eq_true_eq] at hrecord
    obtain ⟨_, ⟨⟨⟨⟨-, -⟩, hepoch⟩, -⟩, hpayload⟩, rfl, rfl, rfl⟩ := hrecord
    exact .inr ⟨rfl, rfl, hmem, beq_iff_eq.mp hid, hpayload, hepoch⟩
  · simp only [bind_ok, pure_ok, Prod.mk.injEq] at hrecord
    obtain ⟨_, -, _, -, inbound, hinsert, rfl, rfl, rfl⟩ := hrecord
    exact .inl ⟨rfl, rfl, Table.insert_rows hinsert⟩

lemma commandFailed_code (name : String) : (commandFailed name).1 ≠ "DEVICE_NOT_FOUND" := by
  show "UPSTREAM_COMMAND_FAILED" ≠ "DEVICE_NOT_FOUND"
  decide

lemma problemCode_ne (code : ProblemCode) : code.value.toUpper ≠ "DEVICE_NOT_FOUND" := by
  cases code <;> decide +kernel

lemma coerceAdmit_code (e : AdmitError) : (coerceAdmit e).1 ≠ "DEVICE_NOT_FOUND" := by
  cases e with
  | document e => exact problemCode_ne e.code
  | spool e =>
    cases e with
    | admission code => exact problemCode_ne code
    | _ => exact commandFailed_code _

lemma cancel_code {jobs : JobTable} (hcancel : JobService.cancel jobs jobId = .error rejection) :
    rejection.1 ≠ "DEVICE_NOT_FOUND" := by
  unfold JobService.cancel at hcancel
  split at hcancel
  · split at hcancel
    · cases hcancel
    · cases hcancel
      exact commandFailed_code _
  · split at hcancel
    · cases hcancel
      show "JOB_NOT_FOUND" ≠ "DEVICE_NOT_FOUND"
      decide
    · cases hcancel
      show "JOB_NOT_CANCELLABLE" ≠ "DEVICE_NOT_FOUND"
      decide

lemma cancel_row {jobs jobs' : JobTable} {row : JobRow}
    (hcancel : JobService.cancel jobs jobId = .ok (jobs', row)) :
    row ∈ jobs.rows ∧ row.id = jobId := by
  unfold JobService.cancel at hcancel
  split at hcancel
  · rename_i row' hfirst
    obtain ⟨hrow, hcancellable⟩ := Table.first_spec hfirst
    have hid : row'.id = jobId := by
      simp only [JobService.cancellable, Bool.and_eq_true, beq_iff_eq] at hcancellable
      exact hcancellable.1
    split at hcancel
    · cases hcancel
      exact ⟨hrow, hid⟩
    · cases hcancel
  · split at hcancel <;> cases hcancel

lemma verify_managedWorkId {tools : WireTools} {crypto : CryptoTools}
    {keyPair : DispatchEncryptionKeyPair} {message : ControllerCommandMessage} {issuedAt now : Int}
    {payload : DispatchDeviceWorkPayload} {enrollment : GatewayEnrollmentRecord}
    (hv : verify tools crypto keyPair message issuedAt payload enrollment now = .ok verified) :
    verified.managedWorkId = payload.managedWorkId := by
  simp only [verify, checkAuthenticatedData, bind_ok, pure_ok, require_ok, beq_iff_eq] at hv
  obtain ⟨_, -, _, -, _, ⟨_, hwork, -⟩, _, -, _, -, _, -, rfl⟩ := hv
  exact hwork.symm

lemma admitManifest_managed {tools : DocumentTools} {moment : AdmissionMoment}
    {request : AdmissionRequest} {c : ManagedSubmissionContext} {m : AdmissionManifest}
    (hm : admitManifest tools moment request = .ok m) (hc : request.work.context = .managed c) :
    m.managedWorkId = some c.managedWorkId := by
  obtain ⟨a, ha, hm⟩ := admitManifest_ok.mp hm
  obtain ⟨checked, -, hprepared⟩ := prepareAdmission_ok ha
  obtain ⟨-, -, columns, hcolumns, -, -, _, -, _, -, rfl⟩ := manifestFromAdmission_ok.mp hm
  rw [hprepared.work] at hcolumns
  rcases scopeColumns_ok hcolumns with ⟨_, _, -, hc', -⟩ | ⟨g, c', -, hc', rfl⟩
  · rw [hc] at hc'
    cases hc'
  · rw [hc] at hc'
    cases hc'
    rfl

def createdAt : Phase → Bool
  | .publishEvent _ | .finish none _ => true
  | _ => false

def rejectsAt : Phase → Option (Option Nat)
  | .enqueue _ | .cancel _ | .publishEvent _ => some none
  | .startAdmission verified => some (some verified.dispatchEpoch)
  | _ => none

/-- Where a handler goes on after it recorded its command. -/
inductive Starts (h : Handler) : Option Nat → Phase → Prop
  | enqueue (payload : ControllerExecuteDeviceCommandPayload)
      (hcontent : h.message.content = .executeDeviceCommand payload) :
      Starts h none (.enqueue payload.deviceId)
  | cancel (jobId : String) (hcontent : h.message.content = .cancelJob jobId) :
      Starts h none (.cancel jobId)
  | dispatch (payload : DispatchDeviceWorkPayload) (verified : VerifiedManagedDispatch)
      (hcontent : h.message.content = .dispatchDeviceWork payload)
      (hwork : verified.managedWorkId = payload.managedWorkId) :
      Starts h (some verified.dispatchEpoch) (.startAdmission verified)

def Records (s : Gateway) (h : Handler) (answer : CommandAnswer) (commands : CommandDb) :
    Option Nat → Prop
  | none => markInbound s.commands h.message.commandId answer = .ok commands
  | some epoch =>
    finishManagedDispatch s.commands h.message.commandId epoch answer = .ok commands

inductive Handles (s : Gateway) (h : Handler) (inp : HandlerInput) :
    Gateway × List GatewayAction → Prop
  /-- It returns or raises. -/
  | left (hat : createdAt h.phase = false) : Handles s h inp (s.leave, [])
  | recorded (epoch : Option Nat) (phase : Phase) (commands : CommandDb)
      (hphase : h.phase = .record) (hstart : Starts h epoch phase)
      (hrows : commands.inbound.rows = s.commands.inbound.rows ++ [(h.message.inbound epoch).row]) :
      Handles s h inp ({ s with commands := commands }.proceed h phase,
        [.recorded h.enrolled.controller h.message])
  | replayed (answer : CommandAnswer) (hphase : h.phase = .record)
      (hanswer : Responds s.commands h.message.commandId answer) :
      Handles s h inp (s.proceed h (.resend answer), [])
  | resumed (epoch : Option Nat) (phase : Phase) (hphase : h.phase = .record)
      (hstart : Starts h epoch phase) (hwaiting : Waiting s.commands h.message epoch) :
      Handles s h inp (s.proceed h phase, [])
  | rejected (epoch : Option Nat) (rejection : Rejection) (hphase : rejectsAt h.phase = some epoch)
      (hcause : inp.resolveTarget = .error rejection ∨ inp.publishEvent = .error rejection ∨
        rejection.1 ≠ "DEVICE_NOT_FOUND") :
      Handles s h inp (s.proceed h (reject epoch rejection), [])
  | jobCreated (deviceId : String) (jobs : JobTable) (hphase : h.phase = .enqueue deviceId)
      (hshared : s.isShared deviceId = true)
      (hcreate : JobService.create s.jobs inp.jobId deviceId = .ok jobs) :
      Handles s h inp ({ s with jobs := jobs }.proceed h (.publishEvent inp.jobId),
        [.jobCreated h.enrolled.controller h.message.commandId inp.jobId deviceId])
  | jobCancelled (jobs : JobTable) (row : JobRow) (hphase : h.phase = .cancel row.id)
      (hrow : row ∈ s.jobs.rows) (hcancel : JobService.cancel s.jobs row.id = .ok (jobs, row)) :
      Handles s h inp ({ s with jobs := jobs }.proceed h (.publishEvent row.id),
        [.jobCancelled h.enrolled.controller h.message.commandId row.id row.deviceId])
  | eventPublished (jobId : String) (hphase : h.phase = .publishEvent jobId) :
      Handles s h inp (s.proceed h (.finish none (.accepted jobId)), [])
  /-- Another call holds the admission lock. -/
  | waits (verified : VerifiedManagedDispatch) (hphase : h.phase = .startAdmission verified) :
      Handles s h inp (s, [])
  | admits (verified : VerifiedManagedDispatch) (m : AdmissionManifest)
      (hphase : h.phase = .startAdmission verified)
      (hwork : m.managedWorkId = some verified.managedWorkId)
      (hfree : s.agent.call.isNone = true) :
      Handles s h inp ({ s with agent := (s.agent.step (.accept m)).1 }.proceed h (.admitting verified),
        [])
  | advanced (verified : VerifiedManagedDispatch) (agent : AgentState) (output : AgentOutput)
      (hphase : h.phase = .admitting verified)
      (hstep : s.agent.step (.advance (s.admissionInput inp.admission)) = (agent, output))
      (houtput : ∀ o, output = .outcome o → o = .reconciled) :
      Handles s h inp ({ s with agent := agent },
        newPrintJobs (some h.message.commandId) s.agent.db agent.db)
  | admitted (verified : VerifiedManagedDispatch) (agent : AgentState) (output : AgentOutput)
      (answer : CommandAnswer) (hphase : h.phase = .admitting verified)
      (hstep : s.agent.step (.advance (s.admissionInput inp.admission)) = (agent, output))
      (hanswer : (∃ a, output = .outcome (.accepted a) ∧ answer = .accepted a.printJobId) ∨
        ∃ code detail, answer = .rejected code detail ∧ code ≠ "DEVICE_NOT_FOUND") :
      Handles s h inp
        ({ s with agent := agent }.proceed h (.finish (some verified.dispatchEpoch) answer),
          newPrintJobs (some h.message.commandId) s.agent.db agent.db)
  | finished (epoch : Option Nat) (answer : CommandAnswer) (commands : CommandDb)
      (hphase : h.phase = .finish epoch answer) (hrecord : Records s h answer commands epoch) :
      Handles s h inp ({ s with commands := commands }.proceed h (.send answer), [])
  | sent (answer : CommandAnswer) (outbox : Outbox) (queued : String)
      (hphase : h.phase = .send answer)
      (hqueue : s.enqueueAnswer h inp.messageId answer = .ok (outbox, queued)) :
      Handles s h inp ({ s with outbox := outbox }.leave, [])
  | resent (answer : CommandAnswer) (outbox : Outbox) (queued : String)
      (hphase : h.phase = .resend answer)
      (hqueue : s.enqueueAnswer h inp.messageId answer = .ok (outbox, queued)) :
      Handles s h inp ({ s with outbox := outbox }.proceed h (.requeue queued), [])
  | requeued (messageId : String) (hphase : h.phase = .requeue messageId) :
      Handles s h inp ((s.mark messageId .pending).leave, [])

lemma recordCommand_handles {epoch : Option Nat} {phase : Phase} (hphase : h.phase = .record)
    (hstart : Starts h epoch phase) : Handles s h inp (s.recordCommand h epoch phase) := by
  unfold recordCommand
  split
  · exact .left (by rw [hphase]; rfl)
  · rename_i commands record created hrecord
    obtain ⟨rfl, -, hrows⟩ | ⟨rfl, rfl, hmem, hid, hpayload, hepoch⟩ :=
      recordInboundCommand_cases hrecord
    · exact .recorded epoch phase commands hphase hstart hrows
    · dsimp only
      rw [if_neg Bool.false_ne_true]
      split
      · exact .replayed _ hphase ⟨record, hmem, hid, ‹_›⟩
      · exact .resumed epoch phase hphase hstart ⟨record, hmem, hid, hpayload, hepoch, ‹_›⟩

lemma receive_handles (hphase : h.phase = .record) : Handles s h inp (s.receive config h inp) := by
  have hleft : Handles s h inp (s.leave, []) := .left (by rw [hphase]; rfl)
  unfold receive
  split
  · split
    · exact hleft
    · exact recordCommand_handles hphase (.enqueue _ ‹_›)
  · split
    · exact hleft
    · exact recordCommand_handles hphase (.cancel _ ‹_›)
  · split
    · exact hleft
    · exact recordCommand_handles hphase (.dispatch _ _ ‹_› (verify_managedWorkId ‹_›))

lemma enqueueCommand_handles {deviceId : String} (hphase : h.phase = .enqueue deviceId) :
    Handles s h inp (s.enqueueCommand h inp deviceId) := by
  have hat : rejectsAt h.phase = some none := by rw [hphase]; rfl
  unfold enqueueCommand
  split
  · split
    · exact .rejected none _ hat (.inl ‹_›)
    · split
      · rename_i hcreate
        unfold JobService.create at hcreate
        split at hcreate <;> cases hcreate
        exact .rejected none _ hat (.inr (.inr (commandFailed_code _)))
      · exact .jobCreated deviceId _ hphase ‹_› ‹_›
  · exact .rejected none _ hat (.inr (.inr (by decide)))

lemma cancelJob_handles (hphase : h.phase = .cancel jobId) :
    Handles s h inp (s.cancelJob h jobId) := by
  unfold cancelJob
  split
  · exact .rejected none _ (by rw [hphase]; rfl) (.inr (.inr (cancel_code ‹_›)))
  · rename_i jobs row hcancel
    obtain ⟨hrow, rfl⟩ := cancel_row hcancel
    exact .jobCancelled jobs row hphase hrow hcancel

lemma admitWork_handles (hphase : h.phase = .startAdmission verified) :
    Handles s h inp (s.admitWork config h inp verified, []) := by
  have hat : rejectsAt h.phase = some (some verified.dispatchEpoch) := by rw [hphase]; rfl
  unfold admitWork
  split
  · exact .rejected _ _ hat (.inr (.inr (commandFailed_code _)))
  · split
    · exact .rejected _ _ hat (.inr (.inr (coerceAdmit_code _)))
    · split
      · exact .admits verified _ hphase (admitManifest_managed ‹_› rfl) ‹_›
      · exact .waits verified hphase

lemma admitting_handles (hphase : h.phase = .admitting verified) :
    Handles s h inp (s.admitting h inp verified) := by
  unfold admitting
  obtain ⟨agent, output, hstep⟩ : ∃ agent output,
    s.agent.step (.advance (s.admissionInput inp.admission)) = (agent, output) := ⟨_, _, rfl⟩
  simp only [hstep]
  split
  · exact .admitted verified agent _ _ hphase hstep (.inl ⟨_, rfl, rfl⟩)
  · exact .admitted verified agent _ _ hphase hstep (.inr ⟨_, _, rfl, coerceAdmit_code _⟩)
  all_goals exact .advanced verified agent _ hphase hstep (by rintro _ ⟨⟩ <;> rfl)

lemma finishCommand_handles {epoch : Option Nat} {answer : CommandAnswer}
    (hphase : h.phase = .finish epoch answer) :
    Handles s h inp (s.finishCommand h epoch answer, []) := by
  unfold finishCommand
  cases epoch with
  | none =>
    obtain ⟨commands, hmark, -⟩ := markInbound_ok s.commands h.message.commandId answer
    simp only [hmark]
    exact .finished none answer commands hphase hmark
  | some epoch =>
    dsimp only
    split
    · exact .left (by rw [hphase]; rfl)
    · exact .finished (some epoch) answer _ hphase ‹_›

theorem handle_cases : Handles s h inp (s.handle config h inp) := by
  unfold handle
  split
  · exact receive_handles ‹_›
  · exact enqueueCommand_handles ‹_›
  · exact cancelJob_handles ‹_›
  · split
    · exact .rejected none _ (by simp [*, rejectsAt]) (.inr (.inl ‹_›))
    · exact .eventPublished _ ‹_›
  · exact admitWork_handles ‹_›
  · exact admitting_handles ‹_›
  · exact finishCommand_handles ‹_›
  · unfold sendAnswer
    split
    · exact .left (by simp [*, createdAt])
    · exact .sent _ _ _ ‹_› ‹_›
  · unfold resendAnswer
    split
    · exact .left (by simp [*, createdAt])
    · exact .resent _ _ _ ‹_› ‹_›
  · exact .requeued _ ‹_›

end Gateway

end Inari.Agent
