import Inari.Proofs.GatewayRecords

/-!
# Devices that are not shared stay private

A Device is checked before work is created on it or its event is published. A job is named without
a check, and `cancel_job` asks for nothing.
-/

namespace Inari.Agent

open Lib DurableSpoolAdmissionStore DocumentAdmissionService GatewayRepository

def deviceNotFound (deviceId : String) : Rejection :=
  ("DEVICE_NOT_FOUND", "Device " ++ JobService.quoted deviceId ++ " was not found.")

namespace Gateway

variable {config : GatewayConfig} {s : Gateway} {h : Handler} {inp : HandlerInput}
  {e : GatewayEvent} {history actions : List GatewayAction} {controller jobId : String}

def LocalJobOn (s : Gateway) (jobId deviceId : String) : Prop :=
  ∃ r ∈ s.jobs.rows, r.id = jobId ∧ r.deviceId = deviceId

def PrintJobOn (s : Gateway) (jobId deviceId : String) : Prop :=
  ∃ j ∈ s.agent.db.jobs.rows, j.id = jobId ∧ j.deviceId = deviceId

def AnswerNames (s : Gateway) (commandId : String) (answer : CommandAnswer) (jobId : String) :
    Prop :=
  answer = .accepted jobId ∨ ∃ r ∈ s.commands.inbound.rows, r.commandId = commandId ∧
    r.payload.content = .cancelJob jobId

/-- The Devices that a publication names, with the job on them that it is about. -/
inductive Concerns (s : Gateway) : Publication → Option String → String → Prop
  | snapshot (deviceIds : List String) (deviceId : String) (hdevice : deviceId ∈ deviceIds) :
      Concerns s (.snapshot deviceIds) none deviceId
  | deviceEvent (deviceId : String) (sequence : Nat) :
      Concerns s (.deviceEvent deviceId sequence) none deviceId
  | notFound (commandId deviceId : String) :
      Concerns s (.answer commandId (.rejected (deviceNotFound deviceId).1
        (deviceNotFound deviceId).2)) none deviceId
  | answer (commandId : String) (answer : CommandAnswer) (jobId deviceId : String)
      (hjob : s.AnswerNames commandId answer jobId)
      (hdevice : s.LocalJobOn jobId deviceId ∨ s.PrintJobOn jobId deviceId) :
      Concerns s (.answer commandId answer) (some jobId) deviceId
  /-- The payload of the event has a Device of its own. -/
  | eventPayload (jobId deviceId : String) (commandId : Option String) (sequence : Nat) :
      Concerns s (.jobEvent jobId deviceId commandId sequence) (some jobId) deviceId
  | jobEvent (jobId device : String) (commandId : Option String) (sequence : Nat)
      (deviceId : String) (hdevice : s.LocalJobOn jobId deviceId) :
      Concerns s (.jobEvent jobId device commandId sequence) (some jobId) deviceId
  | printJobEvent (jobId commandId : String) (sequence : Nat) (deviceId : String)
      (hdevice : s.PrintJobOn jobId deviceId) :
      Concerns s (.printJobEvent jobId commandId sequence) (some jobId) deviceId

def dispatches (controller managedWorkId : String) : GatewayAction → Bool
  | .recorded c m => c == controller && m.managedWorkId? == some managedWorkId
  | _ => false

def submits (history : List GatewayAction) (controller jobId : String) : GatewayAction → Bool
  | .jobCreated c _ j _ => c == controller && j == jobId
  | .printJobCreated _ w j _ => j == jobId && history.any (dispatches controller w)
  | _ => false

def submitted (history : List GatewayAction) (controller jobId : String) : Bool :=
  history.any (submits history controller jobId)

/-- A step names shared Devices and submitted jobs only, and creates work on shared Devices only. -/
structure Private (s : Gateway) (actions : List GatewayAction) : Prop where
  published : ∀ controller queuedFor p, .published controller queuedFor p ∈ actions →
    ∀ job deviceId, s.Concerns p job deviceId → s.isShared deviceId = true ∨
      ∃ jobId, job = some jobId ∧ submitted s.history controller jobId = true
  jobCreated : ∀ controller commandId jobId deviceId,
    .jobCreated controller commandId jobId deviceId ∈ actions → s.isShared deviceId = true
  printJobCreated : ∀ commandId managedWorkId jobId deviceId,
    .printJobCreated commandId managedWorkId jobId deviceId ∈ actions → s.isShared deviceId = true
  jobCancelled : ∀ controller commandId jobId deviceId,
    .jobCancelled controller commandId jobId deviceId ∈ actions → s.isShared deviceId = true ∨
      submitted s.history controller jobId = true
  recipient : ∀ controller queuedFor p, .published controller (some queuedFor) p ∈ actions →
    queuedFor = controller

variable {deviceId w : String} {rejection : Rejection} {p : Publication}

lemma submitted_of_jobCreated {commandId : String}
    (hmem : .jobCreated controller commandId jobId deviceId ∈ history) :
    submitted history controller jobId = true :=
  List.any_eq_true.mpr ⟨_, hmem, by simp [submits]⟩

lemma submitted_of_printJobCreated {commandId : Option String} {m : ControllerCommandMessage}
    (hmem : .printJobCreated commandId w jobId deviceId ∈ history)
    (hrecorded : .recorded controller m ∈ history) (hwork : m.managedWorkId? = some w) :
    submitted history controller jobId = true := by
  have hdispatched : history.any (dispatches controller w) = true :=
    List.any_eq_true.mpr ⟨_, hrecorded, by simp [dispatches, hwork]⟩
  exact List.any_eq_true.mpr ⟨_, hmem, by simp [submits, hdispatched]⟩

lemma submitted_append (hs : submitted history controller jobId = true) :
    submitted (history ++ actions) controller jobId = true := by
  obtain ⟨action, hmem, haction⟩ := List.any_eq_true.mp hs
  refine List.any_eq_true.mpr ⟨action, List.mem_append_left _ hmem, ?_⟩
  cases action with
  | jobCreated => exact haction
  | printJobCreated =>
    simp only [submits, List.any_append, Bool.and_eq_true, Bool.or_eq_true] at haction ⊢
    exact ⟨haction.1, .inl haction.2⟩
  | recorded | jobCancelled | published => cases haction

def Owned (history : List GatewayAction) (jobId : String) : Prop :=
  ∃ controller, submitted history controller jobId = true

lemma Owned.append (h : Owned history jobId) : Owned (history ++ actions) jobId := by
  obtain ⟨controller, hs⟩ := h
  exact ⟨controller, submitted_append hs⟩

def actor : GatewayAction → Option String
  | .recorded c _ | .jobCreated c _ _ _ | .jobCancelled c _ _ _ => some c
  | .printJobCreated _ _ _ _ | .published _ _ _ => none

/-- No other Controller has sent a command, and nothing is under way for another one. -/
structure Serves (s : Gateway) (controller : String) : Prop where
  history : ∀ action ∈ s.history, ∀ c ∈ actor action, c = controller
  outbox : ∀ r ∈ s.outbox.rows, ∀ c ∈ r.queuedFor, c = controller
  handler : ∀ h ∈ s.handler, h.enrolled.controller = controller
  sending : ∀ x ∈ s.sending, ∀ r ∈ x.2, x.1.controller = controller ∧
    ∀ c ∈ r.queuedFor, c = controller

instance (s : Gateway) (controller : String) : Decidable (s.Serves controller) :=
  decidable_of_iff
    ((∀ action ∈ s.history, ∀ c ∈ actor action, c = controller) ∧
      (∀ r ∈ s.outbox.rows, ∀ c ∈ r.queuedFor, c = controller) ∧
      (∀ h ∈ s.handler, h.enrolled.controller = controller) ∧
      ∀ x ∈ s.sending, ∀ r ∈ x.2, x.1.controller = controller ∧ ∀ c ∈ r.queuedFor, c = controller)
    ⟨fun ⟨h₁, h₂, h₃, h₄⟩ => ⟨h₁, h₂, h₃, h₄⟩, fun h => ⟨h.1, h.2, h.3, h.4⟩⟩

def knowsDevice : Except Rejection Unit → Bool
  | .ok () => true
  | .error rejection => rejection.1 != "DEVICE_NOT_FOUND"

/-- Controllers cancel only their jobs, the catalog has their Devices, and the store serves one
only. -/
def Considerate (s : Gateway) : GatewayEvent → Prop
  | .deliver message =>
    match message.content with
    | .cancelJob jobId => ∀ c ∈ s.controller, submitted s.history c jobId = true
    | .executeDeviceCommand _ | .dispatchDeviceWork _ => True
  | .handle inp => knowsDevice inp.resolveTarget = true ∧ knowsDevice inp.publishEvent = true
  | .enroll (some enrolled) => s.Serves enrolled.controller
  | _ => True

instance (s : Gateway) : (e : GatewayEvent) → Decidable (Considerate s e)
  | .deliver ⟨_, _, _, _, .cancelJob jobId⟩ =>
    inferInstanceAs (Decidable (∀ c ∈ s.controller, submitted s.history c jobId = true))
  | .deliver ⟨_, _, _, _, .executeDeviceCommand _⟩ | .deliver ⟨_, _, _, _, .dispatchDeviceWork _⟩ =>
    .isTrue trivial
  | .handle inp => inferInstanceAs (Decidable (knowsDevice inp.resolveTarget = true ∧
      knowsDevice inp.publishEvent = true))
  | .enroll (some enrolled) => inferInstanceAs (Decidable (s.Serves enrolled.controller))
  | .enroll none | .cancelHandler | .submitLocal _ _ | .moveJob _ _ | .forwardDevice _ _ _
  | .forwardJob _ _ _ _ | .project _ | .startFlush _ | .flushNext _ _ | .publishSnapshot _ | .share _
  | .agent _ | .stop => .isTrue trivial

lemma Serves.submitted (hs : s.Serves controller) (ho : Owned s.history jobId) :
    submitted s.history controller jobId = true := by
  obtain ⟨c, hc⟩ := ho
  obtain ⟨action, hmem, haction⟩ := List.any_eq_true.mp hc
  obtain rfl : c = controller := by
    cases action with
    | jobCreated =>
      simp only [submits, Bool.and_eq_true, beq_iff_eq] at haction
      rw [← haction.1]
      exact hs.history _ hmem _ rfl
    | printJobCreated =>
      simp only [submits, Bool.and_eq_true, List.any_eq_true] at haction
      obtain ⟨-, action, hmem, hdispatch⟩ := haction
      cases action with
      | recorded =>
        simp only [dispatches, Bool.and_eq_true, beq_iff_eq] at hdispatch
        rw [← hdispatch.1]
        exact hs.history _ hmem _ rfl
      | _ => cases hdispatch
    | recorded | jobCancelled | published => cases haction
  exact hc

/-- The answer names no Device, and no job that was not submitted. -/
def AnswerOwned (history : List GatewayAction) : CommandAnswer → Prop
  | .accepted jobId => Owned history jobId
  | .rejected code _ => code ≠ "DEVICE_NOT_FOUND"

lemma AnswerOwned.append {a : CommandAnswer} (ha : AnswerOwned history a) :
    AnswerOwned (history ++ actions) a := by
  cases a with
  | accepted => exact Owned.append ha
  | rejected => exact ha

def MessageOwned (history : List GatewayAction) (m : ControllerCommandMessage) : Prop :=
  ∀ jobId, m.content = .cancelJob jobId → Owned history jobId

structure RecordOwned (history : List GatewayAction) (r : InboundRow ControllerCommandMessage) :
    Prop where
  recorded : ∃ controller, .recorded controller r.payload ∈ history
  message : MessageOwned history r.payload
  jobId : ∀ jobId, r.jobId = some jobId → Owned history jobId
  response : ∀ a, r.response = some a → AnswerOwned history a

lemma RecordOwned.append {r : InboundRow ControllerCommandMessage} (hr : RecordOwned history r) :
    RecordOwned (history ++ actions) r := by
  obtain ⟨c, hc⟩ := hr.recorded
  exact ⟨⟨c, List.mem_append_left _ hc⟩, fun j hj => (hr.message j hj).append,
    fun j hj => (hr.jobId j hj).append, fun a ha => (hr.response a ha).append⟩

def PhaseOwned (history : List GatewayAction) (m : ControllerCommandMessage) : Phase → Prop
  | .cancel jobId => m.content = .cancelJob jobId
  | .publishEvent jobId => Owned history jobId
  | .finish _ a | .send a | .resend a => AnswerOwned history a
  | .record | .enqueue _ | .startAdmission _ | .admitting _ | .requeue _ => True

structure HandlerOwned (history : List GatewayAction) (h : Handler) : Prop where
  message : MessageOwned history h.message
  phase : PhaseOwned history h.message h.phase

lemma HandlerOwned.append (hh : HandlerOwned history h) : HandlerOwned (history ++ actions) h := by
  refine ⟨fun j hj => (hh.message j hj).append, ?_⟩
  have hphase := hh.phase
  cases hp : h.phase with
  | publishEvent =>
    rw [hp] at hphase
    exact Owned.append hphase
  | finish | send | resend =>
    rw [hp] at hphase
    exact AnswerOwned.append hphase
  | cancel =>
    rw [hp] at hphase
    exact hphase
  | _ => trivial

lemma HandlerOwned.proceed (hh : HandlerOwned history h) {phase : Phase}
    (hphase : PhaseOwned (history ++ actions) h.message phase) :
    HandlerOwned (history ++ actions) { h with phase := phase } :=
  ⟨fun j hj => (hh.message j hj).append, hphase⟩

lemma LocalJobOn.kept {s' : Gateway} (hj : s.LocalJobOn jobId deviceId) (hkept : JobsKept s s') :
    s'.LocalJobOn jobId deviceId := by
  obtain ⟨r, hr, hid, hdevice⟩ := hj
  obtain ⟨r', hr', hid', hdevice'⟩ := hkept r hr
  exact ⟨r', hr', hid'.trans hid, hdevice'.trans hdevice⟩

lemma LocalJobOn.unique {d d' : String} (hj : s.LocalJobOn jobId d)
    (hj' : s.LocalJobOn jobId d') : d = d' := by
  obtain ⟨r, hr, hid, rfl⟩ := hj
  obtain ⟨r', hr', hid', rfl⟩ := hj'
  have heq : r = r' := s.jobs.eq_of_key (u := jobIdKey) (by simp [jobSpec]) hr hr' (k := jobId)
    (congrArg some hid) (congrArg some hid')
  rw [heq]

def RowOwned (s : Gateway) : Publication → Prop
  | .jobEvent jobId deviceId _ _ => s.LocalJobOn jobId deviceId
  | .printJobEvent jobId _ _ => Owned s.history jobId
  | .answer _ _ | .deviceEvent _ _ => True
  | .snapshot _ => False

structure Confined (s : Gateway) : Prop where
  recording : Recording s
  answering : Answering s
  printing : Printing s
  accepted : AcceptedJobs s.agent.db
  serves : ∃ controller, s.Serves controller ∧
    ∀ enrolled, s.enrolled = some enrolled → enrolled.controller = controller
  handler : ∀ h, s.handler = some h → HandlerOwned s.history h
  records : ∀ r ∈ s.commands.inbound.rows, RecordOwned s.history r
  queued : ∀ r ∈ s.outbox.rows, s.RowOwned r.payload
  sending : ∀ enrolled rs, s.sending = some (enrolled, rs) → ∀ r ∈ rs, s.RowOwned r.payload

lemma confined_empty : Confined ({} : Gateway) := by
  refine ⟨⟨by simp [Settled], by rintro _ ⟨⟩⟩, runsOnce_empty.answering, runsOnce_empty.printing,
    by simp [AcceptedJobs], ⟨"", ⟨by simp, by simp, by simp, by simp⟩, by rintro _ ⟨⟩⟩,
    by rintro _ ⟨⟩, by simp, by simp, by rintro _ _ ⟨⟩⟩

lemma owned_of_printJob {rows : List PrintJobRow} {j : PrintJobRow} {m : ControllerCommandMessage}
    (hworks : history.filterMap printWork = rows.filterMap managedJob) (hj : j ∈ rows)
    (hw : j.managedWorkId = some w) (hrecorded : ∃ c, .recorded c m ∈ history)
    (hm : m.managedWorkId? = some w) : Owned history j.id := by
  have hmem : (w, j.id, j.deviceId) ∈ history.filterMap printWork := by
    rw [hworks]
    exact List.mem_filterMap.mpr ⟨j, hj, by simp [managedJob, hw]⟩
  obtain ⟨action, haction, hwork⟩ := List.mem_filterMap.mp hmem
  obtain ⟨c, hc⟩ := hrecorded
  cases action with
  | printJobCreated =>
    cases hwork
    exact ⟨c, submitted_of_printJobCreated haction hc hm⟩
  | _ => cases hwork

lemma knowsDevice_code {result : Except Rejection Unit} (hknows : knowsDevice result = true)
    (hresult : result = .error rejection) : rejection.1 ≠ "DEVICE_NOT_FOUND" := by
  rw [hresult] at hknows
  exact bne_iff_ne.mp hknows

lemma admitted_owned {verified : VerifiedManagedDispatch} {agent : AgentState}
    {a : AdmissionAccepted} (hs : Confined s) (hhandler : s.handler = some h)
    (hphase : h.phase = .admitting verified)
    (hstep : s.agent.step (.advance (s.admissionInput inp.admission)) =
      (agent, .outcome (.accepted a)))
    (hworks : (s.history ++ actions).filterMap printWork = agent.db.jobs.rows.filterMap managedJob)
    (haccepted : AcceptedJobs agent.db) : Owned (s.history ++ actions) a.printJobId := by
  obtain ⟨call, m, hcall, hrequest, hwork⟩ := hs.printing.admits h verified hhandler hphase
  have hok := hs.recording.phase h hhandler
  simp only [PhaseOk, hphase] at hok
  obtain ⟨⟨r, hr, -, hpayload, -⟩, hmessage⟩ := hok
  obtain ⟨c, hc⟩ := (hs.records r hr).recorded
  rw [hpayload] at hc
  obtain ⟨row, hrow, hstate, hjob, hmatches⟩ := advance_acceptedAs hs.printing.agent.agent
    hs.printing.agent.answering hcall hrequest (congrArg Prod.snd hstep)
  rw [hstep] at hrow
  obtain ⟨j, hj, hid, hjwork⟩ := haccepted row hrow hstate
  have hjobId : a.printJobId = j.id := Option.some.inj (hjob.symm.trans hid)
  have hrowWork : row.managedWorkId = m.managedWorkId :=
    congrArg OriginComparison.managedWorkId hmatches.origin
  rw [hjobId]
  exact owned_of_printJob hworks hj ((hjwork.trans hrowWork).trans hwork)
    ⟨c, List.mem_append_left _ hc⟩ hmessage

theorem Handles.owned {next : Gateway × List GatewayAction} (hc : Handles s h inp next)
    (hs : Confined s) (hhandler : s.handler = some h)
    (hresolve : knowsDevice inp.resolveTarget = true)
    (hpublish : knowsDevice inp.publishEvent = true)
    (hworks : (s.history ++ next.2).filterMap printWork =
      next.1.agent.db.jobs.rows.filterMap managedJob)
    (haccepted : AcceptedJobs next.1.agent.db) :
    ∀ h', next.1.handler = some h' → HandlerOwned (s.history ++ next.2) h' := by
  have hown := hs.handler h hhandler
  have hat := hown.phase
  intro h' hh
  cases hc with
  | left | sent | requeued => cases hh
  | recorded epoch phase commands hphase hstart | resumed epoch phase hphase hstart =>
    cases hh
    refine hown.proceed ?_
    cases hstart with
    | cancel jobId hcontent => exact hcontent
    | enqueue | dispatch => trivial
  | replayed answer hphase hanswer =>
    cases hh
    obtain ⟨record, hmem, -, hresponse⟩ := hanswer
    exact hown.proceed ((hs.records record hmem).response answer hresponse).append
  | rejected epoch rejection hphase hcause =>
    cases hh
    refine hown.proceed ?_
    rcases hcause with hcause | hcause | hcode
    · exact knowsDevice_code hresolve hcause
    · exact knowsDevice_code hpublish hcause
    · exact hcode
  | jobCreated =>
    cases hh
    refine hown.proceed ?_
    exact ⟨_, submitted_of_jobCreated (List.mem_append_right _ (List.mem_singleton_self _))⟩
  | jobCancelled jobs row hphase =>
    cases hh
    rw [hphase] at hat
    exact hown.proceed (hown.message row.id hat).append
  | eventPublished jobId hphase =>
    cases hh
    rw [hphase] at hat
    exact hown.proceed (Owned.append hat)
  | waits | advanced =>
    obtain rfl := Option.some.inj (hhandler.symm.trans hh)
    exact hown.append
  | admits | resent =>
    cases hh
    refine hown.proceed ?_
    trivial
  | admitted verified agent output answer hphase hstep hanswer =>
    cases hh
    refine hown.proceed ?_
    obtain ⟨a, rfl, rfl⟩ | ⟨code, detail, rfl, hcode⟩ := hanswer
    · exact admitted_owned hs hhandler hphase hstep hworks haccepted
    · exact hcode
  | finished epoch answer commands hphase =>
    cases hh
    rw [hphase] at hat
    exact hown.proceed (AnswerOwned.append hat)

lemma controller_of_serves (henrolled : ∀ enrolled, s.enrolled = some enrolled →
    enrolled.controller = controller) : ∀ c ∈ s.controller, c = controller := by
  intro c hc
  obtain ⟨enrolled, hsome, rfl⟩ := Option.map_eq_some_iff.mp hc
  exact henrolled enrolled hsome

lemma Serves.step (hs : s.Serves controller)
    (henrolled : ∀ enrolled, s.enrolled = some enrolled → enrolled.controller = controller) :
    (s.step config e).1.Serves controller := by
  have hcurrent := controller_of_serves henrolled
  constructor
  · intro action hmem c hc
    rcases List.mem_append.mp hmem with hmem | hmem
    · exact hs.history action hmem c hc
    · cases next_effects.acts _ hmem with
      | recorded h hhandler | jobCreated h _ _ hhandler | jobCancelled h _ hhandler =>
        cases hc
        exact hs.handler h hhandler
      | printJobCreated | published => cases hc
  · intro r hr c hc
    cases next_effects.outbox _ hr with
    | kept r₀ hr₀ _ hqueued => exact hs.outbox r₀ hr₀ c (hqueued ▸ hc)
    | answer h a hhandler _ _ hqueued =>
      rw [hqueued] at hc
      cases hc
      exact hs.handler h hhandler
    | deviceEvent _ _ _ _ hqueued | jobEvent _ _ _ _ _ hqueued | observation _ _ _ _ _ _ hqueued =>
      exact hcurrent c (hqueued ▸ hc)
  · intro h' hh
    cases next_handler hh with
    | kept h hhandler _ heq => rw [heq]; exact hs.handler h hhandler
    | delivered _ hsome => exact henrolled _ hsome
  · rintro ⟨enrolled, rs⟩ hx r hr
    cases next_effects.sending _ _ hx _ hr with
    | kept rs₀ hsending hr₀ => exact hs.sending _ hsending r hr₀
    | listed hsome hr₀ => exact ⟨henrolled enrolled hsome, hs.outbox r hr₀⟩

lemma RowOwned.step (hp : s.RowOwned p) : (s.step config e).1.RowOwned p := by
  cases p with
  | jobEvent => exact LocalJobOn.kept hp next_effects.jobs
  | printJobEvent => exact Owned.append hp
  | answer | deviceEvent => trivial
  | snapshot => exact hp

lemma dispatchCommand_spec {scope : AgentManagedScope}
    {command : InboundRow ControllerCommandMessage}
    (hcommand : s.dispatchCommand scope w = some command) :
    command ∈ s.commands.inbound.rows ∧ command.payload.managedWorkId? = some w := by
  obtain ⟨hmem, hmatch⟩ := Table.first_spec hcommand
  refine ⟨hmem, ?_⟩
  cases hcontent : command.payload.content with
  | dispatchDeviceWork =>
    simp only [hcontent, Bool.and_eq_true, beq_iff_eq] at hmatch
    simp only [ControllerCommandMessage.managedWorkId?, hcontent, hmatch.1.1.1]
  | executeDeviceCommand | cancelJob =>
    simp only [hcontent] at hmatch
    cases hmatch

lemma Queued.rowOwned {r : OutboxRow} (hq : Queued s r) (hs : Confined s) :
    s.RowOwned r.payload := by
  cases hq with
  | kept r₀ hr₀ hpayload => rw [hpayload]; exact hs.queued r₀ hr₀
  | answer _ _ _ _ hpayload | deviceEvent _ _ _ hpayload => rw [hpayload]; trivial
  | jobEvent job hjob _ _ hpayload => rw [hpayload]; exact ⟨job, hjob, rfl, rfl⟩
  | observation _ _ _ _ _ hobserved =>
    obtain ⟨job, hjob, w, hw, command, hcommand, hpayload⟩ := observation_eq hobserved
    obtain ⟨hmem, hwork⟩ := dispatchCommand_spec hcommand
    rw [hpayload]
    exact owned_of_printJob hs.printing.works hjob hw (hs.records command hmem).recorded hwork

lemma RecordFrom.owned {r : InboundRow ControllerCommandMessage} (hf : RecordFrom s actions r)
    (hs : Confined s) : RecordOwned (s.history ++ actions) r := by
  cases hf with
  | kept hr => exact (hs.records r hr).append
  | finished h epoch a r₀ hhandler hphase hr₀ hfinished =>
    have hanswer := (hs.handler h hhandler).phase
    rw [hphase] at hanswer
    have hr : RecordOwned (s.history ++ actions) r₀ := (hs.records r₀ hr₀).append
    refine ⟨by rw [hfinished.payload]; exact hr.recorded,
      by rw [hfinished.payload]; exact hr.message, ?_, ?_⟩
    · intro jobId hjob
      rcases hfinished.jobId jobId hjob with hjob | rfl
      · exact hr.jobId jobId hjob
      · exact Owned.append hanswer
    · intro a' ha'
      obtain rfl := Option.some.inj (hfinished.response.symm.trans ha')
      exact AnswerOwned.append hanswer
  | recorded h hhandler hpayload hresponse hjob haction =>
    have hown := hs.handler h hhandler
    refine ⟨⟨_, List.mem_append_right _ (hpayload ▸ haction)⟩, ?_, ?_, ?_⟩
    · rw [hpayload]
      exact fun j hj => (hown.message j hj).append
    · intro jobId hsome
      rw [hjob] at hsome
      cases hsome
    · intro a hsome
      rw [hresponse] at hsome
      cases hsome

lemma step_accepted (hs : Confined s) : AcceptedJobs (s.step config e).1.agent.db := by
  cases @next_agent config s e with
  | same hagent =>
    rw [step, hagent]
    exact hs.accepted
  | stepped ae _ hagent =>
    rw [step, hagent]
    exact hs.accepted.event
      (step_any ae hs.printing.agent.agent).2

lemma step_handler (hs : Confined s) (hok : Considerate s e)
    (hprinting : Printing (s.step config e).1) :
    ∀ h', (s.step config e).1.handler = some h' → HandlerOwned (s.step config e).1.history h' := by
  have hkept : (s.next config e).1.handler = s.handler →
      ∀ h', (s.step config e).1.handler = some h' →
        HandlerOwned (s.step config e).1.history h' := by
    intro heq h' hh
    exact (hs.handler h' (heq ▸ hh)).append
  have haccepted := @step_accepted config s e hs
  cases e with
  | deliver message =>
    simp only [step, next] at hkept ⊢
    split
    · rename_i enrolled hnone henrolled
      rintro _ ⟨⟩
      refine ⟨fun jobId hcontent => ?_, trivial⟩
      have hcurrent : enrolled.controller ∈ s.controller := by
        simp [controller, henrolled]
      have hcancel : message.content = .cancelJob jobId := hcontent
      simp only [Considerate, hcancel] at hok
      exact Owned.append ⟨_, hok _ hcurrent⟩
    · intro h' hh
      exact (hs.handler h' hh).append
  | handle =>
    cases hhandler : s.handler with
    | none => exact hkept (by simp only [next, hhandler])
    | some =>
      have hworks := hprinting.works
      simp only [step, next, hhandler] at hworks haccepted ⊢
      exact handle_cases.owned hs hhandler hok.1 hok.2 hworks haccepted
  | cancelHandler | stop => rintro _ ⟨⟩
  | _ => exact hkept (next_leaves rfl).handler

lemma step_serves (hs : Confined s) (hok : Considerate s e) :
    ∃ controller, (s.step config e).1.Serves controller ∧
      ∀ enrolled, (s.step config e).1.enrolled = some enrolled →
        enrolled.controller = controller := by
  obtain ⟨controller, hserves, henrolled⟩ := hs.serves
  by_cases he : ofEnrollment e = true
  · cases e with
    | enroll enrolled =>
      -- the enrollment is all that changes
      have hsame : ∀ c, s.Serves c → (s.step config (.enroll enrolled)).1.Serves c := by
        intro c hc
        refine ⟨?_, hc.outbox, hc.handler, hc.sending⟩
        show ∀ action ∈ s.history ++ [], _
        rw [List.append_nil]
        exact hc.history
      cases enrolled with
      | none => exact ⟨controller, hsame _ hserves, by rintro _ ⟨⟩⟩
      | some enrolled =>
        refine ⟨enrolled.controller, hsame _ hok, ?_⟩
        rintro _ ⟨⟩
        rfl
    | _ => cases he
  · rw [Bool.not_eq_true] at he
    refine ⟨controller, hserves.step henrolled, ?_⟩
    intro enrolled hsome
    rw [step, next_effects.enrolled he] at hsome
    exact henrolled enrolled hsome

theorem Confined.step (hs : Confined s) (hok : Considerate s e) : Confined (s.step config e).1 := by
  obtain ⟨hrecording, hkept⟩ := @Recording.step config s e hs.recording
  have hprinting := step_printing hs.printing hs.recording hkept
  refine ⟨hrecording, step_answering hs.answering hs.recording hkept, hprinting,
    step_accepted hs, step_serves hs hok, step_handler hs hok hprinting, ?_, ?_, ?_⟩
  · intro r hr
    exact (next_records hs.recording hr).owned hs
  · intro r hr
    exact ((next_effects.outbox r hr).rowOwned hs).step
  · intro enrolled rs hsending r hr
    cases next_effects.sending _ _ hsending _ hr with
    | kept rs₀ hsending₀ hr₀ => exact (hs.sending enrolled rs₀ hsending₀ r hr₀).step
    | listed _ hr₀ => exact (hs.queued r hr₀).step

lemma owned_of_acceptedCommand {latest : String} (hs : Confined s)
    (haccepted : (s.acceptedCommand jobId latest).isSome = true) : Owned s.history jobId := by
  unfold acceptedCommand at haccepted
  split at haccepted
  · rename_i record hrecord
    have hmem : record ∈ s.commands.inbound.select (fun r => r.jobId == some jobId) := by
      simp only [getInboundCommandForJob] at hrecord
      rcases Option.or_eq_some_iff.mp hrecord with hfind | ⟨-, hhead⟩
      · exact List.mem_of_find?_eq_some hfind
      · exact List.mem_of_head? hhead
    obtain ⟨hrow, hjob⟩ := List.mem_filter.mp hmem
    exact (hs.records record hrow).jobId jobId (beq_iff_eq.mp hjob)
  · cases haccepted

lemma concerns_record {enrolled : Enrolled} {r : OutboxRow} {rs : List OutboxRow} {latest : String}
    {job : Option String} (hs : Confined s) (hsending : s.sending = some (enrolled, r :: rs))
    (hmay : s.mayPublish latest r.payload = true) (hc : s.Concerns r.payload job deviceId) :
    s.isShared deviceId = true ∨ ∃ jobId, job = some jobId ∧ Owned s.history jobId := by
  have hrow := hs.sending enrolled _ hsending r List.mem_cons_self
  have hanswer := hs.answering.sending enrolled _ hsending r List.mem_cons_self
  generalize r.payload = p at hmay hc hrow hanswer
  cases hc with
  | snapshot => cases hrow
  | deviceEvent => exact .inl hmay
  | notFound =>
    obtain ⟨record, hrecord, -, hresponse⟩ := hanswer _ _ rfl
    exact absurd rfl ((hs.records record hrecord).response _ hresponse)
  | answer commandId a jobId _ hjob =>
    refine .inr ⟨jobId, rfl, ?_⟩
    obtain ⟨record, hrecord, hid, hresponse⟩ := hanswer _ _ rfl
    rcases hjob with rfl | ⟨record', hrecord', hid', hcontent⟩
    · exact (hs.records record hrecord).response _ hresponse
    · exact (hs.records record' hrecord').message jobId hcontent
  | eventPayload jobId =>
    rcases Bool.or_eq_true_iff.mp hmay with haccepted | hshared
    · exact .inr ⟨jobId, rfl, owned_of_acceptedCommand hs haccepted⟩
    · exact .inl hshared
  | jobEvent jobId device _ _ _ hdevice =>
    rcases Bool.or_eq_true_iff.mp hmay with haccepted | hshared
    · exact .inr ⟨jobId, rfl, owned_of_acceptedCommand hs haccepted⟩
    · obtain rfl := LocalJobOn.unique hdevice hrow
      exact .inl hshared
  | printJobEvent jobId => exact .inr ⟨jobId, rfl, hrow⟩

lemma published_private {queuedFor : Option String} {job : Option String} (hs : Confined s)
    (hp : Publishes s controller queuedFor p) (hc : s.Concerns p job deviceId) :
    s.isShared deviceId = true ∨
      ∃ jobId, job = some jobId ∧ submitted s.history controller jobId = true := by
  obtain ⟨served, hserves, -⟩ := hs.serves
  cases hp with
  | record enrolled r rs latest hsending hmay hcontroller _ hpublication =>
    obtain rfl : controller = served :=
      hcontroller.trans (hserves.sending _ hsending r List.mem_cons_self).1
    rw [hpublication] at hc
    rcases concerns_record hs hsending hmay hc with hshared | ⟨jobId, hjob, howned⟩
    · exact .inl hshared
    · exact .inr ⟨jobId, hjob, hserves.submitted howned⟩
  | snapshot enrolled deviceIds _ _ _ hpublication =>
    rw [hpublication] at hc
    cases hc with
    | snapshot _ _ hdevice => exact .inl (List.mem_filter.mp hdevice).2

lemma published_recipient {queuedFor : String} (hs : Confined s)
    (hp : Publishes s controller (some queuedFor) p) : queuedFor = controller := by
  obtain ⟨served, hserves, -⟩ := hs.serves
  cases hp with
  | record enrolled r rs latest hsending _ hcontroller hqueued =>
    obtain ⟨hto, hfor⟩ := hserves.sending _ hsending r List.mem_cons_self
    rw [hcontroller, hto]
    exact hfor queuedFor hqueued.symm
  | snapshot enrolled _ _ hcontroller hqueued =>
    rw [hcontroller]
    exact Option.some.inj hqueued

lemma printJob_shared {commandId : Option String} (hs : Confined s)
    (hmem : .printJobCreated commandId w jobId deviceId ∈ (s.next config e).2) :
    s.isShared deviceId = true := by
  cases @next_agent config s e with
  | same _ hactions =>
    have hwork : (w, jobId, deviceId) ∈ (s.next config e).2.filterMap printWork :=
      List.mem_filterMap.mpr ⟨_, hmem, rfl⟩
    rw [hactions] at hwork
    cases hwork
  | stepped ae c _ hactions hshared =>
    have hadds := (step_adds ae hs.printing.agent hs.printing.naming).2
    rw [hactions] at hmem
    obtain ⟨-, j, ⟨inp, rfl, hadmitted⟩, hw, -, rfl⟩ :=
      (newPrintJobs_spec hadds c).2.2 _ _ _ _ hmem
    rw [← hshared inp rfl]
    exact hadmitted.shared w hw

theorem step_private (hs : Confined s) : Private s (s.step config e).2 := by
  constructor
  · intro controller queuedFor p hmem job deviceId hc
    exact published_private hs (next_published hmem) hc
  · intro controller commandId jobId deviceId hmem
    cases next_effects.acts _ hmem with
    | jobCreated h _ _ _ _ hshared => exact hshared
  · intro commandId w jobId deviceId hmem
    exact printJob_shared hs hmem
  · intro controller commandId jobId deviceId hmem
    obtain ⟨served, hserves, -⟩ := hs.serves
    cases next_effects.acts _ hmem with
    | jobCancelled h row hhandler hphase =>
      have hown := hs.handler h hhandler
      have hcontent := hown.phase
      rw [hphase] at hcontent
      rw [hserves.handler h hhandler]
      exact .inr (hserves.submitted (hown.message row.id hcontent))
  · intro controller queuedFor p hmem
    exact published_recipient hs (next_published hmem)

/-- Devices that are not shared stay private in every run in which Controllers are considerate. -/
theorem unshared_devices_private (config : GatewayConfig) (es : List GatewayEvent)
    (hok : RunOk Considerate (step config) {} es) :
    ∀ earlier e later, es = earlier ++ e :: later →
      Private (final (step config) {} earlier) (step config (final (step config) {} earlier) e).2 := by
  intro earlier e later hes
  rw [hes, runOk_append] at hok
  have hs : Confined (final (step config) {} earlier) :=
    final_invariant (fun s e hs he => hs.step he) confined_empty hok.1
  exact step_private hs

def actionsAfter (es : List GatewayEvent) (e : GatewayEvent) : List GatewayAction :=
  (step sampleConfig (afterGateway es) e).2

def answeredRun : List GatewayEvent :=
  sampleStart ++ proceeds "job_1" 5 ++ [.share [], .startFlush ["out_1"]]

theorem answer_of_own_job_published :
    RunOk Considerate (step sampleConfig) {} (answeredRun ++ [.flushNext "" .sent]) ∧
      actionsAfter answeredRun (.flushNext "" .sent) =
        [.published "ctl_1" (some "ctl_1") (.answer "cmd_1" (.accepted "job_1"))] ∧
      Private (afterGateway answeredRun) (actionsAfter answeredRun (.flushNext "" .sent)) := by
  have hok : RunOk Considerate (step sampleConfig) {} (answeredRun ++ [.flushNext "" .sent]) := by
    decide +kernel
  exact ⟨hok, by decide +kernel,
    unshared_devices_private sampleConfig _ hok answeredRun (.flushNext "" .sent) [] rfl⟩

def cancelCommand (jobId : String) : ControllerCommandMessage :=
  ⟨"msg_2", "cmd_2", 1, none, .cancelJob jobId⟩

def cancelRun : List GatewayEvent :=
  [.enroll (some sampleEnrolled), .submitLocal "job_9" "dev_private",
    .deliver (cancelCommand "job_9"), .handle (handlerInput "job_0")]

def enrolledRun : List GatewayEvent :=
  sampleStart ++ proceeds "job_1" 5 ++
    [.enroll (some { sampleEnrolled with controller := "ctl_2" }), .startFlush ["out_1"]]

def missingRun : List GatewayEvent :=
  sampleStart ++ List.replicate 4 (.handle { handlerInput "job_1" with
    resolveTarget := .error (deviceNotFound "dev_printer") }) ++ [.share [], .startFlush ["out_1"]]

theorem unshared_devices_shown :
    ¬Private (afterGateway cancelRun) (actionsAfter cancelRun (.handle (handlerInput "job_0"))) ∧
    ¬Private (afterGateway enrolledRun) (actionsAfter enrolledRun (.flushNext "" .sent)) ∧
    ¬Private (afterGateway missingRun) (actionsAfter missingRun (.flushNext "" .sent)) := by
  refine ⟨fun h => ?_, fun h => ?_, fun h => ?_⟩
  · have hcancelled := h.jobCancelled "ctl_1" "cmd_2" "job_9" "dev_private" (by decide +kernel)
    revert hcancelled
    decide +kernel
  · have hrecipient := h.recipient "ctl_2" "ctl_1" (.answer "cmd_1" (.accepted "job_1"))
      (by decide +kernel)
    revert hrecipient
    decide
  · have hpublished := h.published "ctl_1" (some "ctl_1")
      (.answer "cmd_1" (.rejected (deviceNotFound "dev_printer").1 (deviceNotFound "dev_printer").2))
      (by decide +kernel) none "dev_printer" (.notFound "cmd_1" "dev_printer")
    rcases hpublished with hshared | ⟨_, ⟨⟩, _⟩
    revert hshared
    decide +kernel

end Gateway

end Inari.Agent
