import Inari.Controller.ManagedJobs
import Inari.Proofs.CommandChannel
import Inari.Proofs.CommandSequences
import Inari.Proofs.GatewayRecords

/-!
# Cancelled jobs

A cancellation carries the id of the Controller, which the Agent looks up among its local ids.
-/

namespace Inari.Agent

open Lib GatewayRepository

namespace JobService

variable {jobs : JobTable} {jobId : String} {r : JobRow}

lemma job_eq {r' : JobRow} (hr : r ∈ jobs.rows) (hr' : r' ∈ jobs.rows) (hid : r.id = r'.id) :
    r = r' :=
  jobs.eq_of_key (u := jobIdKey) (by simp [jobSpec]) hr hr' (k := r'.id) (congrArg some hid) rfl

lemma cancellable_iff : cancellable jobId r = true ↔ r.id = jobId ∧
    (r.state = .queued ∨ r.state = .retryScheduled ∨ r.state = .dispatched) := by
  simp [cancellable, or_assoc]

lemma cancellable_ne (h : cancellable jobId r = true) : r.state ≠ .cancelled := by
  obtain ⟨-, h | h | h⟩ := cancellable_iff.mp h <;> simp [h]

def cancelled (jobId : String) (rows : List JobRow) : List JobRow :=
  Table.updated rows (fun r => r.id == jobId) (fun r => { r with state := .cancelled })

lemma updated_eq_cancelled (hr : r ∈ jobs.rows) (hc : cancellable jobId r = true) :
    Table.updated jobs.rows (cancellable jobId) (fun r => { r with state := .cancelled }) =
      cancelled jobId jobs.rows := by
  apply List.map_congr_left
  intro x hx
  by_cases hid : x.id = jobId
  · have hxr : x = r := job_eq hx hr (hid.trans (cancellable_iff.mp hc).1.symm)
    subst hxr
    rw [if_pos hc, if_pos (beq_iff_eq.mpr hid)]
  · rw [if_neg (fun h => hid (cancellable_iff.mp h).1), if_neg (by simpa using hid)]

lemma cancel_of_cancellable (hr : r ∈ jobs.rows) (hc : cancellable jobId r = true) :
    ∃ jobs', cancel jobs jobId = .ok (jobs', r) ∧ jobs'.rows = cancelled jobId jobs.rows := by
  have hfirst : jobs.first (cancellable jobId) = some r := by
    apply Table.first_eq hr hc
    intro x hx hxc
    exact job_eq hx hr ((cancellable_iff.mp hxc).1.trans (cancellable_iff.mp hc).1.symm)
  obtain ⟨jobs', hupdate⟩ : ∃ jobs', jobs.update (cancellable jobId)
      (fun r => { r with state := .cancelled }) = (.ok jobs' : Except GatewayError _) := by
    apply Table.update_ok
    · intro x _ _
      rfl
    · intro u hu x _ _
      obtain rfl := List.mem_singleton.mp hu
      rfl
  refine ⟨jobs', ?_, (Table.update_rows hupdate).trans (updated_eq_cancelled hr hc)⟩
  simp only [cancel, hfirst, hupdate]

lemma cancel_refused (h : ∀ r ∈ jobs.rows, cancellable jobId r = false) :
    ∃ rejection, cancel jobs jobId = .error rejection := by
  simp only [cancel, Table.first_eq_none h]
  split
  · exact ⟨_, rfl⟩
  · exact ⟨_, rfl⟩

lemma id_of_not_mem_cancelled (hr : r ∈ jobs.rows) (h : r ∉ cancelled jobId jobs.rows) :
    r.id = jobId := by
  by_contra hid
  exact h (Table.mem_left rfl hr (by simpa using hid))

lemma not_mem_cancelled (hr : r ∈ jobs.rows) (hstate : r.state ≠ .cancelled) :
    r ∉ cancelled jobId jobs.rows ↔ r.id = jobId := by
  refine ⟨id_of_not_mem_cancelled hr, fun hid hmem => ?_⟩
  rcases Table.updated_cases rfl hmem with ⟨-, hne⟩ | ⟨x, -, -, rfl⟩
  · exact beq_eq_false_iff_ne.mp hne hid
  · exact hstate rfl

end JobService

namespace Gateway

variable {config : GatewayConfig} {s : Gateway} {h : Handler} {inp : HandlerInput}
  {e : GatewayEvent} {jobId : String}

def CancelsAsTold (s : Gateway) : Prop :=
  ∀ h jobId, s.handler = some h → h.phase = .cancel jobId → h.message.content = .cancelJob jobId

theorem CancelsAsTold.step (hs : CancelsAsTold s) : CancelsAsTold (s.step config e).1 := by
  intro h' jobId hh hphase
  change (s.next config e).1.handler = some h' at hh
  have hkept : (s.next config e).1.handler = s.handler → h'.message.content = .cancelJob jobId :=
    fun heq => hs h' jobId (heq ▸ hh) hphase
  have hleft : ofHandler e = false → h'.message.content = .cancelJob jobId :=
    fun he => hkept (next_leaves he).handler
  cases e with
  | deliver =>
    simp only [next] at hh hkept
    split at hh
    · cases hh
      cases hphase
    · exact hs h' jobId hh hphase
  | handle =>
    simp only [next] at hh
    split at hh
    · exact hs h' jobId hh hphase
    · rename_i h hhandler
      obtain rfl | hcontent := (handle_cases.handler hhandler hh).2.2 jobId hphase
      · exact hs h' jobId hhandler hphase
      · exact hcontent
  | cancelHandler | stop => cases hh
  | _ => exact hleft rfl

lemma handle_cancel (hphase : h.phase = .cancel jobId) :
    (∃ r ∈ s.jobs.rows, JobService.cancellable jobId r = true ∧
      (s.handle config h inp).1.jobs.rows = JobService.cancelled jobId s.jobs.rows ∧
      (s.handle config h inp).1.commands = s.commands ∧
      (s.handle config h inp).1.handler = some { h with phase := .publishEvent jobId }) ∨
    ((∀ r ∈ s.jobs.rows, JobService.cancellable jobId r = false) ∧
      (s.handle config h inp).1.jobs = s.jobs) := by
  simp only [handle, hphase]
  by_cases hc : ∃ r ∈ s.jobs.rows, JobService.cancellable jobId r = true
  · obtain ⟨r, hr, hcr⟩ := hc
    obtain ⟨jobs, hcancel, hrows⟩ := JobService.cancel_of_cancellable hr hcr
    refine .inl ⟨r, hr, hcr, ?_⟩
    simp only [cancelJob, hcancel, (JobService.cancellable_iff.mp hcr).1]
    exact ⟨hrows, rfl, rfl⟩
  · have hnone : ∀ r ∈ s.jobs.rows, JobService.cancellable jobId r = false :=
      fun r hr => Bool.eq_false_iff.mpr fun h => hc ⟨r, hr, h⟩
    obtain ⟨rejection, hcancel⟩ := JobService.cancel_refused hnone
    refine .inr ⟨hnone, ?_⟩
    simp only [cancelJob, hcancel]
    rfl

end Gateway

end Inari.Agent

namespace Inari.Controller

open Lib Inari.Agent Read

lemma read_cancellation {tools : WireTools} {m : ControllerCommand} {y : ControllerCommandMessage}
    {jobId : String} (hbody : m.body = .cancelJob jobId)
    (hread : ControllerCommandMessage.modelValidate tools (m.toJson tools) = .ok y) :
    y.content = .cancelJob (strip isRustSpace jobId) := by
  obtain ⟨messageId, commandId, sequence, issuedAt, body⟩ := m
  obtain rfl : body = .cancelJob jobId := hbody
  simp [ControllerCommandMessage.modelValidate, ControllerCommand.toJson,
    CommandBody.messageType, CommandBody.field, controllerMessage, bind_ok, List.lookup, field,
    fieldD, forbidExtra, map_ok] at hread
  obtain ⟨-, _, -, rfl⟩ := hread
  rfl

def ManagedJobsEvent.spares : ManagedJobsEvent → Bool
  | .gateway (.handle _) | .gateway .cancelHandler | .gateway .stop => false
  | _ => true

namespace ManagedJobs

variable {a : ManagedAgent} {s : ManagedJobs} {jobId : JobId} {h : Handler}

structure Steady (s : ManagedJobs) : Prop where
  recording : Gateway.Recording s.gateway
  told : Gateway.CancelsAsTold s.gateway

lemma step_gateway (e : ManagedJobsEvent) : (step a s e).1.gateway = s.gateway ∨
    ∃ e', (step a s e).1.gateway = (s.gateway.step a.gateway e').1 := by
  unfold step
  split
  · exact .inl rfl
  · split
    · exact .inl rfl
    · exact .inr ⟨_, rfl⟩
  · exact .inl rfl
  · exact .inr ⟨_, rfl⟩

theorem Steady.step (hs : Steady s) (e : ManagedJobsEvent) : Steady (step a s e).1 := by
  obtain hsame | ⟨e', hstep⟩ := step_gateway (a := a) (s := s) e
  · exact ⟨hsame ▸ hs.recording, hsame ▸ hs.told⟩
  · exact ⟨hstep ▸ hs.recording.step.1, hstep ▸ hs.told.step⟩

lemma final_steady (a : ManagedAgent) (es : List ManagedJobsEvent) :
    Steady (final (step a) {} es) := by
  apply final_of_step (I := Steady) (fun s e hs => hs.step e)
  refine ⟨⟨?_, ?_⟩, ?_⟩
  · intro r hr
    cases hr
  · intro h hh
    cases hh
  · intro h jobId hh
    cases hh

def CreatedFor (s : ManagedJobs) (jobId : JobId) (localId : String) : Prop :=
  ∃ controller deviceId, .jobCreated controller jobId.text localId deviceId ∈ s.gateway.history

/-- The local job that the Agent created for the command may be cancelled. -/
structure LocalJob (a : ManagedAgent) (s : ManagedJobs) (jobId : JobId) (localId : String) :
    Prop where
  command : ∃ c ∈ s.controller.commands.rows, c.agentId = a.agentId ∧ c.commandId = jobId.text ∧
    ∃ m payload, c.command = .inline m ∧ m.body = .executeDeviceCommand payload
  created : CreatedFor s jobId localId
  accepted : Gateway.Responds s.gateway.commands jobId.text (.accepted localId)
  waiting : ∃ r ∈ s.gateway.jobs.rows, JobService.cancellable localId r = true

/-- The handler has recorded a cancellation of the Controller's job and is about to cancel. -/
structure Cancelling (a : ManagedAgent) (s : ManagedJobs) (jobId : JobId) (h : Handler) :
    Prop where
  handler : s.gateway.handler = some h
  phase : ∃ x, h.phase = .cancel x
  command : ∃ c ∈ s.controller.commands.rows, c.agentId = a.agentId ∧
    ∃ m, c.command = .inline m ∧ m.body = .cancelJob jobId.text ∧
      ControllerCommandMessage.modelValidate a.tools.wire (m.toJson a.tools.wire) = .ok h.message

lemma Cancelling.phase_eq (hc : Cancelling a s jobId h) (hs : Steady s) :
    h.phase = .cancel jobId.text := by
  obtain ⟨x, hx⟩ := hc.phase
  obtain ⟨c, -, -, m, -, hbody, hread⟩ := hc.command
  have htold := hs.told h x hc.handler hx
  rw [read_cancellation hbody hread, jobId.strip_text] at htold
  cases htold
  exact hx

/-- The cancellation cancels the local job of the job and no other, and is accepted. -/
structure CancelsJob (a : ManagedAgent) (s : ManagedJobs) (jobId : JobId) (h : Handler) :
    Prop where
  cancels : ∀ localId, LocalJob a s jobId localId → ∀ inp,
    (step a s (.gateway (.handle inp))).1.gateway.jobs.rows =
      JobService.cancelled localId s.gateway.jobs.rows
  answers : ∀ localId, LocalJob a s jobId localId → ∀ i₁ i₂ i₃ es₁ es₂,
    i₂.publishEvent = .ok () → (∀ e ∈ es₁, e.spares = true) → (∀ e ∈ es₂, e.spares = true) →
    Gateway.Responds (final (step a) s (.gateway (.handle i₁) :: (es₁ ++ .gateway (.handle i₂) ::
      (es₂ ++ [.gateway (.handle i₃)])))).gateway.commands h.message.commandId (.accepted localId)
  spares : ∀ inp, ∀ r ∈ s.gateway.jobs.rows,
    r ∉ (step a s (.gateway (.handle inp))).1.gateway.jobs.rows → CreatedFor s jobId r.id

/-- The local job has the id of the Controller, and no other one that may be cancelled has it. -/
structure SharesId (a : ManagedAgent) (s : ManagedJobs) (jobId : JobId) : Prop where
  localJob : ∀ localId, LocalJob a s jobId localId → localId = jobId.text
  created : ∀ r ∈ s.gateway.jobs.rows, JobService.cancellable jobId.text r = true →
    CreatedFor s jobId r.id

lemma step_spares {e : ManagedJobsEvent} (hhandler : s.gateway.handler = some h)
    (he : e.spares = true) : (step a s e).1.gateway.commands = s.gateway.commands ∧
      (step a s e).1.gateway.handler = some h := by
  rw [← hhandler]
  cases e with
  | controller => exact ⟨rfl, rfl⟩
  | deliver =>
    simp only [step]
    split
    · exact ⟨rfl, rfl⟩
    · simp only [Gateway.step, Gateway.next, hhandler]
      exact ⟨trivial, trivial⟩
  | gateway e =>
    cases e with
    | deliver => exact ⟨rfl, rfl⟩
    | handle | cancelHandler | stop => cases he
    | _ => exact ⟨(Gateway.next_leaves rfl).commands, (Gateway.next_leaves rfl).handler⟩

lemma final_spares {es : List ManagedJobsEvent} (hes : ∀ e ∈ es, e.spares = true)
    (hhandler : s.gateway.handler = some h) :
    (final (step a) s es).gateway.commands = s.gateway.commands ∧
      (final (step a) s es).gateway.handler = some h := by
  induction es generalizing s with
  | nil => exact ⟨rfl, hhandler⟩
  | cons e es ih =>
    obtain ⟨hcommands, hstep⟩ := step_spares (a := a) hhandler (hes e List.mem_cons_self)
    obtain ⟨hcommands', hfinal⟩ := ih (fun e he => hes e (List.mem_cons_of_mem _ he)) hstep
    exact ⟨hcommands'.trans hcommands, hfinal⟩

lemma step_handle (hhandler : s.gateway.handler = some h) (inp : HandlerInput) :
    (step a s (.gateway (.handle inp))).1.gateway.jobs = (s.gateway.handle a.gateway h inp).1.jobs ∧
    (step a s (.gateway (.handle inp))).1.gateway.commands =
      (s.gateway.handle a.gateway h inp).1.commands ∧
    (step a s (.gateway (.handle inp))).1.gateway.handler =
      (s.gateway.handle a.gateway h inp).1.handler := by
  simp only [step, Gateway.step, Gateway.next, hhandler]
  exact ⟨trivial, trivial, trivial⟩

lemma step_cancel {x : String} (hhandler : s.gateway.handler = some h) (hphase : h.phase = .cancel x)
    (inp : HandlerInput) :
    (∃ r ∈ s.gateway.jobs.rows, JobService.cancellable x r = true ∧
      (step a s (.gateway (.handle inp))).1.gateway.jobs.rows =
        JobService.cancelled x s.gateway.jobs.rows ∧
      (step a s (.gateway (.handle inp))).1.gateway.commands = s.gateway.commands ∧
      (step a s (.gateway (.handle inp))).1.gateway.handler =
        some { h with phase := .publishEvent x }) ∨
    ((∀ r ∈ s.gateway.jobs.rows, JobService.cancellable x r = false) ∧
      (step a s (.gateway (.handle inp))).1.gateway.jobs = s.gateway.jobs) := by
  obtain ⟨hjobs, hcommands, hnext⟩ := step_handle (a := a) hhandler inp
  rw [hjobs, hcommands, hnext]
  exact Gateway.handle_cancel hphase

variable {localId : String}

lemma publishEvent_answers {i₂ i₃ : HandlerInput} {es₁ es₂ : List ManagedJobsEvent}
    (hhandler : s.gateway.handler = some { h with phase := .publishEvent localId })
    (hwaiting : Gateway.Waiting s.gateway.commands h.message none) (hi : i₂.publishEvent = .ok ())
    (hes₁ : ∀ e ∈ es₁, e.spares = true) (hes₂ : ∀ e ∈ es₂, e.spares = true) :
    Gateway.Responds (final (step a) s (es₁ ++ .gateway (.handle i₂) ::
      (es₂ ++ [.gateway (.handle i₃)]))).gateway.commands h.message.commandId
        (.accepted localId) := by
  rw [final_append, final_cons, final_append, final_cons, final_nil]
  obtain ⟨hcommands₁, hhandler₁⟩ := final_spares (a := a) hes₁ hhandler
  generalize final (step a) s es₁ = s₁ at hcommands₁ hhandler₁ ⊢
  obtain ⟨-, hcommands₂, hhandler₂⟩ := step_handle (a := a) hhandler₁ i₂
  simp only [Gateway.handle, hi] at hcommands₂ hhandler₂
  obtain ⟨hcommands₃, hhandler₃⟩ := final_spares (a := a) hes₂ hhandler₂
  generalize final (step a) _ es₂ = s₃ at hcommands₃ hhandler₃ ⊢
  obtain ⟨-, hcommands₄, -⟩ := step_handle (a := a) hhandler₃ i₃
  have hsame : s₃.gateway.commands = s.gateway.commands :=
    hcommands₃.trans (hcommands₂.trans hcommands₁)
  obtain ⟨db, hmark, -⟩ :=
    Agent.markInbound_ok s₃.gateway.commands h.message.commandId (.accepted localId)
  simp only [Gateway.handle, Gateway.finishCommand, hmark] at hcommands₄
  rw [hcommands₄]
  exact (Gateway.finishes_of_markInbound hmark).responds (hsame ▸ hwaiting)

/-- Over every run, a cancellation does what it is for exactly where the local job has the id of the
Controller. -/
theorem cancellation_cancels_job_iff (a : ManagedAgent) (es : List ManagedJobsEvent)
    (jobId : JobId) (h : Handler) (hc : Cancelling a (final (step a) {} es) jobId h) :
    CancelsJob a (final (step a) {} es) jobId h ↔ SharesId a (final (step a) {} es) jobId := by
  have hs := final_steady a es
  generalize final (step a) {} es = s at hc hs ⊢
  have hphase := hc.phase_eq hs
  constructor
  · intro hcancels
    have hcase := step_cancel (a := a) hc.handler hphase (Gateway.handlerInput "")
    refine ⟨?_, ?_⟩
    · -- the handler leaves a local job with another id as it is
      intro localId hlocal
      obtain ⟨r, hr, hcr⟩ := hlocal.waiting
      have hid := (JobService.cancellable_iff.mp hcr).1
      by_contra hne
      have hother : r.id ≠ jobId.text := fun h => hne (hid.symm.trans h)
      have hgone := (JobService.not_mem_cancelled hr (JobService.cancellable_ne hcr)).mpr hid
      rw [← hcancels.cancels localId hlocal (Gateway.handlerInput "")] at hgone
      rcases hcase with ⟨-, -, -, hjobs, -⟩ | ⟨-, hjobs⟩
      · rw [hjobs] at hgone
        exact hother (JobService.id_of_not_mem_cancelled hr hgone)
      · rw [hjobs] at hgone
        exact hgone hr
    · intro r hr hcr
      apply hcancels.spares (Gateway.handlerInput "") r hr
      rcases hcase with ⟨-, -, -, hjobs, -⟩ | ⟨hnone, -⟩
      · rw [hjobs]
        exact (JobService.not_mem_cancelled hr (JobService.cancellable_ne hcr)).mpr
          (JobService.cancellable_iff.mp hcr).1
      · rw [hnone r hr] at hcr
        cases hcr
  · intro hshares
    have hlocalCase (localId : String) (hlocal : LocalJob a s jobId localId) (inp : HandlerInput) :
        localId = jobId.text ∧ (step a s (.gateway (.handle inp))).1.gateway.jobs.rows =
          JobService.cancelled localId s.gateway.jobs.rows ∧
        (step a s (.gateway (.handle inp))).1.gateway.commands = s.gateway.commands ∧
        (step a s (.gateway (.handle inp))).1.gateway.handler =
          some { h with phase := .publishEvent localId } := by
      obtain ⟨r, hr, hcr⟩ := hlocal.waiting
      obtain rfl := hshares.localJob localId hlocal
      rcases step_cancel (a := a) hc.handler hphase inp with ⟨-, -, -, hdone⟩ | ⟨hnone, -⟩
      · exact ⟨rfl, hdone⟩
      · rw [hnone r hr] at hcr
        cases hcr
    refine ⟨fun localId hlocal inp => (hlocalCase localId hlocal inp).2.1, ?_, ?_⟩
    · intro localId hlocal i₁ i₂ i₃ es₁ es₂ hi hes₁ hes₂
      obtain ⟨-, -, hcommands, hhandler⟩ := hlocalCase localId hlocal i₁
      have hwaiting := hs.recording.phase h hc.handler
      simp only [Gateway.PhaseOk, hphase] at hwaiting
      exact publishEvent_answers hhandler (hcommands ▸ hwaiting.1) hi hes₁ hes₂
    · intro inp r hr hgone
      rcases step_cancel (a := a) hc.handler hphase inp with ⟨r', hr', hcr, hjobs, -⟩ | ⟨-, hjobs⟩
      · rw [hjobs] at hgone
        have hid := JobService.id_of_not_mem_cancelled hr hgone
        obtain rfl := JobService.job_eq hr hr' (hid.trans (JobService.cancellable_iff.mp hcr).1.symm)
        exact hshares.created r hr hcr
      · rw [hjobs] at hgone
        exact absurd hr hgone

def sampleManaged : ManagedAgent :=
  ⟨sampleAgent, sampleTools, { Gateway.sampleConfig with wire := sampleWire }⟩

def sampleJob : JobId := ⟨"job_00000000000040008000000000000001", by decide +kernel⟩

def handled (localId : String) (steps : Nat) : List ManagedJobsEvent :=
  (Gateway.proceeds localId steps).map .gateway

def cancelledRun (localId : String) : List ManagedJobsEvent :=
  [.gateway (.enroll (some Gateway.sampleEnrolled)), .gateway (.share ["dev_printer"]),
    .controller (.other (.request (.enqueueJob sampleConfig sampleFleet sampleAgent sampleJob
      ⟨.executeDeviceCommand ⟨⟨"dev_printer"⟩, .openCashDrawer, []⟩⟩ 1))),
    .deliver sampleConfig sampleFleet 1 2] ++ handled localId 5 ++
  [.controller (.other (.request (.cancelJob sampleConfig sampleFleet sampleJob 3))),
    .deliver sampleConfig sampleFleet 2 4] ++ handled "" 1

def sampleCancellation : ControllerCommand :=
  ⟨"msg_job_cancel_6823b12991f67fc9915cb1b6b84ad35e",
    "job_cancel_6823b12991f67fc9915cb1b6b84ad35e", 2, 3, .cancelJob sampleJob.text⟩

def sampleCommand : ControllerCommand :=
  ⟨"msg_job_00000000000040008000000000000001", sampleJob.text, 1, 1,
    .executeDeviceCommand ⟨⟨"dev_printer"⟩, .openCashDrawer, []⟩⟩

def sampleHandler : Handler :=
  ⟨sampleCancellation.asRead (.cancelJob sampleJob.text), Gateway.sampleEnrolled,
    .cancel sampleJob.text⟩

def afterJobs (es : List ManagedJobsEvent) : ManagedJobs := final (step sampleManaged) {} es

lemma cancelling_sample
    (hhandler : (afterJobs (cancelledRun localId)).gateway.handler = some sampleHandler)
    (hstored : (afterJobs (cancelledRun localId)).controller.commands.rows.any (fun c =>
      c.agentId == sampleAgent && c.command == .inline sampleCancellation) = true) :
    Cancelling sampleManaged (afterJobs (cancelledRun localId)) sampleJob sampleHandler := by
  obtain ⟨c, hc, hcommand⟩ := List.any_eq_true.mp hstored
  simp only [Bool.and_eq_true, beq_iff_eq] at hcommand
  refine ⟨hhandler, ⟨_, rfl⟩, c, hc, hcommand.1, sampleCancellation, hcommand.2, rfl, ?_⟩
  exact (read_command ⟨by decide +kernel, by rintro _ ⟨⟩⟩).mpr
    ⟨by decide, _, readsAs_cancelJob.mpr rfl, by rw [sampleJob.strip_text]; rfl⟩

lemma localJob_sample
    (hstored : (afterJobs (cancelledRun localId)).controller.commands.rows.any (fun c =>
      c.agentId == sampleAgent && c.command == .inline sampleCommand && c.commandId == sampleJob.text)
      = true) (hcreated : .jobCreated "ctl_1" sampleJob.text localId "dev_printer" ∈
      (afterJobs (cancelledRun localId)).gateway.history)
    (haccepted : ∃ r ∈ (afterJobs (cancelledRun localId)).gateway.commands.inbound.rows,
      r.commandId = sampleJob.text ∧ r.response = some (.accepted localId))
    (hwaiting : ⟨localId, "dev_printer", .queued⟩ ∈
      (afterJobs (cancelledRun localId)).gateway.jobs.rows) :
    LocalJob sampleManaged (afterJobs (cancelledRun localId)) sampleJob localId := by
  obtain ⟨c, hc, hcommand⟩ := List.any_eq_true.mp hstored
  simp only [Bool.and_eq_true, beq_iff_eq] at hcommand
  refine ⟨⟨c, hc, hcommand.1.1, hcommand.2, sampleCommand, _, hcommand.1.2, rfl⟩,
    ⟨_, _, hcreated⟩, haccepted, _, hwaiting, ?_⟩
  simp [JobService.cancellable]

theorem matching_ids_cancel :
    LocalJob sampleManaged (afterJobs (cancelledRun sampleJob.text)) sampleJob sampleJob.text ∧
      CancelsJob sampleManaged (afterJobs (cancelledRun sampleJob.text)) sampleJob
        sampleHandler := by
  have hlocal : LocalJob sampleManaged (afterJobs (cancelledRun sampleJob.text)) sampleJob
      sampleJob.text :=
    localJob_sample (by decide +kernel) (by decide +kernel) (by decide +kernel) (by decide +kernel)
  refine ⟨hlocal, (cancellation_cancels_job_iff sampleManaged (cancelledRun sampleJob.text)
    sampleJob sampleHandler (cancelling_sample (by decide +kernel) (by decide +kernel))).mpr
      ⟨?_, ?_⟩⟩
  · intro localId hother
    cases hother.accepted.unique hlocal.accepted
    rfl
  · intro r hr hcr
    rw [(JobService.cancellable_iff.mp hcr).1]
    exact hlocal.created

def otherId : String := "job_00000000000040008000000000000002"

theorem own_id_not_cancelled :
    Cancelling sampleManaged (afterJobs (cancelledRun otherId)) sampleJob sampleHandler ∧
      LocalJob sampleManaged (afterJobs (cancelledRun otherId)) sampleJob otherId ∧
      ¬CancelsJob sampleManaged (afterJobs (cancelledRun otherId)) sampleJob sampleHandler ∧
      (afterJobs (cancelledRun otherId ++ handled "" 2)).gateway.jobs.rows =
        [⟨otherId, "dev_printer", .queued⟩] ∧
      Gateway.Responds (afterJobs (cancelledRun otherId ++ handled "" 2)).gateway.commands
        sampleHandler.message.commandId
        (.rejected "JOB_NOT_FOUND"
          "Job 'job_00000000000040008000000000000001' was not found.") := by
  have hlocal : LocalJob sampleManaged (afterJobs (cancelledRun otherId)) sampleJob otherId :=
    localJob_sample (by decide +kernel) (by decide +kernel) (by decide +kernel) (by decide +kernel)
  refine ⟨cancelling_sample (by decide +kernel) (by decide +kernel), hlocal, ?_,
    by decide +kernel, ?_⟩
  · intro h
    have hcancelled := h.cancels otherId hlocal (Gateway.handlerInput "")
    revert hcancelled
    decide +kernel
  · show ∃ r ∈ _, _
    decide +kernel

end ManagedJobs

end Inari.Controller
