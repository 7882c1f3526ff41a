import Inari.Proofs.GatewayHandlers

/-!
# What one step of the gateway can do

For each table, where the rows after a step come from; for each action, the state in which the
gateway took it.
-/

namespace Inari.Agent

open Lib DurableSpoolAdmissionStore GatewayRepository

namespace Gateway

variable {config : GatewayConfig} {s : Gateway} {h : Handler} {inp : HandlerInput}
  {e : GatewayEvent}

def ofHandler : GatewayEvent → Bool
  | .deliver _ | .handle _ | .cancelHandler | .stop => true
  | _ => false

def ofAgent : GatewayEvent → Bool
  | .agent _ => true
  | _ => false

def ofEnrollment : GatewayEvent → Bool
  | .enroll _ => true
  | _ => false

def quiet : GatewayAction → Bool
  | .printJobCreated _ _ _ _ | .published _ _ _ => true
  | .recorded _ _ | .jobCreated _ _ _ _ | .jobCancelled _ _ _ _ => false

def printWork : GatewayAction → Option (String × String × String)
  | .printJobCreated _ w jobId deviceId => some (w, jobId, deviceId)
  | _ => none

inductive Queued (s : Gateway) (r : OutboxRow) : Prop
  | kept (r₀ : OutboxRow) (hr₀ : r₀ ∈ s.outbox.rows) (hpayload : r.payload = r₀.payload)
      (hqueued : r.queuedFor = r₀.queuedFor) (hscope : r.recipientScope = r₀.recipientScope)
  | answer (h : Handler) (a : CommandAnswer) (hhandler : s.handler = some h)
      (hphase : h.phase = .send a ∨ h.phase = .resend a)
      (hpayload : r.payload = .answer h.message.commandId a)
      (hqueued : r.queuedFor = some h.enrolled.controller)
  | deviceEvent (deviceId : String) (sequence : Nat) (hshared : s.isShared deviceId = true)
      (hpayload : r.payload = .deviceEvent deviceId sequence)
      (hqueued : r.queuedFor = s.controller)
  | jobEvent (job : JobRow) (hjob : job ∈ s.jobs.rows) (commandId : Option String) (sequence : Nat)
      (hpayload : r.payload = .jobEvent job.id job.deviceId commandId sequence)
      (hqueued : r.queuedFor = s.controller)
  | observation (e : Enrolled) (scope : AgentManagedScope) (event : PrintJobEventRow)
      (henrolled : s.enrolled = some e) (hscope : e.scope = some scope)
      (hobserved : s.observation scope event = some r.payload) (hqueued : r.queuedFor = s.controller)

variable {r : OutboxRow} {outbox : Outbox} {messageId latest jobId : String} {sequence : Nat}
  {db db' : Db} {s' : Gateway}

lemma Queued.of_mem (hr : r ∈ s.outbox.rows) : Queued s r := .kept r hr rfl rfl rfl

lemma enqueueOutbound_rows {outbox' : Outbox} {queued : String} {payload : Publication}
    {key : DedupeKey} {scope : Option AgentManagedScope} {queuedFor : Option String}
    (h : enqueueOutbound outbox messageId payload key scope queuedFor = .ok (outbox', queued)) :
    ∀ r ∈ outbox'.rows, r ∈ outbox.rows ∨
      r = ⟨messageId, .pending, payload, some key, scope, queuedFor⟩ := by
  unfold enqueueOutbound at h
  split at h
  · cases h
    exact fun r hr => .inl hr
  · simp only [bind_ok, pure_ok, Prod.mk.injEq] at h
    obtain ⟨rows, hinsert, rfl, -⟩ := h
    intro r hr
    rw [Table.insert_rows hinsert, List.mem_append, List.mem_singleton] at hr
    exact hr

lemma mark_eq (messageId : String) (state : OutboxState) :
    ∃ outbox, s.mark messageId state = { s with outbox := outbox } ∧
      ∀ r ∈ outbox.rows, Queued s r := by
  unfold mark
  split
  · exact ⟨s.outbox, rfl, fun r => .of_mem⟩
  · rename_i outbox hmark
    refine ⟨outbox, rfl, fun r hr => ?_⟩
    rcases Table.updated_cases (Table.update_rows hmark) hr with ⟨hr, -⟩ | ⟨r₀, hr₀, -, rfl⟩
    · exact .of_mem hr
    · exact .kept r₀ hr₀ rfl rfl rfl

lemma projectEvents_rows {scope : AgentManagedScope} {events : List (PrintJobEventRow × String)}
    {outbox' : Outbox} (hp : s.projectEvents scope events outbox = .ok outbox') :
    ∀ r ∈ outbox'.rows, r ∈ outbox.rows ∨ r.queuedFor = s.controller ∧
      ∃ event, s.observation scope event = some r.payload := by
  induction events generalizing outbox with
  | nil =>
    cases hp
    exact fun r hr => .inl hr
  | cons entry events ih =>
    obtain ⟨event, envelopeId⟩ := entry
    simp only [projectEvents] at hp
    split at hp
    · exact ih hp
    · rename_i payload hobserved
      simp only [bind_ok] at hp
      obtain ⟨outbox₁, hinsert, hp⟩ := hp
      intro r hr
      rcases ih hp r hr with hr | hr
      · rw [Table.insert_rows hinsert, List.mem_append, List.mem_singleton] at hr
        rcases hr with hr | rfl
        · exact .inl hr
        · exact .inr ⟨rfl, event, hobserved⟩
      · exact .inr hr

lemma enqueueAnswer_rows {queued : String} {a : CommandAnswer} (hhandler : s.handler = some h)
    (hphase : h.phase = .send a ∨ h.phase = .resend a)
    (hq : s.enqueueAnswer h messageId a = .ok (outbox, queued)) (hr : r ∈ outbox.rows) :
    Queued s r := by
  rcases enqueueOutbound_rows hq r hr with hr | rfl
  · exact .of_mem hr
  · exact .answer h a hhandler hphase rfl rfl

lemma observation_eq {scope : AgentManagedScope} {event : PrintJobEventRow} {p : Publication}
    (hobserved : s.observation scope event = some p) :
    ∃ job ∈ s.agent.db.jobs.rows, ∃ w, job.managedWorkId = some w ∧
      ∃ command, s.dispatchCommand scope w = some command ∧
        p = .printJobEvent job.id command.commandId event.sequence := by
  simp only [observation, Option.bind_eq_bind, Option.bind_eq_some_iff] at hobserved
  obtain ⟨job, hjob, _, -, w, hw, hobserved⟩ := hobserved
  split at hobserved
  · obtain ⟨command, hcommand, hp⟩ := Option.bind_eq_some_iff.mp hobserved
    exact ⟨job, (Table.first_spec hjob).1, w, hw, command, hcommand, (Option.some.inj hp).symm⟩
  · cases hobserved

inductive Sending (s : Gateway) (enrolled : Enrolled) (r : OutboxRow) : Prop
  | kept (rs : List OutboxRow) (hsending : s.sending = some (enrolled, rs)) (hr : r ∈ rs)
  | listed (henrolled : s.enrolled = some enrolled) (hr : r ∈ s.outbox.rows)

inductive Publishes (s : Gateway) (controller : String) (queuedFor : Option String)
    (publication : Publication) : Prop
  | record (enrolled : Enrolled) (r : OutboxRow) (rs : List OutboxRow) (latest : String)
      (hsending : s.sending = some (enrolled, r :: rs))
      (hmay : s.mayPublish latest r.payload = true) (hcontroller : controller = enrolled.controller)
      (hqueued : queuedFor = r.queuedFor) (hpublication : publication = r.payload)
  | snapshot (enrolled : Enrolled) (deviceIds : List String)
      (henrolled : s.enrolled = some enrolled) (hcontroller : controller = enrolled.controller)
      (hqueued : queuedFor = some enrolled.controller)
      (hpublication : publication = .snapshot (deviceIds.filter s.isShared))

inductive Acts (s : Gateway) : GatewayAction → Prop
  | recorded (h : Handler) (hhandler : s.handler = some h) :
      Acts s (.recorded h.enrolled.controller h.message)
  | jobCreated (h : Handler) (jobId deviceId : String) (hhandler : s.handler = some h)
      (hphase : h.phase = .enqueue deviceId) (hshared : s.isShared deviceId = true) :
      Acts s (.jobCreated h.enrolled.controller h.message.commandId jobId deviceId)
  | jobCancelled (h : Handler) (row : JobRow) (hhandler : s.handler = some h)
      (hphase : h.phase = .cancel row.id) (hrow : row ∈ s.jobs.rows) :
      Acts s (.jobCancelled h.enrolled.controller h.message.commandId row.id row.deviceId)
  | printJobCreated (commandId : Option String) (managedWorkId jobId deviceId : String) :
      Acts s (.printJobCreated commandId managedWorkId jobId deviceId)
  | published (controller : String) (queuedFor : Option String) (publication : Publication)
      (hp : Publishes s controller queuedFor publication) :
      Acts s (.published controller queuedFor publication)

variable {action : GatewayAction}

lemma newPrintJobs_acts {commandId : Option String}
    (haction : action ∈ newPrintJobs commandId db db') : Acts s action := by
  obtain ⟨⟨w, jobId, deviceId⟩, -, rfl⟩ := List.mem_map.mp haction
  exact .printJobCreated _ _ _ _

def JobsKept (s s' : Gateway) : Prop :=
  ∀ r ∈ s.jobs.rows, ∃ r' ∈ s'.jobs.rows, r'.id = r.id ∧ r'.deviceId = r.deviceId

lemma JobsKept.of_eq (hjobs : s'.jobs = s.jobs) : JobsKept s s' := by
  intro r hr
  rw [hjobs]
  exact ⟨r, hr, rfl, rfl⟩

lemma JobsKept.create {deviceId : String}
    (hcreate : JobService.create s.jobs jobId deviceId = .ok s'.jobs) : JobsKept s s' := by
  intro r hr
  unfold JobService.create at hcreate
  split at hcreate
  · rename_i jobs hinsert
    cases hcreate
    exact ⟨r, by rw [Table.insert_rows hinsert]; exact List.mem_append_left _ hr, rfl, rfl⟩
  · cases hcreate

lemma JobsKept.update {p : JobRow → Bool} {f : JobRow → JobRow}
    (hrows : s'.jobs.rows = Table.updated s.jobs.rows p f)
    (hf : ∀ r, (f r).id = r.id ∧ (f r).deviceId = r.deviceId) : JobsKept s s' :=
  fun r hr => Table.exists_updated hrows hr (fun _ => ⟨rfl, rfl⟩) (fun _ => hf r)

lemma JobsKept.cancel {row : JobRow}
    (hcancel : JobService.cancel s.jobs jobId = .ok (s'.jobs, row)) : JobsKept s s' := by
  unfold JobService.cancel at hcancel
  split at hcancel
  · split at hcancel
    · rename_i jobs hupdate
      cases hcancel
      exact .update (Table.update_rows hupdate) fun _ => ⟨rfl, rfl⟩
    · cases hcancel
  · split at hcancel <;> cases hcancel

/-- Where the rows of the outbox and the records under way come from, and in which state a step
acts. -/
structure Effects (e : GatewayEvent) (s : Gateway) (next : Gateway × List GatewayAction) : Prop where
  outbox : ∀ r ∈ next.1.outbox.rows, Queued s r
  sending : ∀ enrolled rs, next.1.sending = some (enrolled, rs) → ∀ r ∈ rs, Sending s enrolled r
  acts : ∀ action ∈ next.2, Acts s action
  jobs : JobsKept s next.1
  enrolled : ofEnrollment e = false → next.1.enrolled = s.enrolled

structure LeavesHandler (e : GatewayEvent) (s : Gateway) (next : Gateway × List GatewayAction) :
    Prop extends Effects e s next where
  commands : next.1.commands = s.commands
  handler : next.1.handler = s.handler
  agent : ofAgent e = false → next.1.agent = s.agent
  actions : ∀ action ∈ next.2, quiet action = true
  prints : ofAgent e = false → ∀ action ∈ next.2, printWork action = none

lemma LeavesHandler.same (s : Gateway) : LeavesHandler e s (s, []) :=
  ⟨⟨fun _ => .of_mem, fun _ rs hs _ hr => .kept rs hs hr, by simp, .of_eq rfl, fun _ => rfl⟩,
    rfl, rfl, fun _ => rfl, by simp, by simp⟩

lemma enqueueEvent_leaves {payload : Publication} {kind : RuntimeResourceKind}
    (hqueued : ∀ r : OutboxRow, r.payload = payload → r.queuedFor = s.controller → Queued s r) :
    LeavesHandler e s (s.enqueueEvent messageId payload kind sequence, []) := by
  have hsame := LeavesHandler.same (e := e) s
  unfold enqueueEvent
  split
  · exact hsame
  · rename_i outbox queued hqueue
    refine { hsame with outbox := fun r hr => ?_ }
    rcases enqueueOutbound_rows hqueue r hr with hr | rfl
    · exact .of_mem hr
    · exact hqueued _ rfl rfl

lemma project_leaves (envelopeIds : List String) :
    LeavesHandler e s (s.project envelopeIds, []) := by
  have hsame := LeavesHandler.same (e := e) s
  unfold project
  split
  · exact hsame
  · rename_i scope hscope
    obtain ⟨enrolled, henrolled, hscope⟩ := Option.bind_eq_some_iff.mp hscope
    dsimp only
    split
    · exact hsame
    · rename_i outbox hp
      refine { hsame with outbox := fun r hr => ?_ }
      rcases projectEvents_rows hp r hr with hr | ⟨hqueued, event, hobserved⟩
      · exact .of_mem hr
      · exact .observation enrolled scope event henrolled hscope hobserved hqueued

lemma flushNext_leaves (latest : String) (delivery : Delivery) :
    LeavesHandler e s (s.flushNext latest delivery) := by
  have hsame := LeavesHandler.same (e := e) s
  unfold flushNext
  split
  · exact hsame
  · exact { hsame with sending := by rintro _ _ ⟨⟩ }
  · rename_i enrolled record records hsending
    have hrest : ∀ enrolled' rs, some (enrolled, records) = some (enrolled', rs) → ∀ r ∈ rs,
        Sending s enrolled' r := by
      rintro _ _ ⟨⟩ r hr
      exact .kept _ hsending (List.mem_cons_of_mem _ hr)
    split
    · rename_i hmay
      have hacts : ∀ action ∈ [GatewayAction.published enrolled.controller record.queuedFor
          record.payload], Acts s action :=
        List.forall_mem_singleton.mpr (.published _ _ _ (.record _ _ _ latest hsending hmay rfl rfl rfl))
      dsimp only
      split
      · obtain ⟨outbox, hmark, hrows⟩ := mark_eq (s := s) record.messageId .sent
        rw [hmark]
        exact { hsame with
          outbox := hrows
          sending := hrest
          acts := hacts
          actions := by simp [quiet]
          prints := by simp [printWork] }
      · exact { hsame with
          sending := by rintro _ _ ⟨⟩
          acts := hacts
          actions := by simp [quiet]
          prints := by simp [printWork] }
      · exact { hsame with sending := by rintro _ _ ⟨⟩ }
    · exact { hsame with
        outbox := fun r hr => .of_mem (List.mem_of_mem_filter hr)
        sending := hrest }

/-- Other events leave the handler and its commands alone. -/
theorem next_leaves (he : ofHandler e = false) : LeavesHandler e s (s.next config e) := by
  have hsame := LeavesHandler.same (e := e) s
  cases e with
  | submitLocal =>
    simp only [next, submitLocal]
    split
    · exact { hsame with jobs := .create ‹_› }
    · exact hsame
  | moveJob =>
    simp only [next, moveJob]
    split
    · rename_i jobs hupdate
      exact { hsame with jobs := .update (Table.update_rows hupdate) fun _ => ⟨rfl, rfl⟩ }
    · exact hsame
  | forwardDevice deviceId sequence =>
    simp only [next, forwardDevice]
    split
    · exact enqueueEvent_leaves fun r => .deviceEvent deviceId sequence ‹_›
    · exact hsame
  | forwardJob =>
    simp only [next, forwardJob]
    split
    · exact hsame
    · rename_i job hjob
      obtain ⟨hmem, hid⟩ := Table.first_spec hjob
      obtain rfl := beq_iff_eq.mp hid
      split
      · exact enqueueEvent_leaves fun r => .jobEvent job hmem _ _
      · exact hsame
  | project envelopeIds => exact project_leaves envelopeIds
  | startFlush =>
    simp only [next, startFlush]
    split
    · split
      · exact hsame
      · rename_i henrolled
        refine { hsame with sending := ?_ }
        rintro _ _ ⟨⟩ r hr
        obtain ⟨id, -, hfirst⟩ := List.mem_filterMap.mp hr
        exact .listed henrolled (Table.first_spec hfirst).1
    · exact hsame
  | flushNext latest delivery => exact flushNext_leaves latest delivery
  | publishSnapshot deviceIds =>
    simp only [next, publishSnapshot]
    split
    · exact hsame
    · rename_i henrolled
      exact { hsame with
        acts := List.forall_mem_singleton.mpr
          (.published _ _ _ (.snapshot _ deviceIds henrolled rfl rfl rfl))
        actions := by simp [quiet]
        prints := by simp [printWork] }
  | share => exact { hsame with }
  | enroll => exact { hsame with enrolled := by rintro ⟨⟩ }
  | agent =>
    simp only [next, stepAgent]
    split
    · exact hsame
    · refine { hsame with
        acts := fun _ => newPrintJobs_acts
        agent := by rintro ⟨⟩
        actions := ?_
        prints := by rintro ⟨⟩ }
      intro action haction
      obtain ⟨x, -, rfl⟩ := List.mem_map.mp haction
      rfl
  | _ => cases he

lemma Handles.effects {next : Gateway × List GatewayAction} (hc : Handles s h inp next)
    (hhandler : s.handler = some h) : Effects e s next := by
  have hsame := (LeavesHandler.same (e := e) s).toEffects
  cases hc with
  | recorded => exact { hsame with acts := List.forall_mem_singleton.mpr (.recorded h hhandler) }
  | jobCreated deviceId jobs hphase hshared hcreate =>
    exact { hsame with
      acts := List.forall_mem_singleton.mpr (.jobCreated h _ deviceId hhandler hphase hshared)
      jobs := .create hcreate }
  | jobCancelled jobs row hphase hrow hcancel =>
    exact { hsame with
      acts := List.forall_mem_singleton.mpr (.jobCancelled h row hhandler hphase hrow)
      jobs := .cancel hcancel }
  | advanced | admitted => exact { hsame with acts := fun _ => newPrintJobs_acts }
  | sent answer outbox queued hphase hqueue =>
    exact { hsame with outbox := fun _ => enqueueAnswer_rows hhandler (.inl hphase) hqueue }
  | resent answer outbox queued hphase hqueue =>
    exact { hsame with outbox := fun _ => enqueueAnswer_rows hhandler (.inr hphase) hqueue }
  | requeued messageId =>
    obtain ⟨outbox, hmark, hrows⟩ := mark_eq (s := s) messageId .pending
    rw [hmark]
    exact { hsame with outbox := hrows }
  | _ => exact { hsame with }

theorem next_effects : Effects e s (s.next config e) := by
  have hsame := (LeavesHandler.same (e := e) s).toEffects
  cases e with
  | deliver =>
    simp only [next]
    split <;> exact { hsame with }
  | handle =>
    simp only [next]
    split
    · exact hsame
    · exact handle_cases.effects ‹_›
  | cancelHandler => exact { hsame with }
  | stop => exact { hsame with sending := by rintro _ _ ⟨⟩ }
  | _ => exact (next_leaves rfl).toEffects

lemma next_published {controller : String} {queuedFor : Option String} {p : Publication}
    (hp : .published controller queuedFor p ∈ (s.next config e).2) :
    Publishes s controller queuedFor p := by
  cases next_effects.acts _ hp with
  | published _ _ _ hp => exact hp

/-- New jobs are appended, so they are the rows after the old ones. -/
lemma newPrintJobs_spec {P : PrintJobRow → Prop} (hadds : Adds P db db') (commandId : Option String) :
    (newPrintJobs commandId db db').filterMap printWork =
        (db'.jobs.rows.drop db.jobs.rows.length).filterMap managedJob ∧
    db'.jobs.rows.filterMap managedJob = db.jobs.rows.filterMap managedJob ++
        (db'.jobs.rows.drop db.jobs.rows.length).filterMap managedJob ∧
    ∀ c w jobId deviceId, .printJobCreated c w jobId deviceId ∈ newPrintJobs commandId db db' →
      c = commandId ∧ ∃ j, P j ∧ j.managedWorkId = some w ∧ j.id = jobId ∧ j.deviceId = deviceId := by
  obtain ⟨new, hwork, hnew⟩ := hadds
  -- the rows are compared by the columns that a job keeps
  have hmanaged : ∀ rows : List PrintJobRow, rows.filterMap managedJob =
      (rows.map PrintJobRow.work).filterMap (fun x => x.1.map (fun w => (w, x.2.1, x.2.2))) := by
    intro rows
    rw [List.filterMap_map]
    rfl
  have hdrop : (db'.jobs.rows.drop db.jobs.rows.length).map PrintJobRow.work =
      new.map PrintJobRow.work := by
    rw [List.map_drop, hwork]
    exact List.drop_left' (List.length_map _)
  have hadded : (db'.jobs.rows.drop db.jobs.rows.length).filterMap managedJob =
      new.filterMap managedJob := by
    rw [hmanaged, hdrop, ← hmanaged]
  refine ⟨?_, ?_, ?_⟩
  · rw [newPrintJobs, List.filterMap_map]
    exact List.filterMap_some
  · rw [hadded, hmanaged, hwork, List.filterMap_append, ← hmanaged, ← hmanaged]
  · intro c w jobId deviceId hmem
    rw [newPrintJobs, hadded, List.mem_map] at hmem
    obtain ⟨x, hx, heq⟩ := hmem
    obtain ⟨j, hj, hmj⟩ := List.mem_filterMap.mp hx
    obtain ⟨w', hw', rfl⟩ := Option.map_eq_some_iff.mp hmj
    simp only [GatewayAction.printJobCreated.injEq] at heq
    obtain ⟨rfl, rfl, rfl, rfl⟩ := heq
    exact ⟨rfl, j, hnew j hj, hw', rfl, rfl⟩

/-- Nothing happens to the Agent, or one of its own steps, whose new Print Jobs are the actions. -/
inductive AgentMove (s : Gateway) (r : Gateway × List GatewayAction) : Prop
  | same (hagent : r.1.agent = s.agent) (hactions : r.2.filterMap printWork = [])
  | stepped (e : AgentEvent) (commandId : Option String) (hagent : r.1.agent = (s.agent.step e).1)
      (hactions : r.2 = newPrintJobs commandId s.agent.db (s.agent.step e).1.db)
      (hshared : ∀ inp, e = .advance inp → inp.env.managedDeviceIsShared = s.isShared)
      (hcommand : ∀ c, commandId = some c → ∃ h verified, s.handler = some h ∧
        h.message.commandId = c ∧ h.phase = .admitting verified)

lemma newPrintJobs_self (commandId : Option String) (hdb : db' = db) :
    newPrintJobs commandId db db' = [] := by
  rw [newPrintJobs, hdb, List.drop_length]
  rfl

lemma AgentMove.advance {verified : VerifiedManagedDispatch} {agent : AgentState}
    {output : AgentOutput} (hhandler : s.handler = some h) (hphase : h.phase = .admitting verified)
    (hstep : s.agent.step (.advance (s.admissionInput inp.admission)) = (agent, output))
    (hagent : s'.agent = agent) :
    AgentMove s (s', newPrintJobs (some h.message.commandId) s.agent.db agent.db) := by
  refine .stepped (.advance (s.admissionInput inp.admission)) (some h.message.commandId) ?_ ?_ ?_ ?_
  · rw [hstep]
    exact hagent
  · rw [hstep]
  · rintro _ ⟨⟩
    rfl
  · rintro _ ⟨⟩
    exact ⟨h, verified, hhandler, rfl, hphase⟩

lemma Handles.agent {next : Gateway × List GatewayAction} (hc : Handles s h inp next)
    (hhandler : s.handler = some h) : AgentMove s next := by
  cases hc with
  | admits verified m hphase hwork hfree =>
    refine .stepped (.accept m) none rfl ?_ (by rintro _ ⟨⟩) (by rintro _ ⟨⟩)
    refine (newPrintJobs_self none ?_).symm
    simp only [AgentState.step, hfree, if_true]
  | advanced verified agent output hphase hstep
  | admitted verified agent output answer hphase hstep => exact .advance hhandler hphase hstep rfl
  | requeued messageId =>
    obtain ⟨outbox, hmark, -⟩ := mark_eq (s := s) messageId .pending
    rw [hmark]
    exact .same rfl rfl
  | _ => exact .same rfl rfl

lemma stepAgent_agent (e : AgentEvent) : AgentMove s (s.stepAgent e) := by
  unfold stepAgent
  split
  · exact .same rfl rfl
  · rename_i e' he
    refine .stepped e' none rfl rfl ?_ (by rintro _ ⟨⟩)
    rintro inp rfl
    cases e with
    | advance =>
      simp only [agentEvent] at he
      split at he <;> cases he
      rfl
    | accept =>
      simp only [agentEvent] at he
      split at he <;> cases he
    | _ => cases he

theorem next_agent : AgentMove s (s.next config e) := by
  have hleft : ofHandler e = false → ofAgent e = false → AgentMove s (s.next config e) := by
    intro he ha
    have hl := @next_leaves config s e he
    exact .same (hl.agent ha) (List.filterMap_eq_nil_iff.mpr (hl.prints ha))
  cases e with
  | deliver => simp only [next]; split <;> exact .same rfl rfl
  | handle =>
    simp only [next]
    split
    · exact .same rfl rfl
    · exact handle_cases.agent ‹_›
  | agent e => exact stepAgent_agent e
  | cancelHandler => exact .same rfl rfl
  | stop => exact .stepped .stop none rfl (newPrintJobs_self none rfl).symm (by rintro _ ⟨⟩) (by rintro _ ⟨⟩)
  | _ => exact hleft rfl rfl

end Gateway

end Inari.Agent
