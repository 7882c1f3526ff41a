import Inari.Proofs.VerificationKeys

/-!
# Stored publications and the state they carry

A new publication of a Print Job is compared with the state it carries only if the key is current.
-/

namespace Inari.Controller

open Lib

structure ReportsState (agentId : AgentId) (messageId : String) (occurredAt : Instant)
    (event : RuntimeEvent) (jobId : Option String) (observation : AgentStateObservation) :
    Prop where
  agentId : observation.agentId = agentId
  messageId : messageId = observation.envelopeId
  jobId : jobId = some observation.job.printJobId
  resourceId : event.resourceId = observation.job.printJobId
  eventType : event.eventType = "print_job." ++ observation.job.state.text
  sequence : event.sequence = observation.durableStateSequence
  occurredAt : occurredAt = observation.observedAt
  changedAt : event.occurredAt = eventTime observation.job

lemma matchesPublication_iff {agentId : AgentId} {messageId : String} {occurredAt : Instant}
    {event : RuntimeEvent} {jobId : Option String} {observation : AgentStateObservation} :
    matchesPublication agentId messageId occurredAt event jobId observation = true ↔
      ReportsState agentId messageId occurredAt event jobId observation := by
  simp only [matchesPublication, Bool.and_eq_true, beq_iff_eq]
  constructor
  · rintro ⟨⟨⟨⟨⟨⟨⟨hagent, hmessage⟩, hjob⟩, hresource⟩, htype⟩, hsequence⟩, hoccurred⟩, hchanged⟩
    exact ⟨hagent, hmessage.symm, hjob, hresource, htype, hsequence, hoccurred, hchanged⟩
  · rintro ⟨hagent, hmessage, hjob, hresource, htype, hsequence, hoccurred, hchanged⟩
    exact ⟨⟨⟨⟨⟨⟨⟨hagent, hmessage.symm⟩, hjob⟩, hresource⟩, htype⟩, hsequence⟩, hoccurred⟩, hchanged⟩

/-- The state that the event carries is signed by a key of its Agent, and the event is as it says.
-/
def PublicationRow.Agrees (envelopes : StateEnvelopes) (registry : Registry) (p : PublicationRow) :
    Prop :=
  ∀ messageId occurredAt event commandId jobId,
    p.payload = .runtimeEvent messageId occurredAt event commandId jobId →
    event.resourceKind = "print_job" →
    ∃ compact key observation, stateEnvelope event = .ok compact ∧
      Evidence envelopes registry p.agentId compact key observation ∧
      ReportsState p.agentId p.messageId occurredAt event jobId observation

def World.Agreeing (envelopes : StateEnvelopes) (w : World) : Prop :=
  ∀ p ∈ w.db.publications.rows, p.Agrees envelopes w.registry

/-- A new event repeats stored evidence of a retired key, and is not as the state in it says. -/
structure Misreports (envelopes : StateEnvelopes) (w : World) (agentId : AgentId)
    (message : AgentPublication) : Prop where
  enrolled : ∃ agent ∈ w.registry.agents.rows, agent.agentId = agentId
  unknown : ∀ p ∈ w.db.publications.rows, p.messageId ≠ message.messageId
  event : ∃ messageId occurredAt event commandId jobId,
    message = .runtimeEvent messageId occurredAt event commandId jobId ∧
    event.resourceKind = "print_job" ∧
    ∃ o ∈ w.db.observations.rows, o.agentId = agentId ∧
      stateEnvelope event = .ok o.observation.stateEnvelope ∧
      (∃ key ∈ w.registry.keys.rows,
        envelopes.keyId o.observation.stateEnvelope = some key.keyId ∧
        ∃ retiredAt, key.retiredAt = some retiredAt ∧
          o.observation.observation.observedAt < retiredAt) ∧
      ¬ReportsState agentId messageId occurredAt event jobId o.observation.observation

def WorldEvent.Misreports (envelopes : StateEnvelopes) (w : World) : WorldEvent → Prop
  | .request (.publication _ agentId _ message _ _) => Controller.Misreports envelopes w agentId message
  | _ => False

section

variable {envelopes : StateEnvelopes} {tools : WorldTools} {registry registry' : Registry} {w : World}

lemma PublicationRow.Agrees.step {p : PublicationRow} (h : p.Agrees envelopes registry)
    (hstep : KeyStep registry registry') : p.Agrees envelopes registry' := by
  intro messageId occurredAt event commandId jobId hpayload hkind
  obtain ⟨compact, key, observation, hcompact, hevidence, hreports⟩ := h _ _ _ _ _ hpayload hkind
  obtain ⟨key', _, _, hevidence'⟩ := hevidence.step hstep
  exact ⟨compact, key', observation, hcompact, hevidence', hreports⟩

lemma World.Agreeing.keys {w' : World} (h : w.Agreeing envelopes)
    (hstep : KeyStep w.registry w'.registry) (hsame : w'.db.publications = w.db.publications) :
    w'.Agreeing envelopes := by
  intro p hp
  rw [hsame] at hp
  exact (h p hp).step hstep

variable {fleet : Fleet} {agentId : AgentId} {message : AgentPublication} {now : Instant}

lemma fleet_agent :
    ((registry.fleet fleet).agent? agentId.text).isSome = true ↔
      ∃ agent ∈ registry.agents.rows, agent.agentId = agentId := by
  simp only [Fleet.agent?, Registry.fleet, List.find?_isSome, beq_iff_eq]
  constructor
  · rintro ⟨_, hrow, htext⟩
    obtain ⟨agent, hagent, rfl⟩ := List.mem_map.mp hrow
    exact ⟨agent, hagent, Identifier.eq_of_text htext⟩
  · rintro ⟨agent, hagent, rfl⟩
    exact ⟨agent.toAgentRow, List.mem_map_of_mem hagent, rfl⟩

lemma reconcileStateObservation_publications {db db' : Db}
    (h : reconcileStateObservation envelopes (registry.fleet fleet) db agentId message now =
      .ok db') : db'.publications = db.publications := by
  rcases reconcileStateObservation_ok h with
    rfl | ⟨_, _, _, _, _, _, _, _, _, _, _, _, hcurrent⟩
  · rfl
  · exact (reconcileCurrent_ok hcurrent).1

lemma agrees_of_reconciled {key : String} {publications : Table publicationSpec} {db' : Db}
    (henrolled : ((w.registry.fleet fleet).agent? agentId.text).isSome = true)
    (hnew : w.db.publications.first (fun p => p.messageId == message.messageId) = none)
    (hquiet : ¬Misreports envelopes w agentId message)
    (h : reconcileStateObservation envelopes (w.registry.fleet fleet)
      { w.db with publications := publications } agentId message now = .ok db') :
    PublicationRow.Agrees envelopes w.registry ⟨message.messageId, agentId, key, message, now⟩ := by
  rintro messageId occurredAt event commandId jobId rfl hkind
  rw [reconcileStateObservation, if_pos hkind] at h
  obtain ⟨compact, key, observation, hcompact, hevidence⟩ := evidence_of_reconcilePrintJob h
  refine ⟨compact, key, observation, hcompact, hevidence, ?_⟩
  rw [reconcilePrintJob_evidence hcompact hevidence] at h
  split at h
  · -- The key is retired, so the evidence is stored.
    rename_i retiredAt hretired
    obtain ⟨_, hrepeats, _⟩ := map_ok.mp h
    rw [require_ok, repeatsEvidence, Bool.and_eq_true, decide_eq_true_eq, Option.any_eq_true]
      at hrepeats
    obtain ⟨hbefore, o, hfirst, hstored⟩ := hrepeats
    simp only [Bool.and_eq_true, beq_iff_eq] at hstored
    by_contra hreports
    refine hquiet ⟨fleet_agent.mp henrolled, fun p hp hid => ?_, _, _, event, _, _, rfl, hkind, o,
      (Table.first_spec hfirst).1, hstored.1, ?_, ?_, ?_⟩
    · simpa [hid] using Table.first_none hnew hp
    · rw [hstored.2, hcompact]
    · rw [hstored.2]
      exact ⟨key, hevidence.mem, hevidence.keyId, retiredAt, hretired, hbefore⟩
    · rw [hstored.2]
      exact hreports
  · exact matchesPublication_iff.mp (reconcileCurrent_ok h).2.1

lemma misreport_recorded (hevidenced : w.Evidenced tools.service.envelopes) {fleet : Fleet}
    {agentId : AgentId} {key : String} {message : AgentPublication} {inventoryOk : Bool}
    {now : Instant} (h : Misreports tools.service.envelopes w agentId message) :
    ∃ publications, (w.next tools (.request (.publication fleet agentId key message inventoryOk now)))
        = ⟨w.registry, { w.db with publications := publications }⟩ ∧
      ⟨message.messageId, agentId, key, message, now⟩ ∈ publications.rows := by
  obtain ⟨henrolled, hunknown, messageId, occurredAt, event, commandId, jobId, hmessage, hkind, o,
    ho, rfl, hcompact, ⟨k, hk, hkeyId, retiredAt, hretired, hbefore⟩, _⟩ := h
  have hfirst : w.db.publications.first (fun p => p.messageId == message.messageId) = none :=
    Table.first_eq_none (fun p hp => by simpa using hunknown p hp)
  obtain ⟨publications, hinsert⟩ := @insertPublication_ok w.db o.agentId key message now hfirst
  have hreconciled := (@reconcile_repeated tools.service.envelopes
    ⟨w.registry, { w.db with publications := publications }⟩ hevidenced o ho k hk hkeyId retiredAt
    hretired event hkind hcompact fleet messageId occurredAt commandId jobId now).mpr hbefore
  rw [← hmessage] at hreconciled
  have hrecord : w.recordPublication tools fleet o.agentId key message now =
      .ok ⟨w.registry, { w.db with publications := publications }⟩ := by
    simp only [World.recordPublication, recordPublication, bind_ok, require_ok, hfirst, pure_ok]
    refine ⟨_, ⟨(), ?_, (), fleet_agent.mpr henrolled, publications, hinsert, _, hreconciled, ?_⟩,
      w.registry, ?_, rfl⟩
    all_goals rw [hmessage]; rfl
  refine ⟨publications, ?_, ?_⟩
  · rw [World.next, hrecord]
    rfl
  · rw [Table.insert_rows hinsert]
    exact List.mem_append_right _ List.mem_cons_self

lemma next_agreeing (hevidenced : w.Evidenced tools.service.envelopes)
    (h : w.Agreeing tools.service.envelopes) (event : WorldEvent) :
    (w.next tools event).Agreeing tools.service.envelopes ↔
      ¬event.Misreports tools.service.envelopes w := by
  constructor
  · intro hnext hmisreports
    unfold WorldEvent.Misreports at hmisreports
    split at hmisreports
    · rename_i fleet agentId key message inventoryOk now
      obtain ⟨publications, hw, hrow⟩ := @misreport_recorded tools w hevidenced fleet agentId key
        message inventoryOk now hmisreports
      rw [hw] at hnext
      obtain ⟨_, _, messageId, occurredAt, event, commandId, jobId, rfl, hkind, o, ho, rfl, hcompact,
        _, hreports⟩ := hmisreports
      obtain ⟨compact, key', observation, hcompact', hevidence, hreports'⟩ :=
        hnext _ hrow _ _ _ _ _ rfl hkind
      obtain ⟨_, key, hevidence'⟩ := hevidenced o ho
      obtain rfl : compact = o.observation.stateEnvelope := Except.ok.inj (hcompact'.symm.trans hcompact)
      rw [(hevidence'.unique hevidence).2] at hreports'
      exact hreports hreports'
    · exact hmisreports
  · intro hquiet
    have hkeys := next_keys tools w event
    rcases next_reports tools w event with
      hsame | ⟨fleet, agentId, key, message, _, now, publications, reconciled, rfl, henrolled, hnew,
        hrows, hreconciled, hsame⟩
    · exact h.keys hkeys hsame.publications
    · intro p hp
      rw [hsame.publications, reconcileStateObservation_publications hreconciled, hrows,
        List.mem_append, List.mem_singleton] at hp
      rcases hp with hold | rfl
      · exact (h p hold).step hkeys
      · exact (agrees_of_reconciled henrolled hnew hquiet hreconciled).step hkeys

end

/-- Stored publications agree with their states in exactly the runs in which none misreports one. -/
theorem publications_agree_iff (tools : WorldTools) (events : List WorldEvent) :
    Always (World.Agreeing tools.service.envelopes) (World.step tools) {} events ↔
      RunOk (fun w event => ¬event.Misreports tools.service.envelopes w) (World.step tools) {}
        events := by
  refine always_iff (J := World.Evidenced tools.service.envelopes)
    (fun w event h => next_evidenced tools event h)
    (fun w event hevidenced h => next_agreeing hevidenced h event) ?_ ?_ events
  · intro o ho
    simp at ho
  · intro p hp
    simp at hp

def misreportedRun : List WorldEvent :=
  retiredRun observedAccepted ++ [.request (.publication twinFleet sampleAgent "state"
    (.runtimeEvent "ase_9" 7 { acceptedEvent "front" with resourceId := "pj_9" } none (some "pj_9"))
    true 6000000)]

theorem misreported_publication_stored :
    (worldAfter (stateTools observedAccepted) misreportedRun).db.publications.rows.map
        (fun p => (p.messageId, p.payload)) =
      [("ase_1", acceptedPublication "ase_1" 4),
        ("ase_9", .runtimeEvent "ase_9" 7 { acceptedEvent "front" with resourceId := "pj_9" } none
          (some "pj_9"))] ∧
      (∀ compact jwk, (stateTools observedAccepted).service.envelopes.verify compact jwk =
        some observedAccepted) ∧
      observedAccepted.envelopeId = "ase_1" ∧ observedAccepted.job.printJobId = "pj_1" ∧
      ¬Always (World.Agreeing (stateTools observedAccepted).service.envelopes)
        (World.step (stateTools observedAccepted)) {} misreportedRun := by
  refine (and_iff_left_of_imp fun hrows => ⟨fun _ _ => rfl, rfl, rfl, fun h => ?_⟩).mpr
    (by decide +kernel)
  obtain ⟨p, hp, hrow⟩ : ∃ p ∈ (worldAfter (stateTools observedAccepted)
      misreportedRun).db.publications.rows, (p.messageId, p.payload) = ("ase_9", .runtimeEvent
        "ase_9" 7 { acceptedEvent "front" with resourceId := "pj_9" } none (some "pj_9")) := by
    rw [← List.mem_map, hrows]
    exact List.mem_cons_of_mem _ List.mem_cons_self
  obtain ⟨hid, hpayload⟩ := Prod.mk.inj hrow
  have hagrees : World.Agreeing (stateTools observedAccepted).service.envelopes
      (worldAfter (stateTools observedAccepted) misreportedRun) :=
    h misreportedRun [] (List.append_nil _).symm
  obtain ⟨compact, key, observation, _, hevidence, hreports⟩ :=
    hagrees p hp _ _ _ _ _ hpayload rfl
  have hobservation : observedAccepted = observation := Option.some.inj hevidence.verified
  have hmessage := hreports.messageId
  rw [hid, ← hobservation] at hmessage
  exact absurd hmessage (by decide +kernel)

end Inari.Controller
