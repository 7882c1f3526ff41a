import Inari.Lib.Run
import Inari.Proofs.ObservationRuns
import Inari.Proofs.Invitations
import Inari.Controller.World

/-!
# Verification keys and the evidence they sign

A key is registered once and retired once. Evidence of a retired key is taken only as a
repetition.
-/

namespace Inari.Controller

open Lib

section

variable {tools : RegistryTools} {db db' : Registry}

lemma KeyStep.committed {result : Except Error Registry}
    (h : ∀ db', result = .ok db' → KeyStep db db') : KeyStep db (committed db result) := by
  cases result with
  | ok db' => exact h db' rfl
  | error => exact .frame rfl

theorem apply_keys (tools : RegistryTools) (db : Registry) (event : RegistryEvent) :
    KeyStep db (event.apply tools db) := by
  cases event with
  | enrollAgent code e snapshot limit prepare now later =>
    have hcall := Registry.enrollAgent_cases tools db code e snapshot limit prepare now later
    rw [RegistryEvent.apply]
    generalize db.enrollAgent tools code e snapshot limit prepare now later = result at hcall
    cases hcall with
    | enrolled _ _ _ _ _ _ _ hpersist => exact (Registry.persistEnrollment_ok hpersist).1
    | failed | rejected | replayed => exact .frame rfl
  | retireAgentCredentials =>
    exact .committed (fun db' h => (Registry.retireAgentCredentials_ok h).1)
  | statusSnapshot =>
    exact .committed (fun db' h => .frame (Registry.applySnapshot_same h).keys)
  | _ => exact .frame (Registry.apply_closes rfl).keys

end

variable {w : World} {k k' : AgentKeyRow}

variable {registry : Registry} {envelopes : StateEnvelopes}

lemma projectSnapshot_keys {tools : WorldTools} {agentId : AgentId} {message : AgentPublication}
    {now : Instant} (h : w.projectSnapshot tools agentId message now = .ok registry) :
    registry.keys = w.registry.keys := by
  unfold World.projectSnapshot at h
  split at h
  · exact (Registry.applySnapshot_same h).keys
  · cases h
    rfl

variable (tools : WorldTools)

theorem next_keys (w : World) (event : WorldEvent) :
    KeyStep w.registry (w.next tools event).registry := by
  unfold World.next
  split
  · exact apply_keys tools.registry w.registry _
  · rename_i fleet agentId key message _ now
    cases h : w.recordPublication tools fleet agentId key message now with
    | error => exact .frame rfl
    | ok =>
      simp only [World.recordPublication, bind_ok, pure_ok] at h
      obtain ⟨db, _, registry, hregistry, rfl⟩ := h
      exact .frame (projectSnapshot_keys hregistry)
  · exact .frame rfl

def AgentKeyRow.fixed (k : AgentKeyRow) : AgentKeyRow := { k with retiredAt := none }

lemma KeyMove.fixed (h : KeyMove k k') : k'.fixed = k.fixed ∧ (k.retiredAt ≠ none → k' = k) := by
  cases h with
  | stays => exact ⟨rfl, fun _ => rfl⟩
  | retired now h => exact ⟨rfl, fun hne => absurd h hne⟩

lemma final_key (events : List WorldEvent) (hk : k ∈ w.registry.keys.rows) :
    ∃ k' ∈ (final (World.step tools) w events).registry.keys.rows,
      k'.fixed = k.fixed ∧ (k.retiredAt ≠ none → k' = k) := by
  induction events generalizing w k with
  | nil => exact ⟨k, hk, rfl, fun _ => rfl⟩
  | cons event events ih =>
    obtain ⟨k₁, hk₁, hmove⟩ := (next_keys tools w event).forward hk
    obtain ⟨k₂, hk₂, hfixed, hretired⟩ := ih hk₁
    refine ⟨k₂, hk₂, hfixed.trans hmove.fixed.1, fun h => ?_⟩
    have hsame := hmove.fixed.2 h
    rw [hretired (by rw [hsame]; exact h), hsame]

lemma key_unique (hk : k ∈ registry.keys.rows) (hk' : k' ∈ registry.keys.rows)
    (h : k.keyId = k'.keyId) : k = k' :=
  registry.keys.eq_of_key (u := keyIdKey) (by simp [keySpec]) hk hk' rfl (by simp [keyIdKey, h])

/-- `uq_agent_active_verification_key` keeps one key of each purpose active. -/
lemma active_unique (hk : k ∈ registry.keys.rows) (hk' : k' ∈ registry.keys.rows)
    (hagent : k.agentId = k'.agentId) (hpurpose : k.purpose = k'.purpose)
    (hactive : k.retiredAt = none) (hactive' : k'.retiredAt = none) : k = k' :=
  registry.keys.eq_of_key (u := activeKey) (k := (k.agentId, k.purpose)) (by simp [keySpec]) hk hk'
    (by simp [activeKey, hactive]) (by simp [activeKey, hactive', hagent, hpurpose])

structure Evidence (envelopes : StateEnvelopes) (registry : Registry) (agentId : AgentId)
    (compact : String) (key : AgentKeyRow) (observation : AgentStateObservation) : Prop where
  keyId : envelopes.keyId compact = some key.keyId
  mem : key ∈ registry.keys.rows
  agent : key.agentId = agentId
  purpose : key.purpose = .agentState
  verified : envelopes.verify compact key.publicJwk = some observation
  registered : key.registeredAt ≤ observation.observedAt

section

variable {envelopes : StateEnvelopes} {registry registry' : Registry} {fleet : Fleet} {db db' : Db}
  {agentId : AgentId} {messageId compact : String} {occurredAt now : Instant} {event : RuntimeEvent}
  {commandId jobId : Option String} {key : AgentKeyRow} {observation : AgentStateObservation}

lemma Evidence.unique {key' : AgentKeyRow} {observation' : AgentStateObservation}
    (h : Evidence envelopes registry agentId compact key observation)
    (h' : Evidence envelopes registry agentId compact key' observation') :
    key' = key ∧ observation' = observation := by
  have hid : key'.keyId = key.keyId := Option.some.inj (h'.keyId.symm.trans h.keyId)
  obtain rfl := key_unique h'.mem h.mem hid
  exact ⟨rfl, Option.some.inj (h'.verified.symm.trans h.verified)⟩

lemma Evidence.step (h : Evidence envelopes registry agentId compact key observation)
    (hstep : KeyStep registry registry') :
    ∃ key', key'.fixed = key.fixed ∧ (key.retiredAt ≠ none → key' = key) ∧
      Evidence envelopes registry' agentId compact key' observation := by
  obtain ⟨key', hmem, hmove⟩ := hstep.forward h.mem
  refine ⟨key', hmove.fixed.1, hmove.fixed.2, ?_⟩
  cases hmove with
  | stays => exact { h with mem := hmem }
  | retired =>
    exact ⟨h.keyId, hmem, h.agent, h.purpose, h.verified, h.registered⟩

lemma fleet_key (hmem : key ∈ registry.keys.rows) (hagent : key.agentId = agentId)
    (hpurpose : key.purpose = .agentState) :
    (registry.fleet fleet).keys.find? (fun k => k.keyId == key.keyId && k.agentId == agentId &&
      k.purpose == .agentState) = some key.toVerificationKeyRow := by
  have hfound : registry.keys.rows.find? (fun k => k.keyId == key.keyId && k.agentId == agentId &&
      k.purpose == .agentState) = some key :=
    Table.first_eq hmem (by simp [hagent, hpurpose]) (fun k hk h => by
      simp only [Bool.and_eq_true, beq_iff_eq] at h
      exact key_unique hk hmem h.1.1)
  rw [Registry.fleet, List.find?_map]
  simp only [Function.comp_def, hfound, Option.map_some]

lemma reconcilePrintJob_evidence (hcompact : stateEnvelope event = .ok compact)
    (h : Evidence envelopes registry agentId compact key observation) :
    reconcilePrintJob envelopes (registry.fleet fleet) db agentId messageId occurredAt event
        commandId jobId now =
      match key.retiredAt with
      | some retiredAt =>
        (require (repeatsEvidence db agentId ⟨observation, compact⟩ retiredAt)
          (.conflict "retired Agent State key cannot introduce new observations")).map (fun _ => db)
      | none => reconcileCurrent db agentId messageId occurredAt event commandId jobId
          ⟨observation, compact⟩ now := by
  have hregistered : decide (key.registeredAt ≤ observation.observedAt) = true :=
    decide_eq_true h.registered
  simp only [reconcilePrintJob, hcompact, bind, Except.bind, h.keyId, orRaise,
    fleet_key h.mem h.agent h.purpose, h.verified, hregistered, require, if_true]
  cases key.retiredAt with
  | none => rfl
  | some retiredAt =>
    cases repeatsEvidence db agentId ⟨observation, compact⟩ retiredAt <;> rfl

lemma evidence_of_reconcilePrintJob
    (h : reconcilePrintJob envelopes (registry.fleet fleet) db agentId messageId occurredAt event
      commandId jobId now = .ok db') :
    ∃ compact key observation, stateEnvelope event = .ok compact ∧
      Evidence envelopes registry agentId compact key observation := by
  simp only [reconcilePrintJob, bind_ok, orRaise_ok, require_ok, decide_eq_true_eq] at h
  obtain ⟨compact, hcompact, keyId, hkeyId, row, hrow, observation, hverify, _, hregistered, _⟩ := h
  have hfound := List.find?_some hrow
  simp only [Bool.and_eq_true, beq_iff_eq] at hfound
  obtain ⟨key, hkey, rfl⟩ := List.mem_map.mp (List.mem_of_find?_eq_some hrow)
  obtain ⟨⟨rfl, hagent⟩, hpurpose⟩ := hfound
  exact ⟨compact, key, observation, hcompact, hkeyId, hkey, hagent, hpurpose, hverify, hregistered⟩

end

structure SameReports (db db' : Db) : Prop where
  publications : db'.publications = db.publications
  observations : db'.observations = db.observations

section

variable {tools : WireTools} {db db' : Db}

lemma SameReports.refl : SameReports db db := ⟨rfl, rfl⟩

lemma Change.reports {admits : Prop} (h : Change tools admits (fun _ => False) db db') :
    SameReports db db' := by
  cases h with
  | none => exact .refl
  | preflights => exact ⟨rfl, rfl⟩
  | inserted h =>
    simp only [insertCommand, bind_ok, pure_ok, Prod.mk.injEq] at h
    obtain ⟨_, _, _, _, _, _, rfl, _⟩ := h
    exact ⟨rfl, rfl⟩
  | published h =>
    simp only [markCommandPublished, bind_ok, pure_ok] at h
    obtain ⟨_, _, rfl⟩ := h
    exact ⟨rfl, rfl⟩
  | admitted _ h =>
    simp only [insertManagedWork, bind_ok, pure_ok, Prod.mk.injEq] at h
    obtain ⟨_, _, _, _, _, _, _, _, _, _, rfl, _, _⟩ := h
    exact ⟨rfl, rfl⟩
  | swept h =>
    simp only [expireManagedPayloads, bind_ok, pure_ok] at h
    obtain ⟨_, _, rfl⟩ := h
    exact ⟨rfl, rfl⟩
  | observed _ _ _ hverified => exact hverified.elim

theorem run_reports {tools : Tools} {event : Event}
    (hevent : ∀ fleet agentId key message inventoryOk now,
      event ≠ .publication fleet agentId key message inventoryOk now)
    (h : event.run tools db = .ok db') : SameReports db db' := by
  rcases run_change h with hchange | ⟨_, _, _, _, _, _, rfl⟩
  · cases event with
    | publication => exact absurd rfl (hevent _ _ _ _ _ _)
    | _ => exact hchange.reports
  · exact absurd rfl (hevent _ _ _ _ _ _)

end

section

variable {envelopes : StateEnvelopes} {registry : Registry} {fleet : Fleet} {db db' : Db}
  {agentId : AgentId} {message : AgentPublication} {now : Instant}

lemma reconcileCurrent_ok {messageId : String} {occurredAt : Instant} {event : RuntimeEvent}
    {commandId jobId : Option String} {signed : SignedAgentStateObservation}
    (h : reconcileCurrent db agentId messageId occurredAt event commandId jobId signed now =
      .ok db') :
    db'.publications = db.publications ∧
      matchesPublication agentId messageId occurredAt event jobId signed.observation = true ∧
      (∀ o ∈ db.observations.rows, o ∈ db'.observations.rows) ∧
      ∀ o ∈ db'.observations.rows, o ∈ db.observations.rows ∨
        o.envelopeId = signed.observation.envelopeId ∧ o.agentId = agentId ∧
          o.observation = signed := by
  simp only [reconcileCurrent, bind_ok, orRaise_ok, require_ok] at h
  obtain ⟨_, hmatches, _, _, dispatch, hdispatch, _, _, work, _, h⟩ := h
  have hagent : dispatch.agentId = agentId := by
    have hfound := (Table.first_spec hdispatch).2
    simp only [Bool.and_eq_true, beq_iff_eq] at hfound
    exact hfound.2
  simp only [projectObservation, bind_ok, pure_ok] at h
  obtain ⟨_, _, _, _, replace, _, observations, hobservations, works, _, commands, _, rfl⟩ := h
  obtain ⟨hgrows, _, hrows⟩ := storeObservation_rows hobservations
  refine ⟨rfl, hmatches, fun o ho => hgrows.subset ho, fun o ho => ?_⟩
  rcases hrows o ho with hold | rfl
  · exact .inl hold
  · exact .inr ⟨rfl, hagent, rfl⟩

lemma applyAnswer_reports (h : applyAnswer db agentId message now = .ok db') :
    SameReports db db' := by
  unfold applyAnswer at h
  split at h
  · simp only [bind_ok, pure_ok] at h
    obtain ⟨commands, _, rfl⟩ := h
    exact ⟨rfl, rfl⟩
  · cases h
    exact .refl

lemma reconcileStateObservation_ok
    (h : reconcileStateObservation envelopes (registry.fleet fleet) db agentId message now =
      .ok db') :
    db' = db ∨ ∃ messageId occurredAt event commandId jobId compact key observation,
      message = .runtimeEvent messageId occurredAt event commandId jobId ∧
      stateEnvelope event = .ok compact ∧
      Evidence envelopes registry agentId compact key observation ∧ key.retiredAt = none ∧
      reconcileCurrent db agentId messageId occurredAt event commandId jobId
        ⟨observation, compact⟩ now = .ok db' := by
  unfold reconcileStateObservation at h
  split at h
  · rename_i messageId occurredAt event commandId jobId
    split at h
    · obtain ⟨compact, key, observation, hcompact, hevidence⟩ := evidence_of_reconcilePrintJob h
      rw [reconcilePrintJob_evidence hcompact hevidence] at h
      split at h
      · obtain ⟨_, _, rfl⟩ := map_ok.mp h
        exact .inl rfl
      · rename_i hactive
        exact .inr ⟨_, _, _, _, _, compact, key, observation, rfl, hcompact, hevidence, hactive, h⟩
    · cases h
      exact .inl rfl
  · cases h
    exact .inl rfl

end

def worldAfter (events : List WorldEvent) : World :=
  final (World.step tools) {} events

/-- Every stored observation is evidence of a key that is registered for its Agent. -/
def World.Evidenced (envelopes : StateEnvelopes) (w : World) : Prop :=
  ∀ o ∈ w.db.observations.rows, o.envelopeId = o.observation.observation.envelopeId ∧
    ∃ key, Evidence envelopes w.registry o.agentId o.observation.stateEnvelope key
      o.observation.observation

lemma World.Evidenced.keys {w' : World} (h : w.Evidenced envelopes)
    (hstep : KeyStep w.registry w'.registry) (hsame : w'.db.observations = w.db.observations) :
    w'.Evidenced envelopes := by
  intro o ho
  rw [hsame] at ho
  obtain ⟨hid, key, hevidence⟩ := h o ho
  obtain ⟨key', _, _, hevidence'⟩ := hevidence.step hstep
  exact ⟨hid, key', hevidence'⟩

lemma within_ne_publication {event : Event}
    (h : ∀ fleet agentId key message inventoryOk now,
      event ≠ .publication fleet agentId key message inventoryOk now) :
    ∀ fleet agentId key message inventoryOk now,
      event.within registry ≠ .publication fleet agentId key message inventoryOk now := by
  intro fleet agentId key message inventoryOk now heq
  cases event with
  | publication => exact h _ _ _ _ _ _ rfl
  | _ => cases heq

lemma next_reports (w : World) (event : WorldEvent) :
    SameReports w.db (w.next tools event).db ∨
    ∃ fleet agentId key message inventoryOk now publications reconciled,
      event = .request (.publication fleet agentId key message inventoryOk now) ∧
      ((w.registry.fleet fleet).agent? agentId.text).isSome = true ∧
      w.db.publications.first (fun p => p.messageId == message.messageId) = none ∧
      publications.rows =
        w.db.publications.rows ++ [⟨message.messageId, agentId, key, message, now⟩] ∧
      reconcileStateObservation tools.service.envelopes (w.registry.fleet fleet)
        { w.db with publications := publications } agentId message now = .ok reconciled ∧
      SameReports reconciled (w.next tools event).db := by
  unfold World.next
  split
  · exact .inl .refl
  · rename_i fleet agentId key message inventoryOk now
    cases h : w.recordPublication tools fleet agentId key message now with
    | error => exact .inl .refl
    | ok =>
      simp only [World.recordPublication, bind_ok, pure_ok] at h
      obtain ⟨db, hrecord, registry, _, rfl⟩ := h
      obtain ⟨-, henrolled, ⟨_, _, _, _, _, rfl⟩ |
        ⟨publications, reconciled, hnew, hrows, hreconciled, hanswer⟩⟩ := recordPublication_ok hrecord
      · exact .inl .refl
      · exact .inr ⟨_, _, _, _, _, _, publications, reconciled, rfl, henrolled, hnew, hrows,
          hreconciled, applyAnswer_reports hanswer⟩
  · rename_i event hevent
    refine .inl ?_
    simp only [Controller.step]
    split
    · rename_i db' hrun
      exact run_reports (within_ne_publication (fun _ _ _ _ _ _ heq => hevent _ _ _ _ _ _ heq)) hrun
    · exact .refl

lemma next_evidenced (event : WorldEvent) (h : w.Evidenced tools.service.envelopes) :
    (w.next tools event).Evidenced tools.service.envelopes := by
  have hkeys := next_keys tools w event
  rcases next_reports tools w event with
    hsame | ⟨fleet, agentId, key, message, _, now, publications, reconciled, _, _, _, _,
      hreconciled, hsame⟩
  · exact h.keys hkeys hsame.observations
  · -- The new row is evidence of the key that `reconcile_state_observation` has found.
    have hbefore : World.Evidenced tools.service.envelopes ⟨w.registry, reconciled⟩ := by
      rcases reconcileStateObservation_ok hreconciled with
        rfl | ⟨_, _, _, _, _, compact, key, observation, _, _, hevidence, _, hcurrent⟩
      · exact h
      · intro o ho
        obtain ⟨_, _, _, hrows⟩ := reconcileCurrent_ok hcurrent
        rcases hrows o ho with hold | ⟨hid, hagent, hsigned⟩
        · exact h o hold
        · rw [hid, hagent, hsigned]
          exact ⟨rfl, key, hevidence⟩
    exact hbefore.keys hkeys hsame.observations

lemma worldAfter_evidenced (events : List WorldEvent) :
    (worldAfter tools events).Evidenced tools.service.envelopes := by
  have hstart : World.Evidenced tools.service.envelopes {} := fun o ho => by simp at ho
  exact final_of_step (I := World.Evidenced tools.service.envelopes)
    (fun _ event h => next_evidenced tools event h) hstart events

def AgentPublication.signer (envelopes : StateEnvelopes) : AgentPublication → Option String
  | .runtimeEvent _ _ event _ _ => (stateEnvelope event).toOption.bind envelopes.keyId
  | _ => none

lemma reconcile_retired {fleet : Fleet} {db db' : Db} {agentId : AgentId}
    {message : AgentPublication} {now : Instant} (hk : k ∈ registry.keys.rows)
    (hretired : k.retiredAt ≠ none) (hsigner : message.signer envelopes = some k.keyId)
    (h : reconcileStateObservation envelopes (registry.fleet fleet) db agentId message now =
      .ok db') : db' = db := by
  rcases reconcileStateObservation_ok h with
    rfl | ⟨_, _, event, _, _, compact, key, observation, rfl, hcompact, hevidence, hactive, _⟩
  · rfl
  · have hid : key.keyId = k.keyId := by
      simpa [AgentPublication.signer, hcompact, Except.toOption, hevidence.keyId] using hsigner
    rw [← key_unique hevidence.mem hk hid] at hretired
    exact absurd hactive hretired

lemma reconcile_repeated {w : World} (h : w.Evidenced envelopes) {o : ObservationRow}
    (ho : o ∈ w.db.observations.rows) {k : AgentKeyRow} (hk : k ∈ w.registry.keys.rows)
    (hsigner : envelopes.keyId o.observation.stateEnvelope = some k.keyId) {retiredAt : Instant}
    (hretired : k.retiredAt = some retiredAt) {event : RuntimeEvent}
    (hkind : event.resourceKind = "print_job")
    (hcompact : stateEnvelope event = .ok o.observation.stateEnvelope) (fleet : Fleet)
    (messageId : String) (occurredAt : Instant) (commandId jobId : Option String) (now : Instant) :
    reconcileStateObservation envelopes (w.registry.fleet fleet) w.db o.agentId
        (.runtimeEvent messageId occurredAt event commandId jobId) now = .ok w.db ↔
      o.observation.observation.observedAt < retiredAt := by
  obtain ⟨hid, key, hevidence⟩ := h o ho
  obtain rfl : key = k :=
    key_unique hevidence.mem hk (Option.some.inj (hevidence.keyId.symm.trans hsigner))
  have hfirst : w.db.observations.first
      (fun r => r.envelopeId == o.observation.observation.envelopeId) = some o :=
    Table.first_eq ho (by simp [hid]) (fun r hr hrid => by
      rw [beq_iff_eq, ← hid] at hrid
      exact w.db.observations.eq_of_key (u := observationIdKey) (by simp [observationSpec]) hr ho rfl
        (by simp [observationIdKey, hrid]))
  have hrepeats : repeatsEvidence w.db o.agentId o.observation retiredAt =
      decide (o.observation.observation.observedAt < retiredAt) := by
    simp [repeatsEvidence, hfirst]
  rw [reconcileStateObservation, if_pos hkind, reconcilePrintJob_evidence hcompact hevidence,
    hretired]
  change Except.map _ (require (repeatsEvidence w.db o.agentId o.observation retiredAt) _) = _ ↔ _
  rw [hrepeats, map_ok]
  simp only [require_ok, decide_eq_true_eq, and_true, exists_const]

/-- Each key keeps its identity and its retirement, and evidence of a retired key is taken again
exactly if it was observed before. -/
theorem verification_keys (tools : WorldTools) (events : List WorldEvent) :
    (∀ later, ∀ k ∈ (worldAfter tools events).registry.keys.rows,
      ∃ k' ∈ (worldAfter tools (events ++ later)).registry.keys.rows,
        k'.keyId = k.keyId ∧ k'.agentId = k.agentId ∧ k'.purpose = k.purpose ∧
        k'.jwkThumbprint = k.jwkThumbprint ∧ k'.publicJwk = k.publicJwk ∧
        k'.registeredAt = k.registeredAt ∧ (k.retiredAt ≠ none → k'.retiredAt = k.retiredAt)) ∧
    (∀ k ∈ (worldAfter tools events).registry.keys.rows,
      ∀ k' ∈ (worldAfter tools events).registry.keys.rows, k.keyId = k'.keyId → k = k') ∧
    (∀ k ∈ (worldAfter tools events).registry.keys.rows,
      ∀ k' ∈ (worldAfter tools events).registry.keys.rows, k.agentId = k'.agentId →
      k.purpose = k'.purpose → k.retiredAt = none → k'.retiredAt = none → k = k') ∧
    (∀ k ∈ (worldAfter tools events).registry.keys.rows, k.retiredAt ≠ none →
      ∀ fleet agentId message now db', message.signer tools.service.envelopes = some k.keyId →
      reconcileStateObservation tools.service.envelopes
        ((worldAfter tools events).registry.fleet fleet) (worldAfter tools events).db agentId
        message now = .ok db' →
      db' = (worldAfter tools events).db) ∧
    ∀ o ∈ (worldAfter tools events).db.observations.rows,
      ∃ k ∈ (worldAfter tools events).registry.keys.rows, k.agentId = o.agentId ∧
        tools.service.envelopes.keyId o.observation.stateEnvelope = some k.keyId ∧
        ∀ retiredAt, k.retiredAt = some retiredAt →
        ∀ fleet messageId occurredAt event commandId jobId now, event.resourceKind = "print_job" →
          stateEnvelope event = .ok o.observation.stateEnvelope →
          (reconcileStateObservation tools.service.envelopes
              ((worldAfter tools events).registry.fleet fleet) (worldAfter tools events).db o.agentId
              (.runtimeEvent messageId occurredAt event commandId jobId) now =
              .ok (worldAfter tools events).db ↔
            o.observation.observation.observedAt < retiredAt) := by
  refine ⟨fun later k hk => ?_, fun k hk k' hk' h => key_unique hk hk' h,
    fun k hk k' hk' hagent hpurpose hactive hactive' =>
      active_unique hk hk' hagent hpurpose hactive hactive',
    fun k hk hretired fleet agentId message now db' hsigner h =>
      reconcile_retired hk hretired hsigner h, fun o ho => ?_⟩
  · obtain ⟨k', hk', hfixed, hretired⟩ := final_key tools later hk
    rw [worldAfter, final_append]
    simp only [AgentKeyRow.fixed, AgentKeyRow.mk.injEq, VerificationKeyRow.mk.injEq] at hfixed
    obtain ⟨⟨hid, hagent, hpurpose, hjwk, hregistered, _⟩, hthumbprint⟩ := hfixed
    exact ⟨k', hk', hid, hagent, hpurpose, hthumbprint, hjwk, hregistered,
      fun h => by rw [hretired h]⟩
  · have hevidenced := worldAfter_evidenced tools events
    obtain ⟨_, key, hevidence⟩ := hevidenced o ho
    exact ⟨key, hevidence.mem, hevidence.agent, hevidence.keyId,
      fun retiredAt hretired fleet messageId occurredAt event commandId jobId now hkind hcompact =>
        reconcile_repeated hevidenced ho hevidence.mem hevidence.keyId hretired hkind hcompact fleet
          messageId occurredAt commandId jobId now⟩

def stateTools (observation : AgentStateObservation) : WorldTools where
  registry := onboardingTools
  service :=
    { twinTools with envelopes := ⟨fun _ => some "key-s", fun _ _ => some observation⟩ }

def acceptedPublication (messageId : String) (observedAt : Instant) : AgentPublication :=
  .runtimeEvent messageId observedAt (acceptedEvent "front")
    (some (dispatchCommandId sampleWire sampleWork)) (some "pj_1")

def aheadObservation : AgentStateObservation := { observedAccepted with observedAt := 9000000 }

def retiredRun (observation : AgentStateObservation) : List WorldEvent :=
  [.registry newInvitation,
    .registry (.enrollAgent invitationCode sampleEnrollment ⟨0, [], []⟩ attemptLimit (.ok ()) 0 0),
    .request (.preflight sampleConfig twinFleet
      ⟨1, sampleScope, sampleDevice, .reportPdf, sampleBinding⟩ samplePreflightId 0),
    .request (.submitWork sampleConfig twinFleet sampleWork "print-42"
      sampleSubmission [] 1000000),
    .request (.publication twinFleet sampleAgent "state"
      (acceptedPublication "ase_1" observation.observedAt) true 2000000),
    .registry (.retireAgentCredentials sampleScope.organizationId sampleAgent
      ⟨"user:operator", none⟩ 5000000)]

theorem stored_observation_refused :
    let w := worldAfter (stateTools aheadObservation) (retiredRun aheadObservation)
    w.db.observations.rows.map (·.observation) = [⟨aheadObservation, "front"⟩] ∧
      (w.registry.keys.rows.map (fun k => (k.keyId, k.retiredAt))) =
        [("key-a", some 5000000), ("key-s", some 5000000)] ∧
      reconcileStateObservation (stateTools aheadObservation).service.envelopes
        (w.registry.fleet twinFleet) w.db sampleAgent (acceptedPublication "ase_1" 9000000)
        6000000 =
        .error (.conflict "retired Agent State key cannot introduce new observations") := by
  intro w
  refine ⟨by decide +kernel, by decide +kernel, ?_⟩
  refine (map_error (f := fun _ => ())).mp ?_
  decide +kernel

end Inari.Controller
