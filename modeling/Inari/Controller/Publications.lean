import Inari.Controller.Store

/-!
# Publications of an Agent

`record_publication` of `publications.rs` and `reconcile_state_observation` of
`state_observations.rs`.
-/

namespace Inari.Controller

open Lib

/-- `UnverifiedAgentStateEnvelope`: the key id of an envelope, and its observation if the key signed
it. -/
structure StateEnvelopes where
  keyId : String → Option String
  verify : String → String → Option AgentStateObservation

/-- `invalid` -/
def invalidState {α : Type} (detail : String) : Except Error α := .error (.conflict detail)

def validateWorkIdentity (work : ManagedWorkRow) (observation : AgentStateObservation) :
    Except Error Unit :=
  let job := observation.job
  let origin := job.origin
  require (work.agentId == observation.agentId && work.organizationId == origin.organizationId &&
      work.siteId == origin.siteId && work.databaseName == origin.database &&
      work.companyId == origin.companyId && work.deviceId == job.deviceId &&
      work.printIntentId == job.printIntentId &&
      work.bindingClaim.reportBindingId == origin.reportBindingId &&
      work.bindingClaim.reportActionId == origin.reportAction &&
      observation.payloadFingerprint == "sha256:" ++ Hex.encode work.payloadFingerprint &&
      work.printJobId.all (fun id => id == job.printJobId) &&
      job.expiresAt == work.expiresAt && decide (job.acceptedAt ≤ work.expiresAt))
    (.conflict "Agent State does not match its Managed Work identity or deadline")

/-- `reconcile_version`: whether the incoming observation replaces the current one. -/
def reconcileVersion (current incoming : AgentStateObservation) : Except Error Bool :=
  let old := current.job
  let new := incoming.job
  if old.printJobId ≠ new.printJobId ∨ old.acceptedAt ≠ new.acceptedAt ∨
      old.expiresAt ≠ new.expiresAt ∨ old.origin ≠ new.origin then
    invalidState "Agent State changed immutable Print Job metadata"
  else if new.stateVersion < old.stateVersion then .ok false
  else if new.stateVersion = old.stateVersion then
    if old ≠ new then invalidState "Agent State changed a recorded Print Job state version"
    else .ok (current.observedAt < incoming.observedAt)
  else if old.state.isTerminal ∨ new.state = .accepted ∨
      (old.startedAt.isSome ∧ old.startedAt ≠ new.startedAt) ∨
      incoming.durableStateSequence ≤ current.durableStateSequence then
    invalidState "Agent State conflicts with the recorded Print Job lifecycle"
  else .ok true

def replacesCurrent (work : ManagedWorkRow) (incoming : AgentStateObservation) :
    Except Error Bool :=
  match work.printJobObservation with
  | some current => reconcileVersion current.observation incoming
  | none => .ok true

/-- An insert that does nothing for a stored envelope id, and the comparison with the stored row. -/
def storeObservation (observations : Table observationSpec) (row : ObservationRow) :
    Except Error (Table observationSpec) :=
  match observations.first (fun o => o.envelopeId == row.envelopeId) with
  | some stored => do
    require (stored.agentId == row.agentId && stored.managedWorkId == row.managedWorkId &&
        stored.observation == row.observation)
      (.conflict "Agent State envelope ID was reused for different evidence")
    pure observations
  | none => observations.insert row

def ManagedWorkRow.observed (work : ManagedWorkRow) (signed : SignedAgentStateObservation)
    (now : Instant) : ManagedWorkRow :=
  { work with
    state := .accepted
    printJobId := some signed.observation.job.printJobId
    printJobObservation := some signed
    errorCode := none
    messageKey := "managed_work.accepted"
    payloadDeletedAt := work.payloadDeletedAt.or (some now)
    updatedAt := now }

variable (envelopes : StateEnvelopes) (fleet : Fleet) (db : Db) (agentId : AgentId)
  (messageId : String)

def projectObservation (dispatch : CommandRow) (work : ManagedWorkRow)
    (signed : SignedAgentStateObservation) (now : Instant) : Except Error Db := do
  validateWorkIdentity work signed.observation
  require (work.state == .dispatching || work.state == .recoveryUncertain ||
      work.state == .accepted)
    (.conflict "Agent State conflicts with the Managed Work admission state")
  let replaceCurrent ← replacesCurrent work signed.observation
  let observations ← storeObservation db.observations
    ⟨signed.observation.envelopeId, dispatch.agentId, work.managedWorkId, signed, now⟩
  let works ← db.works.update
    (fun w => replaceCurrent && w.managedWorkId == work.managedWorkId)
    (fun _ => work.observed signed now)
  let commands ← db.commands.update (fun c => c.commandId == dispatch.commandId)
    (fun _ => { dispatch with state := .accepted, updatedAt := now })
  pure { db with
    observations := observations
    works := works
    commands := commands
    payloads := db.payloads.delete (fun p => p.managedWorkId == work.managedWorkId) }

/-- The text of the signed envelope, the only field that a Print Job event may have. -/
def stateEnvelope (event : RuntimeEvent) : Except Error String :=
  match event.payload with
  | [("state_envelope", .str compact)] => .ok compact
  | fields =>
    match fields.lookup "state_envelope" with
    | some (.str _) => invalidState "managed Print Job event contains unsigned fields"
    | _ => invalidState "managed Print Job event has no signed state envelope"

def eventTime (job : ManagedPrintJobSnapshot) : Instant :=
  (job.terminalAt.or job.startedAt).getD job.acceptedAt

def matchesPublication (occurredAt : Instant) (event : RuntimeEvent) (jobId : Option String)
    (observation : AgentStateObservation) : Bool :=
  let job := observation.job
  observation.agentId == agentId && observation.envelopeId == messageId &&
    jobId == some job.printJobId && event.resourceId == job.printJobId &&
    event.eventType == "print_job." ++ job.state.text &&
    event.sequence == observation.durableStateSequence &&
    occurredAt == observation.observedAt && event.occurredAt == eventTime job

def reconcileCurrent (occurredAt : Instant) (event : RuntimeEvent) (commandId jobId : Option String)
    (signed : SignedAgentStateObservation) (now : Instant) : Except Error Db := do
  let job := signed.observation.job
  require (matchesPublication agentId messageId occurredAt event jobId signed.observation)
    (.conflict "publication does not match its signed Agent State")
  let commandId ← orRaise commandId
    (.conflict "managed Print Job event has no dispatch command")
  let dispatch ← orRaise
    (db.commands.first (fun c => c.commandId == commandId && c.agentId == agentId))
    (.conflict "managed Print Job dispatch does not belong to this Agent")
  require (dispatch.command == .managedWork job.managedWorkId)
    (.conflict "managed Print Job does not match its dispatch command")
  let work ← orRaise (db.works.first (fun w => w.managedWorkId == job.managedWorkId))
    (.conflict "managed Print Job has no Managed Work record")
  projectObservation db dispatch work signed now

/-- Recorded evidence of a retired key may be repeated; new evidence may not be added. -/
def repeatsEvidence (signed : SignedAgentStateObservation) (retiredAt : Instant) : Bool :=
  decide (signed.observation.observedAt < retiredAt) &&
    ((db.observations.first (fun o => o.envelopeId == signed.observation.envelopeId)).any
      (fun stored => stored.agentId == agentId && stored.observation == signed))

/-- A Print Job event of `reconcile_state_observation`. -/
def reconcilePrintJob (occurredAt : Instant) (event : RuntimeEvent)
    (commandId jobId : Option String) (now : Instant) : Except Error Db := do
  let compact ← stateEnvelope event
  let keyId ← orRaise (envelopes.keyId compact)
    (.invalidInput "Agent State envelope is not valid")
  let key ← orRaise
    (fleet.keys.find? (fun k => k.keyId == keyId && k.agentId == agentId &&
      k.purpose == .agentState))
    (.conflict "Agent State key is not registered for this Agent")
  let observation ← orRaise (envelopes.verify compact key.publicJwk)
    (.invalidInput "Agent State envelope is not valid")
  require (key.registeredAt ≤ observation.observedAt)
    (.conflict "Agent State predates registration of its signing key")
  match key.retiredAt with
  | some retiredAt =>
    require (repeatsEvidence db agentId ⟨observation, compact⟩ retiredAt)
      (.conflict "retired Agent State key cannot introduce new observations")
    pure db
  | none =>
    reconcileCurrent db agentId messageId occurredAt event commandId jobId
      ⟨observation, compact⟩ now

def reconcileStateObservation (publication : AgentPublication) (now : Instant) : Except Error Db :=
  match publication with
  | .runtimeEvent messageId occurredAt event commandId jobId =>
    if event.resourceKind = "print_job" then
      reconcilePrintJob envelopes fleet db agentId messageId occurredAt event commandId jobId now
    else .ok db
  | _ => .ok db

def AgentPublication.answer : AgentPublication → Option (String × CommandState)
  | .commandAccepted _ commandId .. => some (commandId, .accepted)
  | .commandRejected _ commandId .. => some (commandId, .rejected)
  | _ => none

def CommandContent.isInline : CommandContent → Bool
  | .inline _ => true
  | .managedWork _ => false

/-- An answer changes inline commands only; Managed Work needs signed Agent State. -/
def applyAnswer (publication : AgentPublication) (now : Instant) : Except Error Db :=
  match publication.answer with
  | some (commandId, state) => do
    let commands ← db.commands.update
      (fun c => c.agentId == agentId && c.commandId == commandId && c.command.isInline)
      (fun c => { c with state := state, updatedAt := now })
    pure { db with commands := commands }
  | none => .ok db

/-- `record_publication`; `inventoryOk` says whether the inventory of a status snapshot parses. -/
def recordPublication (key : String) (message : AgentPublication) (inventoryOk : Bool)
    (now : Instant) :
    Except Error Db := do
  require inventoryOk (.invalidInput "Agent inventory is not valid")
  require (fleet.agent? agentId.text).isSome (.notFound "unknown managed gateway agent")
  match db.publications.first (fun p => p.messageId == message.messageId) with
  | some stored =>
    require (stored.agentId == agentId && stored.payload == message)
      (.conflict "publication message ID was reused for different content")
    pure db
  | none =>
    let publications ← db.publications.insert ⟨message.messageId, agentId, key, message, now⟩
    let reconciled ← reconcileStateObservation envelopes fleet
      { db with publications := publications } agentId message now
    applyAnswer reconciled agentId message now

end Inari.Controller
