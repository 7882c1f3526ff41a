import Inari.Controller.Registry

/-!
# Invitations, enrollment and retirement

`onboarding.rs`, `enrollment.rs` and `retirement.rs` of `inari-gateway/src/persistence`. Each call
is one transaction.
-/

namespace Inari.Controller

open Lib

/-! ## `onboarding.rs` -/

/-- `InvitationCode`: the id and the secret, each of capital base32 letters. -/
structure InvitationCode where
  id : String
  secret : String

def InvitationCode.secretDigest (tools : DigestTools) (code : InvitationCode) : Bytes :=
  tools.sha256 (encode ("INR" ++ code.id ++ code.secret))

def cleanLabel (label : Option String) : Option String :=
  (label.map (strip isRustSpace)).filter (fun text => !text.isEmpty)

namespace Registry

def record (db : Registry) (row : AuditRow) : Registry := { db with audit := db.audit ++ [row] }

def createInvitation (tools : DigestTools) (db : Registry) (code : InvitationCode)
    (organizationId : OrganizationId) (siteId : SiteId) (label : Option String)
    (createdAt expiresAt : Instant) (audit : AuditContext) : Except Error Registry := do
  let invitations ← db.invitations.insert {
    invitationId := code.id
    organizationId := organizationId
    siteId := siteId
    label := cleanLabel label
    secretDigest := code.secretDigest tools
    state := .created
    createdAt := createdAt
    expiresAt := expiresAt
    enrolledAt := none
    onlineAt := none
    revokedAt := none
    failedAt := none
    lastError := none
    boundAgentId := none
    boundKeyId := none
    enrollmentFingerprint := none
    latestSnapshot := none }
  pure ({ db with invitations := invitations }.record ⟨organizationId, audit.actorId,
    .invitationCreated, .invitation code.id, audit.requestId⟩)

/-- `expirable_states` -/
def isExpirable (state : InvitationState) : Bool := state == .created || state == .failed

/-- `expire_invitation`, and for all invitations the update of `invitations` -/
def expireInvitations (db : Registry) (p : InvitationRow → Bool) (now : Instant) :
    Except Error Registry := do
  let invitations ← db.invitations.update
    (fun i => p i && decide (i.expiresAt < now) && isExpirable i.state)
    (fun i => { i with state := .expired })
  pure { db with invitations := invitations }

/-- `invitation`: reading an invitation may expire it. -/
def invitation (db : Registry) (invitationId : String) (now : Instant) :
    Except Error (Registry × InvitationRow) := do
  let db' ← db.expireInvitations (fun i => i.invitationId == invitationId) now
  let row ← orRaise (db'.invitations.first (fun i => i.invitationId == invitationId))
    (.notFound "onboarding invitation was not found")
  pure (db', row)

/-- `invitations` -/
def listInvitations (db : Registry) (now : Instant) : Except Error Registry :=
  db.expireInvitations (fun _ => true) now

def isRevocable (state : InvitationState) : Bool := state != .online && state != .revoked

/-- The update of `revoke_invitation` in its own transaction. -/
def revokeRow (db : Registry) (invitationId : String) (now : Instant)
    (organizationId : OrganizationId) (audit : AuditContext) : Except Error Registry := do
  let invitations ← db.invitations.update
    (fun i => i.invitationId == invitationId && isRevocable i.state)
    (fun i => { i with state := .revoked, revokedAt := some now })
  pure ({ db with invitations := invitations }.record ⟨organizationId, audit.actorId,
    .invitationRevoked, .invitation invitationId, audit.requestId⟩)

/-- `revoke_invitation`: the invitation is read, and may expire, after the transaction. -/
def revokeInvitation (db : Registry) (invitationId : String) (now : Instant)
    (organizationId : OrganizationId) (audit : AuditContext) :
    Registry × Except Error InvitationRow :=
  if db.invitations.rows.any (fun i => i.invitationId == invitationId && isRevocable i.state) then
    match db.revokeRow invitationId now organizationId audit with
    | .error e => (db, .error e)
    | .ok db' =>
      match db'.invitation invitationId now with
      | .error e => (db', .error e)
      | .ok (db'', row) => (db'', .ok row)
  else
    match db.invitation invitationId now with
    | .error e => (db, .error e)
    | .ok (db', row) =>
      match row.state with
      | .online => (db', .error (.conflict
          "an online enrollment cannot be revoked through its invitation"))
      | .revoked => (db', .ok row)
      | _ => (db', .error (.conflict "invitation could not be revoked"))

end Registry

/-! ## `enrollment.rs` -/

structure AgentEnrollmentRecord where
  agentId : AgentId
  organizationId : OrganizationId
  siteId : SiteId
  keyId : String
  jwkThumbprint : String
  publicJwk : Jwk
  dispatchKey : DispatchEncryptionKey
  stateSigningJwk : Jwk
  «namespace» : String
  protocolVersion : String
  controllerActions : List String
  csrFingerprint : String

/-- `InvitationAttemptLimit`, the window in microseconds -/
structure InvitationAttemptLimit where
  window : Nat
  maxFailures : Nat

/-- `enrollment_fingerprint` -/
def AgentEnrollmentRecord.fingerprint (tools : RegistryTools) (e : AgentEnrollmentRecord) : Bytes :=
  tools.sha256 (tools.canonical (.obj [
    ("agent_id", .str e.agentId.text), ("key_id", .str e.keyId),
    ("csr_fingerprint", .str e.csrFingerprint),
    ("transport_key_thumbprint", .str e.jwkThumbprint),
    ("state_key_thumbprint", .str (tools.thumbprint e.stateSigningJwk)),
    ("dispatch_key", .obj [("key_id", .str e.dispatchKey.keyId),
      ("public_key_base64url", .str e.dispatchKey.publicKeyBase64url)]),
    ("organization_id", .str e.organizationId.text), ("site_id", .str e.siteId.text),
    ("protocol_version", .str e.protocolVersion), ("namespace", .str e.namespace),
    ("controller_actions", .arr (e.controllerActions.map .str))]))

def AgentEnrollmentRecord.row (e : AgentEnrollmentRecord) (enrolledAt : Instant) : AgentRecord where
  agentId := e.agentId
  organizationId := e.organizationId
  siteId := e.siteId
  protocolVersion := e.protocolVersion
  keyId := e.keyId
  dispatchKey := some e.dispatchKey
  jwkThumbprint := e.jwkThumbprint
  publicJwk := e.publicJwk
  «namespace» := e.namespace
  controllerActions := e.controllerActions
  enrolledAt := enrolledAt
  lastEnrolledAt := enrolledAt

def rejectedSecret : Error := .forbidden "enrollment invitation was not accepted"

def unavailableInvitation : Error := .forbidden "enrollment invitation is unavailable"

def AgentKeyRow.isIdentity (k : AgentKeyRow) (agentId : AgentId) (purpose : AgentKeyPurpose)
    (thumbprint : String) : Bool :=
  k.agentId == agentId && k.purpose == purpose && k.jwkThumbprint == thumbprint

/-- The row that `persist_enrollment` leaves for the invitation. -/
def InvitationRow.bound (i : InvitationRow) (e : AgentEnrollmentRecord) (snapshot : GatewaySnapshot)
    (fingerprint : Bytes) (enrolledAt : Instant) : InvitationRow :=
  { i with
    state := .enrolled
    enrolledAt := some enrolledAt
    boundAgentId := some e.agentId
    boundKeyId := some e.keyId
    enrollmentFingerprint := some fingerprint
    latestSnapshot := some snapshot }

/-- The longest `chrono::Duration`, in microseconds. -/
def maxWindow : Nat := 9223372036854775807 * 1000

namespace Registry

variable (tools : RegistryTools) (db : Registry) (code : InvitationCode)

/-- The failed attempts that `recent_failures` deletes. -/
def isStale (now : Instant) (window : Nat) (a : AttemptRow) : Bool :=
  a.invitationId == code.id && decide (a.attemptedAt < now - window)

/-- `recent_failures`: old attempts are deleted and the others counted. -/
def recentFailures (now : Instant) (window : Nat) : Except Error (Registry × Nat) := do
  require (window ≤ maxWindow) (.invalidInput "failed-attempt window is out of range")
  let attempts := db.attempts.delete (isStale code now window)
  pure ({ db with attempts := attempts }, attempts.rowcount (fun a => a.invitationId == code.id))

def replayedEnrollment (invitation : InvitationRow) (e : AgentEnrollmentRecord)
    (fingerprint : Bytes) : Except Error Instant := do
  require (invitation.boundAgentId == some e.agentId)
    (.forbidden "enrollment invitation is bound to another Agent")
  let stored ← orRaise invitation.enrollmentFingerprint
    (.conflict "this enrollment cannot be retried; create a new invitation")
  require (invitation.boundKeyId == some e.keyId && stored == fingerprint)
    (.conflict "enrollment retry does not match the original request")
  let enrolledAt ← orRaise invitation.enrolledAt
    (.corruptState "enrolled invitation has no time")
  require ((db.agents.first (fun a => a.agentId == e.agentId)).any
      (fun a => a.keyId == e.keyId && a.lastEnrolledAt == enrolledAt))
    (.conflict "a later enrollment replaced this invitation")
  pure enrolledAt

def upsertAgent (row : AgentRecord) : Except Error Registry :=
  if db.agents.rows.any (fun a => a.agentId == row.agentId) then
    db.updateAgents (fun a => a.agentId == row.agentId)
      (fun a => { row with enrolledAt := a.enrolledAt })
  else db.insertAgent row

/-- An insert of a key that does nothing if one of its unique columns is taken. -/
def insertKeyUnlessTaken (row : AgentKeyRow) : Except Error Registry :=
  if (db.keys.insertOrIgnore row).2 then db.insertKey row else pure db

def registerVerificationKey (agentId : AgentId) (purpose : AgentKeyPurpose) (publicJwk : Jwk)
    (registeredAt : Instant) :
    Except Error Registry := do
  let keyId ← orRaise publicJwk.keyId (.invalidInput "verification keys require a kid")
  let thumbprint := tools.thumbprint publicJwk
  require ((db.keys.first (fun k => k.keyId == keyId)).all
      (fun k => k.isIdentity agentId purpose thumbprint && k.retiredAt.isNone))
    (.conflict "verification key identity is immutable and retirement is permanent")
  let db ← db.updateKeys
    (fun k => k.agentId == agentId && k.purpose == purpose && k.keyId != keyId &&
      k.retiredAt.isNone)
    (fun k => { k with retiredAt := some registeredAt })
  let db ← db.insertKeyUnlessTaken ⟨⟨keyId, agentId, purpose, publicJwk.text, registeredAt, none⟩,
    thumbprint⟩
  let registered ← orRaise (db.keys.first (fun k => k.keyId == keyId))
    (.conflict "verification key already has another identity")
  require (registered.isIdentity agentId purpose thumbprint)
    (.conflict "verification key owner and purpose are immutable")
  pure db

def persistEnrollment (invitation : InvitationRow) (e : AgentEnrollmentRecord)
    (snapshot : GatewaySnapshot) (fingerprint : Bytes) (enrolledAt : Instant) :
    Except Error Registry := do
  let items ← parseInventory tools snapshot.inventory
  let db ← db.upsertAgent (e.row enrolledAt)
  let devices ← applyInventory (db.devices.delete (fun d => d.agentId == e.agentId)) items e.agentId
    e.siteId snapshot.generatedAt
  let db ← { db with devices := devices }.registerVerificationKey tools e.agentId
    .transportIdentity e.publicJwk enrolledAt
  let db ← db.registerVerificationKey tools e.agentId .agentState e.stateSigningJwk enrolledAt
  let invitations ← db.invitations.update (fun i => i.invitationId == invitation.invitationId)
    (fun _ => invitation.bound e snapshot fingerprint enrolledAt)
  pure ({ db with
    attempts := db.attempts.delete (fun a => a.invitationId == invitation.invitationId)
    invitations := invitations }.record ⟨e.organizationId, "agent:" ++ e.agentId.text,
      .agentEnrolled, .agent e.agentId, none⟩)

/-- `enroll_agent` after the checks of the secret and the scope. -/
def enrollInvited {α : Type} (invitation : InvitationRow) (e : AgentEnrollmentRecord)
    (snapshot : GatewaySnapshot) (prepare : Except Error α) (now later : Instant) :
    Except Error (Registry × α × Instant) :=
  match invitation.state with
  | .created => do
    let value ← prepare
    let db ← db.persistEnrollment tools invitation e snapshot (e.fingerprint tools) now
    pure (db, value, now)
  | .enrolled => do
    let enrolledAt ← db.replayedEnrollment invitation e (e.fingerprint tools)
    require (later < invitation.expiresAt) unavailableInvitation
    let value ← prepare
    pure (db, value, enrolledAt)
  | _ => .error unavailableInvitation

/-- The transaction of `enroll_agent`. What it returns is committed: for a wrong secret the failed
attempt. -/
def enrollTransaction {α : Type} (e : AgentEnrollmentRecord) (snapshot : GatewaySnapshot)
    (limit : InvitationAttemptLimit) (prepare : Except Error α) (now later : Instant) :
    Except Error (Registry × Except Error (α × Instant)) := do
  let invitation ← orRaise (db.invitations.first (fun i => i.invitationId == code.id))
    rejectedSecret
  let (db, failures) ← db.recentFailures code now limit.window
  require (failures < max limit.maxFailures 1) (.forbidden "too many failed invitation attempts")
  if invitation.secretDigest = code.secretDigest tools.toDigestTools then do
    require (now < invitation.expiresAt) unavailableInvitation
    require (invitation.organizationId == e.organizationId && invitation.siteId == e.siteId)
      (.forbidden "enrollment invitation belongs to another Organization or Site")
    let (db, value, enrolledAt) ← db.enrollInvited tools invitation e snapshot prepare now later
    pure (db, .ok (value, enrolledAt))
  else do
    let attempts ← db.attempts.insert ⟨invitation.invitationId, now⟩
    pure ({ db with attempts := attempts }, .error rejectedSecret)

def enrollAgent {α : Type} (e : AgentEnrollmentRecord) (snapshot : GatewaySnapshot)
    (limit : InvitationAttemptLimit) (prepare : Except Error α) (now later : Instant) :
    Registry × Except Error (α × Instant) :=
  match db.enrollTransaction tools code e snapshot limit prepare now later with
  | .ok committed => committed
  | .error error => (db, .error error)

/-! ## `retirement.rs` -/

def retireAgentCredentials (organizationId : OrganizationId) (agentId : AgentId)
    (audit : AuditContext) (now : Instant) : Except Error Registry := do
  let agent ← orRaise (db.agents.first (fun a => a.agentId == agentId))
    (.notFound "Agent was not found")
  require (agent.organizationId == organizationId) (.notFound "Agent was not found")
  let active : AgentKeyRow → Bool := fun k => k.agentId == agentId && k.retiredAt.isNone
  let retired ← db.updateKeys active (fun k => { k with retiredAt := some now })
  let invitations ← retired.invitations.update
    (fun i => i.boundAgentId == some agentId && (i.state == .enrolled || i.state == .online))
    (fun i => { i with state := .revoked, revokedAt := some now })
  let closed := { retired with
    invitations := invitations
    devices := retired.devices.delete (fun d => d.agentId == agentId) }
  pure (if db.keys.rows.any active then
    closed.record ⟨organizationId, audit.actorId, .agentCredentialsRetired, .agent agentId,
      audit.requestId⟩
  else closed)

/-! ## Status snapshots of `publications.rs` -/

/-- The invitation that the current enrollment of the Agent has used. -/
def boundInvitation (agentId : AgentId) : Option InvitationRow := do
  let agent ← db.agents.first (fun a => a.agentId == agentId)
  db.invitations.first (fun i => i.boundAgentId == some agentId &&
    i.enrolledAt == some agent.lastEnrolledAt && (i.state == .enrolled || i.state == .online))

/-- The snapshot is of the current enrollment and newer than the last one. -/
def appliesTo (agent : AgentRecord) (i : InvitationRow) (snapshot : GatewaySnapshot) : Bool :=
  i.enrolledAt == some agent.lastEnrolledAt && i.boundKeyId == some agent.keyId &&
    i.siteId == agent.siteId && i.organizationId == agent.organizationId &&
    i.latestSnapshot.all (fun previous => previous.generatedAt < snapshot.generatedAt)

/-- What a new status publication does to the inventory and the invitation. -/
def applySnapshot (agentId : AgentId) (snapshot : GatewaySnapshot) (now : Instant) :
    Except Error Registry := do
  let items ← parseInventory tools snapshot.inventory
  match db.agents.first (fun a => a.agentId == agentId), db.boundInvitation agentId with
  | some agent, some i =>
    if appliesTo agent i snapshot then do
      let devices ← applyInventory db.devices items agentId agent.siteId snapshot.generatedAt
      let invitations ← db.invitations.update (fun j => j.invitationId == i.invitationId)
        (fun _ => { i with
          state := .online
          onlineAt := i.onlineAt.or (some now)
          latestSnapshot := some snapshot })
      pure { db with devices := devices, invitations := invitations }
    else pure db
  | _, _ => pure db

end Registry

end Inari.Controller
