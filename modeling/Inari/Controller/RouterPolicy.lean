import Inari.Controller.Enrollment
import Inari.Router.Policy

/-!
# The Router policy of an Organization

`router_policy.rs` of `inari-gateway/src/persistence`, and of `inari-server` the policy that it
signs. A policy is prepared from the active Agents of the current authority revision; its
acknowledgment opens admission for ten seconds.
-/

namespace Inari.Controller

open Lib

def acknowledgmentLifetime : Instant := 10 * 1000000

structure NewRouterPolicy where
  signedPolicy : Json
  digest : Bytes
  expiresAt : Instant

structure PersistedRouterPolicy where
  generation : Nat
  signedPolicy : Json
  digest : Bytes
  expiresAt : Instant
  agents : List RouterAgent

structure RouterAdmission where
  organizationId : OrganizationId
  generation : Nat
  digest : Bytes
  validUntil : Instant

def RouterPolicyRow.prepared (row : RouterPolicyRow) (configurationDigest : Bytes)
    (policy : NewRouterPolicy) : RouterPolicyRow :=
  { row with
    generation := row.generation + 1
    policy := some ⟨row.authorityRevision, configurationDigest, policy.digest, policy.signedPolicy,
      policy.expiresAt⟩
    acknowledgedAt := none }

namespace Registry

variable (db : Registry) (row : RouterPolicyRow) (organizationId : OrganizationId)

def policyIn : Except Error RouterPolicyRow :=
  orRaise (db.policies.first (fun p => p.organizationId == organizationId))
    (.unavailable "Router policy persistence is unavailable")

def isReusable (configurationDigest : Bytes) (refreshBefore : Instant) : Bool :=
  row.policy.any (fun p => p.policyRevision == row.authorityRevision &&
    p.configurationDigest == configurationDigest && decide (refreshBefore < p.expiresAt))

def persisted (agents : List RouterAgent) : Except Error PersistedRouterPolicy := do
  let policy ← orRaise row.policy (.corruptState "Router policy is incomplete")
  pure ⟨row.generation, policy.signedPolicy, policy.policyDigest, policy.expiresAt, agents⟩

/-- The next generation, when the stored policy cannot be reused. -/
def buildPolicy (configurationDigest : Bytes)
    (build : Nat → List RouterAgent → Except Error NewRouterPolicy) (agents : List RouterAgent)
    (now : Instant) : Except Error (Registry × RouterPolicyRow) := do
  require (row.generation + 1 ≤ maxGeneration) (.capacity "Router policy generation is exhausted")
  let policy ← build (row.generation + 1) agents
  require (now < policy.expiresAt) (.invalidInput "Router policy is already expired")
  let row' := row.prepared configurationDigest policy
  let policies ← db.policies.update (fun p => p.organizationId == row.organizationId)
    (fun _ => row')
  pure ({ db with policies := policies }, row')

def prepareRouterPolicy (configurationDigest : Bytes) (refreshBefore : Instant)
    (build : Nat → List RouterAgent → Except Error NewRouterPolicy) (now : Instant) :
    Except Error (Registry × PersistedRouterPolicy) := do
  let row ← db.policyIn organizationId
  let agents := db.activeAgents organizationId
  if isReusable row configurationDigest refreshBefore then do
    let policy ← persisted row agents
    pure (db, policy)
  else do
    let (db', row') ← db.buildPolicy row configurationDigest build agents now
    let policy ← persisted row' agents
    pure (db', policy)

/-- `acknowledge_router_policy`, with the clock readings of its check and of its write. -/
def acknowledgeRouterPolicy (policy : PersistedRouterPolicy) (checkedAt now : Instant) :
    Except Error (Registry × RouterAdmission) := do
  let row ← db.policyIn organizationId
  require (row.generation == policy.generation && row.policy.any (fun p =>
      p.policyDigest == policy.digest && p.policyRevision == row.authorityRevision &&
      decide (checkedAt < p.expiresAt)))
    (.conflict "Router authority changed during acknowledgment")
  let policies ← db.policies.update (fun p => p.organizationId == organizationId)
    (fun _ => { row with acknowledgedAt := some now })
  pure ({ db with policies := policies }, ⟨organizationId, policy.generation, policy.digest,
    min policy.expiresAt (now + acknowledgmentLifetime)⟩)

def requireAdmissionIn (admission : RouterAdmission) (agentId : String) (now : Instant) :
    Except Error Unit := do
  let row ← db.policyIn admission.organizationId
  require (decide (now < admission.validUntil) && row.generation == admission.generation &&
      row.policy.any (fun p => p.policyDigest == admission.digest &&
        p.policyRevision == row.authorityRevision && decide (now < p.expiresAt)) &&
      row.acknowledgedAt.any (fun t => decide (now - acknowledgmentLifetime < t)) &&
      db.isActiveAgent admission.organizationId agentId)
    (.unavailable "The Agent has no current Router admission")

/-- `ensure_organization`, as far as the trigger gives a new Organization a policy row. -/
def ensureOrganization (db : Registry) (organizationId : OrganizationId) : Except Error Registry :=
  if db.policies.rows.any (fun p => p.organizationId == organizationId) then pure db
  else do
    let policies ← db.policies.insert ⟨organizationId, 0, 0, none, none⟩
    pure { db with policies := policies }

end Registry

/-- A transaction of any replica on the registry, with the clock readings it makes. -/
inductive RegistryEvent
  | ensureOrganization (organizationId : OrganizationId)
  | createInvitation (code : InvitationCode) (organizationId : OrganizationId) (siteId : SiteId)
      (label : Option String) (createdAt expiresAt : Instant) (audit : AuditContext)
  | invitation (invitationId : String) (now : Instant)
  | invitations (now : Instant)
  | revokeInvitation (invitationId : String) (now : Instant) (organizationId : OrganizationId)
      (audit : AuditContext)
  | enrollAgent (code : InvitationCode) (e : AgentEnrollmentRecord) (snapshot : GatewaySnapshot)
      (limit : InvitationAttemptLimit) (prepare : Except Error Unit) (now later : Instant)
  | retireAgentCredentials (organizationId : OrganizationId) (agentId : AgentId)
      (audit : AuditContext) (now : Instant)
  | statusSnapshot (agentId : AgentId) (snapshot : GatewaySnapshot) (now : Instant)
  | prepareRouterPolicy (organizationId : OrganizationId) (configurationDigest : Bytes)
      (refreshBefore : Instant) (build : Nat → List RouterAgent → Except Error NewRouterPolicy)
      (now : Instant)
  | acknowledgeRouterPolicy (organizationId : OrganizationId) (policy : PersistedRouterPolicy)
      (checkedAt now : Instant)

/-! ## `RouterAdmissionController` -/

structure AuthorityTools extends RegistryTools, Router.PolicyTools

/-- The fields with which a Controller makes policies. -/
structure RouterAdmissionController where
  organizationId : OrganizationId
  fleetId : String
  trustedPeerCommonNames : List String
  namespacePrefix : String
  signingKey : Bytes
  configurationDigest : Bytes

namespace RouterAdmissionController

def policyExpiry : Router.Time := 45 * 1000000000
def clockSkew : Router.Time := 5 * 1000000000
def refreshMargin : Instant := 15 * 1000000

/-- `router_policy`, with the clock reading cut to microseconds -/
def routerPolicy (c : RouterAdmissionController) (generation : Nat)
    (agents : List Router.AgentAdmission) (now : Router.Time) : Router.Policy :=
  let now := now - now % 1000
  { version := 1
    fleetId := c.fleetId
    generation := generation
    issuedAt := now - clockSkew
    notBefore := now - clockSkew
    expiresAt := now + policyExpiry
    namespacePrefix := c.namespacePrefix
    trustedPeerCommonNames := c.trustedPeerCommonNames
    agents := agents }

/-- What `apply_current_policy` gives to `prepare_router_policy` to build a policy with. -/
def build (c : RouterAdmissionController) (tools : Router.PolicyTools) (now : Router.Time)
    (generation : Nat) (agents : List RouterAgent) : Except Error NewRouterPolicy := do
  let agents := agents.map (fun agent => ⟨agent.agentId.text, agent.namespace⟩)
  let signed ← (Router.SignedPolicy.sign tools (c.routerPolicy generation agents now)
    c.signingKey).mapError (fun e => .unavailable e.text)
  let digest ← (signed.verify tools (tools.verifyingKey c.signingKey) c.fleetId).mapError
    (fun e => .unavailable e.text)
  pure ⟨signed.toJson tools, digest, signed.policy.expiresAt / 1000⟩

end RouterAdmissionController

def committed {α : Type} (db : α) : Except Error α → α
  | .ok db' => db'
  | .error _ => db

def RegistryEvent.apply (tools : RegistryTools) (db : Registry) : RegistryEvent → Registry
  | .ensureOrganization organizationId => committed db (db.ensureOrganization organizationId)
  | .createInvitation code organizationId siteId label createdAt expiresAt audit =>
    committed db (db.createInvitation tools.toDigestTools code organizationId siteId label createdAt
      expiresAt audit)
  | .invitation invitationId now =>
    committed db (db.expireInvitations (fun i => i.invitationId == invitationId) now)
  | .invitations now => committed db (db.listInvitations now)
  | .revokeInvitation invitationId now organizationId audit =>
    (db.revokeInvitation invitationId now organizationId audit).1
  | .enrollAgent code e snapshot limit prepare now later =>
    (db.enrollAgent tools code e snapshot limit prepare now later).1
  | .retireAgentCredentials organizationId agentId audit now =>
    committed db (db.retireAgentCredentials organizationId agentId audit now)
  | .statusSnapshot agentId snapshot now => committed db (db.applySnapshot tools agentId snapshot now)
  | .prepareRouterPolicy organizationId configurationDigest refreshBefore build now =>
    committed db ((db.prepareRouterPolicy organizationId configurationDigest refreshBefore build
      now).map Prod.fst)
  | .acknowledgeRouterPolicy organizationId policy checkedAt now =>
    committed db ((db.acknowledgeRouterPolicy organizationId policy checkedAt now).map Prod.fst)

/-- `prepare_router_policy` with any build; the Controller calls it in `apply_current_policy`. -/
def RegistryEvent.prepares : RegistryEvent → Bool
  | .prepareRouterPolicy .. => true
  | _ => false

/-- Statements of other programs; an update of a key keeps its Agent. -/
inductive AuthorityStatement
  | insertAgent (row : AgentRecord)
  | updateAgents (p : AgentRecord → Bool) (f : AgentRecord → AgentRecord)
  | deleteAgents (p : AgentRecord → Bool)
  | insertKey (row : AgentKeyRow)
  | updateKeys (p : AgentKeyRow → Bool) (f : AgentKeyRow → AgentKeyRow)
  | deleteKeys (p : AgentKeyRow → Bool)

def AuthorityStatement.run (db : Registry) : AuthorityStatement → Except Error Registry
  | .insertAgent row => db.insertAgent row
  | .updateAgents p f => db.updateAgents p f
  | .deleteAgents p => db.deleteAgents p
  | .insertKey row => db.insertKey row
  | .updateKeys p f => db.updateKeys p f
  | .deleteKeys p => db.deleteKeys p

/-- A transaction on the registry, where only `apply_current_policy` prepares a policy. -/
inductive AuthorityEvent
  | request (event : RegistryEvent) (h : event.prepares = false)
  /-- The clock is read for the margin, for the policy and for its expiry. -/
  | applyCurrentPolicy (controller : RouterAdmissionController) (startedAt : Instant)
      (signedAt : Router.Time) (now : Instant)
  | change (statements : List AuthorityStatement)

def AuthorityEvent.apply (tools : AuthorityTools) (db : Registry) : AuthorityEvent → Registry
  | .request event _ => event.apply tools.toRegistryTools db
  | .applyCurrentPolicy controller startedAt signedAt now =>
    committed db ((db.prepareRouterPolicy controller.organizationId controller.configurationDigest
      (startedAt + RouterAdmissionController.refreshMargin)
      (controller.build tools.toPolicyTools signedAt) now).map Prod.fst)
  | .change statements => committed db (statements.foldlM AuthorityStatement.run db)

end Inari.Controller
