import Inari.Controller.Publications

/-!
# Agents, their keys, invitations and the Router policy

The tables of `inari-migration` that say which Agents a Controller admits. A trigger counts every
change of an Agent or a key in the authority revision.
-/

namespace Inari.Controller

open Lib

/-- `jsonwebtoken::jwk::Jwk`: the key id, and the text of the whole key. -/
structure Jwk where
  keyId : Option String
  text : String

/-- A row of `agents`. -/
structure AgentRecord extends AgentRow where
  jwkThumbprint : String
  publicJwk : Jwk
  «namespace» : String
  controllerActions : List String
  enrolledAt : Instant
  lastEnrolledAt : Instant

/-- A row of `agent_verification_keys`. -/
structure AgentKeyRow extends VerificationKeyRow where
  jwkThumbprint : String

inductive InvitationState
  | created | enrolled | online | expired | failed | revoked
deriving DecidableEq

/-- `GatewaySnapshot`: when it was made, the inventory, and the other descriptors. -/
structure GatewaySnapshot where
  generatedAt : Instant
  inventory : StructuredFields
  descriptors : StructuredFields

structure InvitationRow where
  invitationId : String
  organizationId : OrganizationId
  siteId : SiteId
  label : Option String
  secretDigest : Bytes
  state : InvitationState
  createdAt : Instant
  expiresAt : Instant
  enrolledAt : Option Instant
  onlineAt : Option Instant
  revokedAt : Option Instant
  failedAt : Option Instant
  lastError : Option String
  boundAgentId : Option AgentId
  boundKeyId : Option String
  enrollmentFingerprint : Option Bytes
  latestSnapshot : Option GatewaySnapshot

structure AttemptRow where
  invitationId : String
  attemptedAt : Instant
deriving DecidableEq

inductive DeviceKind
  | printer | scale | scanner | display
deriving DecidableEq

inductive DeviceClass
  | physical | virtual
deriving DecidableEq

inductive DeviceTransport
  | spooler | network | usb | hid | serial
deriving DecidableEq

/-- A row of `devices`, whose capabilities are always empty. -/
structure DeviceRecord where
  agentId : AgentId
  deviceId : DeviceId
  siteId : SiteId
  kind : DeviceKind
  deviceClass : DeviceClass
  displayName : String
  online : Bool
  transport : DeviceTransport
  identityDigest : String
  firstSeenAt : Instant
  lastSeenAt : Instant
deriving DecidableEq

inductive AuditAction
  | invitationCreated | invitationRevoked | agentEnrolled | agentCredentialsRetired

inductive AuditResource
  | agent (agentId : AgentId)
  | invitation (invitationId : String)

/-- A row of `audit_events`; every outcome here is `succeeded`. -/
structure AuditRow where
  organizationId : OrganizationId
  actorId : String
  action : AuditAction
  resource : AuditResource
  requestId : Option String

structure AuditContext where
  actorId : String
  requestId : Option String

/-- The columns of a prepared Router policy, which are all null or all set. -/
structure PreparedPolicy where
  policyRevision : Nat
  configurationDigest : Bytes
  policyDigest : Bytes
  signedPolicy : Json
  expiresAt : Instant

structure RouterPolicyRow where
  organizationId : OrganizationId
  authorityRevision : Nat
  generation : Nat
  policy : Option PreparedPolicy
  acknowledgedAt : Option Instant

def agentIdKey : UniqueIndex AgentRecord := ⟨fun a => some a.agentId⟩

def agentKeyIdKey : UniqueIndex AgentRecord := ⟨fun a => some a.keyId⟩

def agentNamespaceKey : UniqueIndex AgentRecord := ⟨fun a => some a.namespace⟩

def agentSpec : TableSpec AgentRecord :=
  ⟨fun _ => true, [agentIdKey, agentKeyIdKey, agentNamespaceKey]⟩

def keyIdKey : UniqueIndex AgentKeyRow := ⟨fun k => some k.keyId⟩

def keyThumbprintKey : UniqueIndex AgentKeyRow := ⟨fun k => some k.jwkThumbprint⟩

/-- `uq_agent_active_verification_key` -/
def activeKey : UniqueIndex AgentKeyRow :=
  ⟨fun k => if k.retiredAt.isNone then some (k.agentId, k.purpose) else none⟩

def keySpec : TableSpec AgentKeyRow := ⟨fun _ => true, [keyIdKey, keyThumbprintKey, activeKey]⟩

def invitationIdKey : UniqueIndex InvitationRow := ⟨fun i => some i.invitationId⟩

def invitationSpec : TableSpec InvitationRow where
  check i := i.secretDigest.length == 32 &&
    i.enrollmentFingerprint.all (fun f => f.length == 32)
  uniques := [invitationIdKey]

def attemptKey : UniqueIndex AttemptRow := ⟨fun a => some (a.invitationId, a.attemptedAt)⟩

def attemptSpec : TableSpec AttemptRow := ⟨fun _ => true, [attemptKey]⟩

def deviceKey : UniqueIndex DeviceRecord := ⟨fun d => some (d.agentId, d.deviceId)⟩

/-- `devices_agent_identity_key` -/
def deviceIdentityKey : UniqueIndex DeviceRecord :=
  ⟨fun d => some (d.agentId, d.kind, d.identityDigest)⟩

def isIdentityDigest (text : String) : Bool :=
  text.length == 64 && text.toList.all (fun c => c.isDigit || ('a' ≤ c && c ≤ 'f'))

def deviceSpec : TableSpec DeviceRecord where
  check d := isIdentityDigest d.identityDigest
  uniques := [deviceKey, deviceIdentityKey]

def policyKey : UniqueIndex RouterPolicyRow := ⟨fun p => some p.organizationId⟩

def maxGeneration : Nat := 9007199254740991

def policySpec : TableSpec RouterPolicyRow where
  check p := p.authorityRevision ≤ 9223372036854775807 && p.generation ≤ maxGeneration &&
    (match p.policy with
      | none => p.generation == 0
      | some policy => 0 < p.generation && policy.configurationDigest.length == 32 &&
        policy.policyDigest.length == 32)
  uniques := [policyKey]

structure RouterAgent where
  agentId : AgentId
  «namespace» : String

structure Registry where
  agents : Table agentSpec := .empty
  keys : Table keySpec := .empty
  invitations : Table invitationSpec := .empty
  attempts : Table attemptSpec := .empty
  devices : Table deviceSpec := .empty
  policies : Table policySpec := .empty
  audit : List AuditRow := []

/-! ## The trigger `invalidate_router_policy` -/

def RouterPolicyRow.invalidated (p : RouterPolicyRow) : RouterPolicyRow :=
  { p with authorityRevision := p.authorityRevision + 1, acknowledgedAt := none }

namespace Registry

variable (db : Registry) (organizationId : OrganizationId)

def invalidate : Except Error Registry := do
  let policies ← db.policies.update (fun p => p.organizationId == organizationId)
    RouterPolicyRow.invalidated
  pure { db with policies := policies }

def invalidateAll (db : Registry) : List OrganizationId → Except Error Registry
  | [] => pure db
  | organizationId :: rest => do
    let db' ← db.invalidate organizationId
    invalidateAll db' rest

/-- The Organization that the trigger finds for a key: the one of its Agent. -/
def organizationOf? (agentId : AgentId) : Option OrganizationId :=
  (db.agents.first (fun a => a.agentId == agentId)).map (fun a => a.organizationId)

def insertAgent (row : AgentRecord) : Except Error Registry := do
  let agents ← db.agents.insert row
  invalidate { db with agents := agents } row.organizationId

/-- An update fires the trigger for the old and the new Organization of each row. -/
def updateAgents (p : AgentRecord → Bool) (f : AgentRecord → AgentRecord) :
    Except Error Registry := do
  let agents ← db.agents.update p f
  invalidateAll { db with agents := agents }
    ((db.agents.select p).flatMap (fun a => [a.organizationId, (f a).organizationId]))

/-- The keys of an Agent restrict its deletion. -/
def deleteAgents (p : AgentRecord → Bool) : Except Error Registry := do
  require ((db.agents.select p).all (fun a => !db.keys.rows.any (fun k => k.agentId == a.agentId)))
    Error.database
  invalidateAll { db with agents := db.agents.delete p }
    ((db.agents.select p).map (fun a => a.organizationId))

def keyOrganizations (keys : List AgentKeyRow) : List OrganizationId :=
  keys.filterMap (fun k => db.organizationOf? k.agentId)

def insertKey (row : AgentKeyRow) : Except Error Registry := do
  require (db.organizationOf? row.agentId).isSome Error.database
  let keys ← db.keys.insert row
  invalidateAll { db with keys := keys } (db.keyOrganizations [row])

/-- No statement of the Controller moves a key to another Agent, and none is modelled: the trigger
reads `NEW.agent_id` only. -/
def updateKeys (p : AgentKeyRow → Bool) (f : AgentKeyRow → AgentKeyRow) :
    Except Error Registry := do
  let keys ← db.keys.update p (fun k => { f k with agentId := k.agentId })
  invalidateAll { db with keys := keys } (db.keyOrganizations (db.keys.select p))

def deleteKeys (p : AgentKeyRow → Bool) : Except Error Registry :=
  invalidateAll { db with keys := db.keys.delete p } (db.keyOrganizations (db.keys.select p))

def hasKey (agentId : AgentId) (purpose : AgentKeyPurpose) (p : AgentKeyRow → Bool) : Bool :=
  db.keys.rows.any (fun k => k.agentId == agentId && k.purpose == purpose && p k &&
    k.retiredAt.isNone)

/-- The condition that `active_agents` and `is_active_agent` share. -/
def isActive (a : AgentRecord) : Bool :=
  a.organizationId == organizationId && a.dispatchKey.isSome &&
    db.hasKey a.agentId .transportIdentity (fun k => k.keyId == a.keyId) &&
    db.hasKey a.agentId .agentState (fun _ => true)

/-- `active_agents`, in the order of their ids. -/
def activeAgents : List RouterAgent :=
  ((db.agents.select (db.isActive organizationId)).insertionSort
    (fun a b => a.agentId.text ≤ b.agentId.text)).map (fun a => ⟨a.agentId, a.namespace⟩)

def isActiveAgent (agentId : String) : Bool :=
  db.agents.rows.any (fun a => db.isActive organizationId a && a.agentId.text == agentId)

end Registry

structure InventoryItem where
  deviceId : DeviceId
  kind : DeviceKind
  deviceClass : DeviceClass
  displayName : String
  systemName : String
  driverKey : String
  online : Bool
  transport : DeviceTransport
  identityDigest : String
  capabilities : List String
  metadata : StructuredFields
deriving DecidableEq

/-- The libraries that read what an Agent sends at its enrollment. -/
structure RegistryTools extends WireTools where
  /-- `Jwk::thumbprint` with SHA-256 -/
  thumbprint : Jwk → String
  /-- `serde` on the inventory, in an object with only `devices` -/
  readInventory : StructuredFields → Option (List InventoryItem)
  /-- The snapshot in a status publication. -/
  readSnapshot : StructuredFields → GatewaySnapshot

def maxDevices : Nat := 1024

def InventoryItem.identity (i : InventoryItem) : DeviceKind × String := (i.kind, i.identityDigest)

/-- The checks that `parse` makes of an item, given the items before it. -/
def InventoryItem.check (tools : RegistryTools) (earlier : List InventoryItem) (i : InventoryItem) :
    Except Error Unit := do
  require (earlier.all (fun e => e.deviceId != i.deviceId && e.identity != i.identity))
    (.invalidInput "inventory contains duplicate Device identities")
  require ([i.displayName, i.systemName, i.driverKey].all (fun value =>
      !value.isEmpty && value.utf8ByteSize ≤ 1024 && !value.toList.any isControl))
    (.invalidInput "inventory contains an invalid Device name")
  require (isIdentityDigest i.identityDigest)
    (.invalidInput "inventory contains an invalid identity digest")
  require (i.capabilities.all (fun c => ["raw", "text", "documents", "cash_drawer"].contains c) &&
      decide i.capabilities.Nodup)
    (.invalidInput "inventory contains an invalid discovery capability")
  require ((tools.toVec (.obj i.metadata)).length ≤ 16384)
    (.invalidInput "inventory Device metadata exceeds its size limit")

def checkItems (tools : RegistryTools) (earlier : List InventoryItem) :
    List InventoryItem → Except Error Unit
  | [] => pure ()
  | i :: rest => do
    i.check tools earlier
    checkItems tools (i :: earlier) rest

/-- `InventoryProjection::parse` -/
def parseInventory (tools : RegistryTools) (inventory : StructuredFields) :
    Except Error (List InventoryItem) := do
  let items ← orRaise (tools.readInventory inventory)
    (.invalidInput "inventory does not match the Device contract")
  require (items.length ≤ maxDevices) (.invalidInput "inventory exceeds the Device count limit")
  checkItems tools [] items
  pure items

def InventoryItem.row (i : InventoryItem) (agentId : AgentId) (siteId : SiteId)
    (generatedAt : Instant) : DeviceRecord where
  agentId := agentId
  deviceId := i.deviceId
  siteId := siteId
  kind := i.kind
  deviceClass := i.deviceClass
  displayName := i.displayName
  online := i.online
  transport := i.transport
  identityDigest := i.identityDigest
  firstSeenAt := generatedAt
  lastSeenAt := generatedAt

/-- One item of `InventoryProjection::apply`; `existing` are the rows before the first item. -/
def applyItem (existing : List DeviceRecord) (agentId : AgentId) (siteId : SiteId)
    (generatedAt : Instant) (devices : Table deviceSpec) (i : InventoryItem) :
    Except Error (Table deviceSpec) := do
  require (!existing.any (fun d => (d.deviceId == i.deviceId) !=
      (d.identityDigest == i.identityDigest && d.kind == i.kind)))
    (.invalidInput "a Device changed its established identity")
  let row := i.row agentId siteId generatedAt
  devices.upsert row (fun d => d.agentId == agentId && d.deviceId == i.deviceId)
    (fun d => { row with
      kind := d.kind, identityDigest := d.identityDigest, firstSeenAt := d.firstSeenAt })

/-- `InventoryProjection::apply` -/
def applyInventory (devices : Table deviceSpec) (items : List InventoryItem) (agentId : AgentId)
    (siteId : SiteId) (generatedAt : Instant) : Except Error (Table deviceSpec) := do
  let existing := devices.select (fun d => d.agentId == agentId)
  let devices ← items.foldlM (applyItem existing agentId siteId generatedAt) devices
  pure (devices.delete (fun d => d.agentId == agentId &&
    !items.any (fun i => i.deviceId == d.deviceId)))

end Inari.Controller
