import Inari.Contracts.Wire
import Inari.Lib.Except
import Inari.Lib.KeyExpr

/-!
# Router policies

`policy.rs` of `inari-router`: a policy is the complete authority of one Router fleet, which the
Controller signs.
-/

namespace Inari.Router

open Lib

/-- A `DateTime<Utc>`, in nanoseconds -/
abbrev Time := Int

inductive RouterError
  | invalidPolicy (message : String)
  | invalidSignature
  | notCurrent
  | generationConflict
  | notReady (message : String)
  | unavailable
  | io (message : String)
  | json (message : String)
deriving DecidableEq

/-- The texts of `error.rs` -/
def RouterError.text : RouterError → String
  | .invalidPolicy message => s!"Invalid Router policy: {message}"
  | .invalidSignature => "Router policy signature is invalid."
  | .notCurrent => "Router policy is not current."
  | .generationConflict => "Router policy generation is stale or conflicts with stored policy."
  | .notReady message => s!"Router is not ready: {message}"
  | .unavailable => "Router Supervisor is busy or unavailable."
  | .io message => s!"Router storage or process error: {message}"
  | .json message => s!"Router JSON error: {message}"

structure AgentAdmission where
  commonName : String
  agentNamespace : String

structure Policy where
  version : Nat
  fleetId : String
  generation : Nat
  issuedAt : Time
  notBefore : Time
  expiresAt : Time
  namespacePrefix : String
  trustedPeerCommonNames : List String
  agents : List AgentAdmission

def agentMark : String := "agt_"

def agentName (value : String) : Bool :=
  agentMark.toList.isPrefixOf value.toList &&
    let suffix := value.toList.drop agentMark.length
    suffix.length == 24 && suffix.all (fun c => c.isDigit || ('a' ≤ c && c ≤ 'f'))

def literalChar (c : Char) : Bool := c.isAlphanum || c == '-' || c == '_' || c == '.'

def literalName (value : String) : Bool :=
  !value.isEmpty && decide (value.utf8ByteSize ≤ 128) && value.toList.all literalChar

def literalNamespace (value : String) : Bool :=
  decide (value.utf8ByteSize ≤ 256) && (chunks value).all (fun segment =>
    !segment.isEmpty && segment != ['.'] && segment != ['.', '.'] &&
      literalName (String.ofList segment))

def maxAgents : Nat := 10000

def fiveMinutes : Time := 5 * 60 * 1000000000

/-- The trusted peers; what is returned are the common names so far. -/
def validatePeers : List String → List String → Except RouterError (List String)
  | [], subjects => .ok subjects
  | peer :: peers, subjects => do
    require (literalName peer && !(agentMark.toList.isPrefixOf peer.toList) &&
        !(subjects.contains peer))
      (.invalidPolicy "trusted peer common names must be distinct literal names")
    validatePeers peers (peer :: subjects)

def validateAgents (namespacePrefix : String) : List AgentAdmission → List String →
    Except RouterError Unit
  | [], _ => .ok ()
  | agent :: agents, subjects => do
    require (agentName agent.commonName && !(subjects.contains agent.commonName) &&
        agent.agentNamespace == namespacePrefix ++ "/" ++ agent.commonName)
      (.invalidPolicy "each Agent requires its own common name and exact namespace")
    validateAgents namespacePrefix agents (agent.commonName :: subjects)

def Policy.validate (p : Policy) : Except RouterError Unit := do
  require (p.version == 1 && decide (1 ≤ p.generation) && decide (p.generation ≤ 9007199254740991) &&
      literalName p.fleetId)
    (.invalidPolicy "version, fleet_id, or generation is invalid")
  let lifetime := p.expiresAt - p.issuedAt
  require (decide (p.issuedAt ≤ p.notBefore) && decide (p.notBefore < p.expiresAt) &&
      decide (0 < lifetime) && decide (lifetime ≤ fiveMinutes))
    (.invalidPolicy "policy times must fit within five minutes")
  require (literalNamespace p.namespacePrefix)
    (.invalidPolicy "namespace_prefix must contain only literal path segments")
  require (!p.trustedPeerCommonNames.isEmpty && decide (p.trustedPeerCommonNames.length ≤ 64) &&
      decide (p.agents.length ≤ maxAgents))
    (.invalidPolicy "the Agent or trusted peer count is invalid")
  let subjects ← validatePeers p.trustedPeerCommonNames []
  validateAgents p.namespacePrefix p.agents subjects

/-! ## Signatures -/

structure PolicyTools extends WireTools, CryptoTools where
  /-- `VerifyingKey::is_weak` -/
  isWeak : Bytes → Bool
  /-- The RFC 3339 text of a time, with the digits of its second that it needs. -/
  rfc3339Nanos : Time → String

variable (tools : PolicyTools)

def AgentAdmission.toJson (agent : AgentAdmission) : Json :=
  .obj [("common_name", .str agent.commonName), ("namespace", .str agent.agentNamespace)]

def Policy.toJson (p : Policy) : Json :=
  .obj [("version", .int p.version), ("fleet_id", .str p.fleetId), ("generation", .int p.generation),
    ("issued_at", .str (tools.rfc3339Nanos p.issuedAt)),
    ("not_before", .str (tools.rfc3339Nanos p.notBefore)),
    ("expires_at", .str (tools.rfc3339Nanos p.expiresAt)),
    ("namespace_prefix", .str p.namespacePrefix),
    ("trusted_peer_common_names", .arr (p.trustedPeerCommonNames.map .str)),
    ("agents", .arr (p.agents.map AgentAdmission.toJson))]

def Policy.canonical (p : Policy) : Bytes := tools.canonical (p.toJson tools)

def Policy.signatureInput (p : Policy) : Bytes :=
  encode "inari.router-policy.v1\n" ++ p.canonical tools

/-- The digest of a `VerifiedPolicy`, before it is written in hexadecimal. -/
def Policy.digest (p : Policy) : Bytes := tools.sha256 (p.canonical tools)

structure SignedPolicy where
  policy : Policy
  signature : String

namespace SignedPolicy

def toJson (s : SignedPolicy) : Json :=
  .obj [("policy", s.policy.toJson tools), ("signature", .str s.signature)]

def sign (policy : Policy) (key : Bytes) : Except RouterError SignedPolicy := do
  policy.validate
  pure ⟨policy, Hex.encode (tools.sign key (policy.signatureInput tools))⟩

/-- `verify`; what is returned of the `VerifiedPolicy` is its digest. -/
def verify (s : SignedPolicy) (key : Bytes) (fleetId : String) : Except RouterError Bytes := do
  s.policy.validate
  require (!tools.isWeak key && s.policy.fleetId == fleetId) .invalidSignature
  let signature ← orRaise (Hex.decode s.signature) .invalidSignature
  require (signature.length == 64) .invalidSignature
  require (tools.verify key (s.policy.signatureInput tools) signature) .invalidSignature
  pure (s.policy.digest tools)

end SignedPolicy

end Inari.Router
