import Inari.Router.Policy

/-!
# The access control of a Router

`acl.rs` of `inari-router`, and what Zenoh does with the configuration: a message is allowed if a
rule for a subject of its link includes its key expression.
-/

namespace Inari.Router

open Lib

inductive AclMessage
  | put | delete | declareSubscriber | query | reply | declareQueryable | livelinessToken
  | livelinessQuery | declareLivelinessSubscriber
deriving DecidableEq

inductive AclFlow
  | ingress | egress
deriving DecidableEq

inductive AclPermission
  | allow | deny

inductive LinkProtocol
  | tls | other

structure Rule where
  id : String
  messages : List AclMessage
  flows : List AclFlow
  permission : AclPermission
  keyExprs : List String

structure Subject where
  id : String
  linkProtocols : List LinkProtocol
  certCommonNames : List String

structure PolicyEntry where
  id : String
  rules : List String
  subjects : List String

structure AccessControl where
  enabled : Bool
  defaultPermission : AclPermission
  rules : List Rule
  subjects : List Subject
  policies : List PolicyEntry

def rule (id : String) (messages : List AclMessage) (flows : List AclFlow)
    (keyExprs : List String) : Rule :=
  ⟨id, messages, flows, .allow, keyExprs⟩

def trustedRule (policy : Policy) : Rule :=
  rule "trusted-authority" [.put, .delete, .declareSubscriber, .query, .reply, .declareQueryable,
    .livelinessToken, .livelinessQuery, .declareLivelinessSubscriber] [.ingress, .egress]
    [policy.namespacePrefix ++ "/" ++ "**"]

/-- The suffix of the id, the messages, the flows and the paths of each rule of an Agent -/
def definitions : List (String × List AclMessage × List AclFlow × List String) :=
  [("publications", [.put], [.ingress],
      ["presence/agent", "status/latest", "results/*", "events/*", "errors/*"]),
    ("presence", [.livelinessToken], [.ingress], ["presence/agent"]),
    ("subscription", [.declareSubscriber], [.ingress], ["commands/live/**"]),
    ("delivery", [.put], [.egress], ["commands/live/**"]),
    ("query", [.query], [.ingress], ["commands/history", "state/commit"]),
    ("reply", [.reply, .declareQueryable], [.egress], ["commands/history", "state/commit"])]

def agentRules (agent : AgentAdmission) : List Rule :=
  definitions.map (fun (suffix, messages, flows, paths) =>
    rule (agent.commonName ++ "-" ++ suffix) messages flows
      (paths.map (fun path => agent.agentNamespace ++ "/" ++ path)))

def accessControl (policy : Policy) : AccessControl where
  enabled := true
  defaultPermission := .deny
  rules := trustedRule policy :: policy.agents.flatMap agentRules
  subjects := ⟨"trusted-peers", [.tls], policy.trustedPeerCommonNames⟩ ::
    policy.agents.map (fun agent => ⟨agent.commonName, [.tls], [agent.commonName]⟩)
  policies := ⟨"trusted-authority", ["trusted-authority"], ["trusted-peers"]⟩ ::
    policy.agents.map (fun agent =>
      ⟨agent.commonName, (agentRules agent).map (·.id), [agent.commonName]⟩)

/-- Every key of the expression is a key of the rule's expression. -/
def Includes (ruleExpr expression : String) : Prop :=
  ∀ key, keyMatches expression key = true → keyMatches ruleExpr key = true

/-- The two expressions have a key in common. -/
def Intersects (ruleExpr expression : String) : Prop :=
  ∃ key, keyMatches ruleExpr key = true ∧ keyMatches expression key = true

namespace AccessControl

/-- A policy entry gives the rule to a subject of the link. -/
def Applies (ac : AccessControl) (protocol : LinkProtocol) (commonName : String) (r : Rule) :
    Prop :=
  ∃ entry ∈ ac.policies, r.id ∈ entry.rules ∧ ∃ subject ∈ ac.subjects,
    subject.id ∈ entry.subjects ∧ protocol ∈ subject.linkProtocols ∧
      commonName ∈ subject.certCommonNames

/-- The link may use the key expression in a message of the kind and direction. -/
def Permits (ac : AccessControl) (protocol : LinkProtocol) (commonName : String)
    (message : AclMessage) (flow : AclFlow) (expression : String) : Prop :=
  ac.enabled = false ∨
    (∀ r ∈ ac.rules, r.permission = .deny → ac.Applies protocol commonName r →
      message ∈ r.messages → flow ∈ r.flows → ∀ k ∈ r.keyExprs, ¬Intersects k expression) ∧
    (ac.defaultPermission = .allow ∨ ∃ r ∈ ac.rules, r.permission = .allow ∧
      ac.Applies protocol commonName r ∧ message ∈ r.messages ∧ flow ∈ r.flows ∧
      ∃ k ∈ r.keyExprs, Includes k expression)

end AccessControl

/-- `keyspace.py` of the Agent -/
structure GatewayZenohKeyspace where
  agentNamespace : String

inductive AgentPublication
  | commandAccepted (commandId : String)
  | commandRejected (commandId : String)
  | runtimeEvent (messageId : String)
  | error (messageId : String)
  | statusSnapshot

namespace GatewayZenohKeyspace

/-- `__init__`: slashes at the end are dropped. -/
def new (value : String) : GatewayZenohKeyspace :=
  ⟨String.ofList (value.toList.rdropWhile (· == '/'))⟩

variable (k : GatewayZenohKeyspace)

def statusLatest : String := k.agentNamespace ++ "/" ++ "status/latest"
def liveCommands : String := k.agentNamespace ++ "/" ++ "commands/live/**"
def commandHistory : String := k.agentNamespace ++ "/" ++ "commands/history"
def stateCommit : String := k.agentNamespace ++ "/" ++ "state/commit"
def presence : String := k.agentNamespace ++ "/" ++ "presence/agent"
def event (messageId : String) : String := k.agentNamespace ++ "/" ++ "events" ++ "/" ++ messageId
def result (commandId : String) : String := k.agentNamespace ++ "/" ++ "results" ++ "/" ++ commandId
def error (messageId : String) : String := k.agentNamespace ++ "/" ++ "errors" ++ "/" ++ messageId

/-- `_publication_key` -/
def publicationKey : AgentPublication → String
  | .commandAccepted commandId | .commandRejected commandId => k.result commandId
  | .runtimeEvent messageId => k.event messageId
  | .error messageId => k.error messageId
  | .statusSnapshot => k.statusLatest

end GatewayZenohKeyspace

def AgentPublication.named : AgentPublication → Bool
  | .commandAccepted id | .commandRejected id | .runtimeEvent id | .error id => literalName id
  | .statusSnapshot => true

/-- What the session of an Agent declares, queries and publishes. -/
inductive GatewayZenohKeyspace.Uses (k : GatewayZenohKeyspace) : AclMessage → String → Prop
  | subscribe : k.Uses .declareSubscriber k.liveCommands
  | token : k.Uses .livelinessToken k.presence
  | history : k.Uses .query k.commandHistory
  | commit : k.Uses .query k.stateCommit
  | publish (publication : AgentPublication) (hnamed : publication.named = true) :
      k.Uses .put (k.publicationKey publication)

end Inari.Router
