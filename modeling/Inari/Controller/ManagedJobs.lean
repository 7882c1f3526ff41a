import Inari.Agent.Gateway
import Inari.Controller.Transactions

/-!
# Jobs of the Controller at one Agent

The store of the Controller and the gateway of the Agent, joined by the messages that the
Controller sends.
-/

namespace Inari.Controller

open Inari.Agent

/-- The Agent, with what the two sides compute with. -/
structure ManagedAgent where
  agentId : AgentId
  tools : Tools
  gateway : GatewayConfig

/-- The message that the Agent reads from its command with the sequence. -/
def ManagedAgent.readCommand (a : ManagedAgent) (config : Config) (fleet : Fleet) (db : Db)
    (sequence : Nat) (now : Instant) : Option ControllerCommandMessage :=
  match db.commands.first (fun c => c.agentId == a.agentId && c.sequence == sequence) with
  | none => none
  | some c =>
    match dispatchMessage config fleet db now c with
    | .error _ => none
    | .ok m =>
      (ControllerCommandMessage.modelValidate a.tools.wire (m.toJson a.tools.wire)).toOption

structure ManagedJobs where
  controller : Db := {}
  gateway : Gateway := {}

inductive ManagedJobsEvent
  | controller (t : CommandTransaction)
  | deliver (config : Config) (fleet : Fleet) (sequence : Nat) (now : Instant)
  /-- Anything else that happens at the Agent. -/
  | gateway (e : GatewayEvent)

def ManagedJobs.step (a : ManagedAgent) (s : ManagedJobs) : ManagedJobsEvent → ManagedJobs × Unit
  | .controller t => ({ s with controller := (commit a.tools s.controller t).1 }, ())
  | .deliver config fleet sequence now =>
    match a.readCommand config fleet s.controller sequence now with
    | none => (s, ())
    | some message =>
      ({ s with gateway := (s.gateway.step a.gateway (.deliver message)).1 }, ())
  -- every message comes from the Controller
  | .gateway (.deliver _) => (s, ())
  | .gateway e => ({ s with gateway := (s.gateway.step a.gateway e).1 }, ())

end Inari.Controller
