import Inari.Controller.RouterPolicy
import Inari.Controller.Service

/-!
# The Controller with its registry

The Agents and keys of each request are rows of the registry, which enrollments, retirements and
status snapshots change.
-/

namespace Inari.Controller

open Lib

structure World where
  registry : Registry := {}
  db : Db := {}

structure WorldTools where
  registry : RegistryTools
  service : Tools

/-- The fleet with the Agents and keys of the registry. -/
def Registry.fleet (registry : Registry) (fleet : Fleet) : Fleet :=
  { fleet with
    agents := registry.agents.rows.map (·.toAgentRow)
    keys := registry.keys.rows.map (·.toVerificationKeyRow) }

def AgentPublication.snapshot : AgentPublication → Option StructuredFields
  | .statusSnapshot _ snapshot => some snapshot
  | _ => none

def inventoryParses (tools : RegistryTools) (message : AgentPublication) : Bool :=
  message.snapshot.all (fun fields =>
    (parseInventory tools (tools.readSnapshot fields).inventory).isOk)

namespace World

/-- The part of `record_publication` about a snapshot in a new publication. -/
def projectSnapshot (tools : WorldTools) (w : World) (agentId : AgentId)
    (message : AgentPublication) (now : Instant) : Except Error Registry :=
  match message.snapshot,
    w.db.publications.first (fun p => p.messageId == message.messageId) with
  | some fields, none =>
    w.registry.applySnapshot tools.registry agentId (tools.registry.readSnapshot fields) now
  | _, _ => pure w.registry

def recordPublication (tools : WorldTools) (w : World) (fleet : Fleet) (agentId : AgentId)
    (key : String) (message : AgentPublication) (now : Instant) : Except Error World := do
  let db ← Controller.recordPublication tools.service.envelopes (w.registry.fleet fleet) w.db agentId
    key message (inventoryParses tools.registry message) now
  let registry ← w.projectSnapshot tools agentId message now
  pure ⟨registry, db⟩

end World

def Event.within (registry : Registry) : Event → Event
  | .enqueueJob config fleet agentId jobId request now =>
    .enqueueJob config (registry.fleet fleet) agentId jobId request now
  | .cancelJob config fleet jobId now => .cancelJob config (registry.fleet fleet) jobId now
  | .preflight config fleet request preflightId now =>
    .preflight config (registry.fleet fleet) request preflightId now
  | .submitWork config fleet managedWorkId idempotencyKey submission random now =>
    .submitWork config (registry.fleet fleet) managedWorkId idempotencyKey submission random now
  | .publication fleet agentId key message inventoryOk now =>
    .publication (registry.fleet fleet) agentId key message inventoryOk now
  | event => event

inductive WorldEvent
  | registry (event : RegistryEvent)
  | request (event : Event)

/-- A publication and its snapshot are recorded in one transaction. -/
def World.next (tools : WorldTools) (w : World) : WorldEvent → World
  | .registry event => { w with registry := event.apply tools.registry w.registry }
  | .request (.publication fleet agentId key message _ now) =>
    committed w (w.recordPublication tools fleet agentId key message now)
  | .request event => { w with db := step tools.service w.db (event.within w.registry) }

def World.step (tools : WorldTools) (w : World) (event : WorldEvent) : World × Unit :=
  (w.next tools event, ())

end Inari.Controller
