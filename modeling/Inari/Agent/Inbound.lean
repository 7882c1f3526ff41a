import Inari.Lib.Except
import Inari.Lib.Table

/-!
# Controller commands on the Agent

`GatewayRepository` of `inari/gateway/repositories.py`: the records of Controller commands and the
position of managed dispatch.
-/

namespace Inari.Agent

open Lib

inductive GatewayError
  | sequenceGap (expected received : Nat)
  | replayConflict
  | dispatchEpochStale
  | dispatchEpochInvalid
  | dispatchReplayRejected
  | scopeDenied (action : String)
  | missingInbound
  | integrityError
  | typeError

instance : SqlError GatewayError := ⟨.integrityError, .missingInbound⟩

inductive InboundState
  | received | accepted | rejected
deriving DecidableEq

def InboundState.applied : InboundState → Bool
  | .received => false
  | .accepted | .rejected => true

inductive CommandAnswer
  | accepted (jobId : String)
  | rejected (code detail : String)
deriving DecidableEq

structure InboundRow (P : Type) where
  commandId : String
  messageId : String
  sequence : Option Nat
  dispatchEpoch : Option Nat
  messageType : String
  state : InboundState
  payload : P
  response : Option CommandAnswer
  jobId : Option String

variable {P : Type}

def inboundIdKey : UniqueIndex (InboundRow P) := ⟨fun r => some r.commandId⟩

/-- `idx_gateway_inbound_sequence` -/
def inboundSequenceKey : UniqueIndex (InboundRow P) := ⟨fun r => r.sequence⟩

/-- `uq_gateway_inbound_dispatch_epoch_sequence` -/
def inboundEpochKey : UniqueIndex (InboundRow P) :=
  ⟨fun r => r.dispatchEpoch.bind (fun e => r.sequence.map (fun s => (e, s)))⟩

def inboundSpec (P : Type) : TableSpec (InboundRow P) :=
  ⟨fun _ => true, [inboundIdKey, inboundSequenceKey, inboundEpochKey]⟩

structure DispatchPosition where
  dispatchEpoch : Nat
  lastSequence : Nat
deriving DecidableEq

structure GatewayDb (P : Type) where
  inbound : Table (inboundSpec P) := .empty
  dispatchPosition : Option DispatchPosition := none

/-- The arguments of `record_inbound_command`. -/
structure InboundCommand (P : Type) where
  commandId : String
  messageId : String
  sequence : Option Nat
  dispatchEpoch : Option Nat
  messageType : String
  payload : P

def InboundCommand.row (c : InboundCommand P) : InboundRow P :=
  ⟨c.commandId, c.messageId, c.sequence, c.dispatchEpoch, c.messageType, .received, c.payload,
    none, none⟩

namespace GatewayRepository

variable [DecidableEq P]

def assertExactInboundReplay (existing : InboundRow P) (c : InboundCommand P) :
    Except GatewayError Unit :=
  require (existing.messageId == c.messageId && existing.sequence == c.sequence &&
      existing.dispatchEpoch == c.dispatchEpoch && existing.messageType == c.messageType &&
      decide (existing.payload = c.payload))
    .replayConflict

/-- `last_applied_controller_sequence`, 0 before the first command -/
def lastAppliedSequence (db : GatewayDb P) : Nat :=
  ((db.inbound.select (fun r => r.state.applied)).filterMap (·.sequence)).foldr max 0

def requireNextSequence (db : GatewayDb P) : Option Nat → Except GatewayError Unit
  | some sequence =>
    let expected := lastAppliedSequence db + 1
    require (sequence == expected) (.sequenceGap expected sequence)
  | none => .ok ()

def requireCurrentEpoch (db : GatewayDb P) : Option Nat → Except GatewayError Unit
  | some epoch =>
    require (db.dispatchPosition.all (fun p => p.dispatchEpoch ≤ epoch)) .dispatchEpochStale
  | none => .ok ()

/-- `record_inbound_command`: the record and whether it is new. -/
def recordInboundCommand (db : GatewayDb P) (c : InboundCommand P) :
    Except GatewayError (GatewayDb P × InboundRow P × Bool) :=
  match db.inbound.first (fun r => r.commandId == c.commandId) with
  | some existing => do
    assertExactInboundReplay existing c
    pure (db, existing, false)
  | none => do
    requireNextSequence db c.sequence
    requireCurrentEpoch db c.dispatchEpoch
    let inbound ← db.inbound.insert c.row
    pure ({ db with inbound := inbound }, c.row, true)

end GatewayRepository

end Inari.Agent
