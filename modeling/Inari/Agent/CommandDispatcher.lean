import Inari.Agent.Inbound
import Inari.Agent.ManagedDispatch

/-!
# The handlers of Controller commands

`GatewayCommandDispatcher` of `inari/gateway/bridges/runtime.py`, and the recovery of missed
commands.
-/

namespace Inari.Agent

open Lib

abbrev Rejection := String × String

/-- The services that a handler asks. What they raise is caught. -/
structure CommandServices where
  isShared : String → Bool
  enqueueCommand : ControllerExecuteDeviceCommandPayload → Except Rejection String
  cancel : String → Except Rejection String
  admitWork : VerifiedManagedDispatch → Except Rejection String

inductive HandlerError
  | gateway (e : GatewayError)
  | dispatch (e : DispatchError)

abbrev Handled := Except HandlerError

abbrev CommandDb := GatewayDb ControllerCommandMessage

def answerOf : Except Rejection String → CommandAnswer
  | .ok jobId => .accepted jobId
  | .error (code, detail) => .rejected code detail

/-- The columns that finishing a command writes: a rejection keeps the job. -/
def InboundRow.finish {P : Type} (r : InboundRow P) : CommandAnswer → InboundRow P
  | .accepted jobId =>
    { r with state := .accepted, response := some (.accepted jobId), jobId := some jobId }
  | .rejected code detail =>
    { r with state := .rejected, response := some (.rejected code detail) }

namespace GatewayRepository

/-- `mark_inbound_accepted` and `mark_inbound_rejected` -/
def markInbound (db : CommandDb) (commandId : String) (answer : CommandAnswer) :
    Except GatewayError CommandDb := do
  let inbound ← db.inbound.update (fun r => r.commandId == commandId) (·.finish answer)
  pure { db with inbound := inbound }

/-- The position after a dispatch, or the error that it was applied before. -/
def advancePosition (stored : Option DispatchPosition) (dispatchEpoch sequence : Nat) :
    Except GatewayError DispatchPosition := do
  require (stored.all (fun p =>
      decide (p.dispatchEpoch ≤ dispatchEpoch) && decide (p.lastSequence < sequence)))
    .dispatchReplayRejected
  -- `ck_gateway_managed_dispatch_state_position`
  require (decide (0 < dispatchEpoch)) .integrityError
  pure ⟨dispatchEpoch, sequence⟩

def finishManagedDispatch (db : CommandDb) (commandId : String) (dispatchEpoch : Nat)
    (answer : CommandAnswer) : Except GatewayError CommandDb := do
  let inbound ← db.inbound.one (fun r => r.commandId == commandId)
  require (inbound.dispatchEpoch == some dispatchEpoch) .dispatchEpochInvalid
  if inbound.state.applied then pure db
  else do
    let sequence ← orRaise inbound.sequence .typeError
    let position ← advancePosition db.dispatchPosition dispatchEpoch sequence
    -- a rejected dispatch loses its job
    let finish := fun r : InboundRow ControllerCommandMessage =>
      match answer with
      | .accepted _ => r.finish answer
      | .rejected _ _ => { r.finish answer with jobId := none }
    let rows ← db.inbound.update (fun r => r.commandId == commandId) finish
    pure { db with inbound := rows, dispatchPosition := some position }

end GatewayRepository

open GatewayRepository

/-- The arguments of `record_inbound_command` for a message. -/
def ControllerCommandMessage.inbound (message : ControllerCommandMessage)
    (dispatchEpoch : Option Nat) : InboundCommand ControllerCommandMessage :=
  ⟨message.commandId, message.messageId, some message.sequence, dispatchEpoch, message.type,
    message⟩

def requireAction (enrollment : GatewayEnrollmentRecord) (action : ControllerAction) :
    Except GatewayError Unit :=
  require (enrollment.controllerActions.contains action) (.scopeDenied action.value)

/-- What `handle_execute_device_command` and `handle_cancel_job` share. A record that already has
an answer is only answered again. -/
def handleJob (db : CommandDb) (message : ControllerCommandMessage)
    (enrollment : GatewayEnrollmentRecord) (requiredAction : ControllerAction)
    (outcome : Except Rejection String) : Except GatewayError CommandDb := do
  requireAction enrollment requiredAction
  let (db, record, created) ← recordInboundCommand db (message.inbound none)
  if !created && record.response.isSome then pure db
  else markInbound db message.commandId (answerOf outcome)

/-- The part of `handle_execute_device_command` that is guarded. -/
def executeDeviceCommand (services : CommandServices)
    (payload : ControllerExecuteDeviceCommandPayload) : Except Rejection String := do
  require (services.isShared payload.deviceId)
    ("UPSTREAM_DEVICE_NOT_SHARED",
      "The Device is not shared with this Controller. Review the selection in Setup.")
  services.enqueueCommand payload

/-- `handle_dispatch_device_work`: the verifier runs before the command is recorded. -/
def handleDispatchDeviceWork (tools : WireTools) (crypto : CryptoTools)
    (keyPair : DispatchEncryptionKeyPair) (services : CommandServices) (db : CommandDb)
    (message : ControllerCommandMessage) (payload : DispatchDeviceWorkPayload)
    (enrollment : GatewayEnrollmentRecord) (now : Int) : Handled CommandDb := do
  let verified ← (verify tools crypto keyPair message (message.issuedAt.getD 0) payload enrollment
    now).mapError .dispatch
  let (db, record, created) ←
    (recordInboundCommand db (message.inbound (some verified.dispatchEpoch))).mapError .gateway
  if !created && record.response.isSome then pure db
  else
    (finishManagedDispatch db message.commandId verified.dispatchEpoch
      (answerOf (services.admitWork verified))).mapError .gateway

/-- `_handle_command`, for the enrollment of the session -/
def handleCommand (tools : WireTools) (crypto : CryptoTools) (keyPair : DispatchEncryptionKeyPair)
    (services : CommandServices) (enrollment : GatewayEnrollmentRecord) (now : Int)
    (db : CommandDb) (message : ControllerCommandMessage) : Handled CommandDb :=
  match message.content with
  | .executeDeviceCommand payload =>
    (handleJob db message enrollment .commandsExecute
      (executeDeviceCommand services payload)).mapError .gateway
  | .cancelJob jobId =>
    (handleJob db message enrollment .jobsCancel (services.cancel jobId)).mapError .gateway
  | .dispatchDeviceWork payload =>
    handleDispatchDeviceWork tools crypto keyPair services db message payload enrollment now

/-- A dictionary keeps the place of a key and takes its last value. -/
def putCommand (commands : List ControllerCommandMessage) (c : ControllerCommandMessage) :
    List ControllerCommandMessage :=
  if commands.any (·.commandId == c.commandId) then
    commands.map (fun d => if d.commandId == c.commandId then c else d)
  else commands ++ [c]

/-- `_recover_commands_since`, from the replies that decode as JSON -/
def recoverCommandsSince (tools : WireTools) (replies : List Json) :
    Validated (List ControllerCommandMessage) := do
  let commands ← replies.mapM (parseHistoryPayload tools)
  pure ((commands.flatten.foldl putCommand []).insertionSort (fun a b => a.sequence ≤ b.sequence))

end Inari.Agent
