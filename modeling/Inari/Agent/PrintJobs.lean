import Inari.Agent.Ledger

/-!
# Print Job lifecycle rules and what the workers report

The lifecycle rules of `inari/print_jobs/models.py`, and the values with which `PhysicalExecution`
calls `finish` and `fail_before_io`.
-/

namespace Inari.Agent

open Lib

def PrintJobState.value : PrintJobState → String
  | .accepted => "accepted"
  | .inProgress => "in_progress"
  | .outputConfirmed => "output_confirmed"
  | .failed => "failed"
  | .outcomeUnknown => "outcome_unknown"
  | .expired => "expired"
  | .canceled => "canceled"

def transitions : PrintJobState → List PrintJobState
  | .accepted => [.inProgress, .failed, .expired, .canceled]
  | .inProgress => [.outputConfirmed, .failed, .outcomeUnknown]
  | .outcomeUnknown => [.outputConfirmed, .failed]
  | .outputConfirmed | .failed | .expired | .canceled => []

/-- Full match of `[a-z][class]{0,max}`. -/
def lowerCode (rest : Char → Bool) (max : Nat) (s : String) : Bool :=
  match s.toList with
  | [] => false
  | c :: cs => c.isLower && decide (cs.length ≤ max) && cs.all rest

/-- `[a-z][a-z0-9_]{0,63}` -/
def isErrorCode : String → Bool :=
  lowerCode (fun c => c.isLower || c.isDigit || c == '_') 63

/-- `[a-z][a-z0-9_.]{0,127}` -/
def isMessageKey : String → Bool :=
  lowerCode (fun c => c.isLower || c.isDigit || c == '_' || c == '.') 127

def validateFailure (errorCode messageKey : Option String) : Except String Unit := do
  require (errorCode.any isErrorCode) "error_code must be a safe lower-case contract code."
  require (messageKey.any isMessageKey)
    "message_key must be a safe lower-case localization key."

/-- The first part of `_validate_lifecycle`: what each state requires. -/
def validateMarkers (state : PrintJobState) (startedAt terminalAt : Option Time)
    (errorCode messageKey : Option String) (evidence : Option OutputEvidence) :
    Except String Unit :=
  match state with
  | .accepted => require (startedAt.isNone && terminalAt.isNone)
      "An accepted Print Job cannot have lifecycle markers."
  | .inProgress => require (startedAt.isSome && terminalAt.isNone)
      "An in-progress Print Job requires started_at only."
  | .outputConfirmed => do
    require (startedAt.isSome && terminalAt.isSome)
      "An output_confirmed Print Job requires started_at and terminal_at."
    require evidence.isSome "An output_confirmed Print Job requires confirmation_evidence."
  | .outcomeUnknown => do
    require (startedAt.isSome && terminalAt.isSome)
      "An outcome_unknown Print Job requires started_at and terminal_at."
    validateFailure errorCode messageKey
  | .failed => do
    require terminalAt.isSome "A failed Print Job requires terminal_at."
    validateFailure errorCode messageKey
  | .expired | .canceled => do
    require terminalAt.isSome ("A " ++ state.value ++ " Print Job requires terminal_at.")
    require startedAt.isNone ("A " ++ state.value ++ " Print Job cannot have started_at.")

def validateLifecycle (state : PrintJobState) (startedAt terminalAt : Option Time)
    (errorCode messageKey : Option String) (evidence : Option OutputEvidence) :
    Except String Unit := do
  validateMarkers state startedAt terminalAt errorCode messageKey evidence
  require (state == .failed || state == .outcomeUnknown ||
      (errorCode.isNone && messageKey.isNone))
    ("A " ++ state.value ++ " Print Job cannot contain an error.")
  require (state == .outputConfirmed || evidence.isNone)
    ("A " ++ state.value ++ " Print Job cannot contain Output Evidence.")

/-- A message of the printer process, as `execute` decodes it. -/
inductive WorkerMessage
  | result (outcome : Option DriverOutcome) (evidence : Option OutputEvidence)
      (platformJobId : Option String)
  | failed (code : Option String)
  | other

def unknownResult (errorCode messageKey : String) : DriverExecutionResult :=
  ⟨.unknown, none, none, some errorCode, some messageKey⟩

def protocolError : DriverExecutionResult :=
  unknownResult "worker_protocol_error" "print.outcome_unknown"

/-- `ProcessPreparedWorker.execute` after it received a message; `lower` is `str.lower`. -/
def WorkerMessage.toResult (lower : String → String) : WorkerMessage → DriverExecutionResult
  | .result outcome evidence platformJobId =>
    if platformJobId.all (fun p => lengthBetween p 1 256) then
      match outcome with
      | some .confirmed => ⟨.confirmed, evidence, platformJobId, none, none⟩
      | some .unknown => ⟨.unknown, evidence, platformJobId, some "output_not_confirmed",
          some "print.output_not_confirmed"⟩
      | some .failed | none => protocolError
    else protocolError
  | .failed code =>
    let code := match code with
      | some c => lower c
      | none => "device_failed"
    unknownResult (if isErrorCode code then code else "device_failed") "print.outcome_unknown"
  | .other => protocolError

/-- How the execution of a permitted job ended for `run_one`. -/
inductive WorkerReport
  | message (m : WorkerMessage)
  | timeout
  | cancelled
  | exited

def WorkerReport.toResult (lower : String → String) : WorkerReport → DriverExecutionResult
  | .message m => m.toResult lower
  | .timeout => unknownResult "device_timeout" "print.device_timeout"
  | .cancelled => unknownResult "worker_cancelled" "print.outcome_unknown"
  | .exited => unknownResult "worker_exited" "print.outcome_unknown"

/-- Why an execution failed before Device I/O. -/
inductive PreIoFailure
  | service
  | documentPolicy
  | expired
  | permissionDenied
  | authority (code : ProblemCode)

def PreIoFailure.errorCode : PreIoFailure → String
  | .service => "service_unavailable"
  | .documentPolicy => "document_policy_rejected"
  | .expired => "expired"
  | .permissionDenied => "permission_denied"
  | .authority code => code.value

def PreIoFailure.messageKey (f : PreIoFailure) : String := "print." ++ f.errorCode

end Inari.Agent
