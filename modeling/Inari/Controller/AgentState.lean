import Inari.Agent.PrintJobModel
import Inari.Controller.Publications

/-!
# Print Jobs of an Agent as the Controller holds them

The claims of an Agent State observation, which the Controller reads into
`ManagedPrintJobSnapshot`.
-/

namespace Inari.Controller

open Lib

def PrintJobState.ofAgent : Agent.PrintJobState → PrintJobState
  | .accepted => .accepted
  | .inProgress => .inProgress
  | .outputConfirmed => .outputConfirmed
  | .failed => .failed
  | .outcomeUnknown => .outcomeUnknown
  | .expired => .expired
  | .canceled => .canceled

def PrintJobOutputEvidence.ofAgent : Agent.OutputEvidence → PrintJobOutputEvidence
  | .device => .device
  | .spooler => .spooler
  | .transport => .transport

def ReportRoute.values : List (String × ReportRoute) :=
  [(ReportRoute.manual.text, .manual), (ReportRoute.automatic.text, .automatic)]

/-- The `u32` that an integer is, if it is one. -/
def u32? (n : Int) : Option Nat := if 0 ≤ n ∧ n < 4294967296 then some n.toNat else none

def ManagedPrintJobOrigin.ofAgent? : Agent.PrintOrigin → Option ManagedPrintJobOrigin
  | .report o _ => do
    let organizationId ← Identifier.parse _ _ _ o.organizationId
    let siteId ← Identifier.parse _ _ _ o.siteId
    let reportRoute ← ReportRoute.values.lookup o.reportRoute
    let renderedDocumentIndex ← u32? o.renderedDocumentIndex
    some ⟨organizationId, siteId, o.database, o.companyId, o.reportBindingId, reportRoute,
      o.reportAction, o.sourceModel, o.recordIds, o.wizardInputDigest, renderedDocumentIndex⟩
  | .pos .. => none
  | .preparation .. => none

def ManagedPrintJobSnapshot.ofAgent? (job : Agent.PrintJob) : Option ManagedPrintJobSnapshot := do
  let printIntentId ← Identifier.parse _ _ _ job.intentId
  let deviceId ← Identifier.parse _ _ _ job.deviceId
  let origin ← ManagedPrintJobOrigin.ofAgent? job.origin
  let managedWorkId ← job.managedWorkId.bind (Identifier.parse _ _ _)
  some ⟨job.jobId, printIntentId, deviceId, origin, managedWorkId, .ofAgent job.state,
    job.stateVersion, job.acceptedAt, job.startedAt, job.terminalAt, job.expiresAt, job.errorCode,
    job.messageKey, job.confirmationEvidence.map .ofAgent, job.contractVersion⟩

/-- The observations of one job, each given to `reconcile_version` with the current one. -/
def projectAll (current : AgentStateObservation) :
    List AgentStateObservation → Except Error AgentStateObservation
  | [] => pure current
  | incoming :: rest => do
    let replaceCurrent ← reconcileVersion current incoming
    projectAll (if replaceCurrent then incoming else current) rest

end Inari.Controller
