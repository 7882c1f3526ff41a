import Inari.Contracts.Identifiers

/-!
# The gateway protocol

The messages of `inari-gateway/src/protocol`: device commands, Managed Work, its dispatch, and
publications.
-/

namespace Inari.Controller

/-- `DateTime<Utc>`, in microseconds since the epoch. -/
abbrev Instant := Int

/-- `DateTime::timestamp`: whole seconds, rounded down. -/
def timestamp (t : Instant) : Int := t / 1000000

/-! ## `managed_work.rs` -/

def managedWorkContractMajor : Nat := 1
def managedDispatchVersion : Nat := 1

structure ManagedWorkScope where
  database : String
  companyId : String
  organizationId : OrganizationId
  siteId : SiteId
  agentId : AgentId
deriving DecidableEq

inductive ManagedDocumentOperation
  | reportPdf | labelDocument
deriving DecidableEq

def ManagedDocumentOperation.text : ManagedDocumentOperation → String
  | .reportPdf => "report_pdf"
  | .labelDocument => "label_document"

def ManagedDocumentOperation.mediaType : ManagedDocumentOperation → String
  | .reportPdf => "application/pdf"
  | .labelDocument => "application/vnd.zebra-zpl"

structure ReportBindingClaim where
  reportBindingId : String
  bindingRevisionId : String
  reportActionId : String
  reportContractDigest : String
  templateDigest : String
  commandProfileId : Option String
  layoutProfileId : Option String
  hardwareMatrixDigest : Option String
deriving DecidableEq

structure ManagedWorkPreflightRequest where
  contractMajor : Nat
  scope : ManagedWorkScope
  deviceId : DeviceId
  operation : ManagedDocumentOperation
  binding : ReportBindingClaim
deriving DecidableEq

inductive ReportSource
  | records (model : String) (orderedIds : List Int)
  | wizard (model inputDigest : String)

inductive ReportRoute
  | manual | automatic
deriving DecidableEq

def ReportRoute.text : ReportRoute → String
  | .manual => "manual"
  | .automatic => "automatic"

structure ReportPrintOrigin where
  binding : ReportBindingClaim
  route : ReportRoute
  source : ReportSource
  renderedDocumentIndex : Nat
  copyOrdinal : Nat

structure ManagedDocument where
  operation : ManagedDocumentOperation
  contentBase64 : String

/-- `StructuredFields`: a JSON object. -/
abbrev StructuredFields := List (String × Json)

structure ManagedDeviceWork where
  contractMajor : Nat
  scope : ManagedWorkScope
  printIntentId : PrintIntentId
  deviceId : DeviceId
  origin : ReportPrintOrigin
  document : ManagedDocument
  normalizedDeviceOptions : StructuredFields

structure ManagedWorkSubmission where
  contractMajor : Nat
  preflightId : ManagedPreflightId
  payloadFingerprint : String
  work : ManagedDeviceWork

structure DispatchEncryptionKey where
  keyId : String
  publicKeyBase64url : String

structure SealedManagedDispatch where
  protocolVersion : Nat
  keyId : String
  encapsulatedKeyBase64url : String
  ciphertextBase64url : String
deriving DecidableEq

structure ManagedDispatchAuthenticatedData where
  organizationId : OrganizationId
  siteId : SiteId
  agentId : AgentId
  managedWorkId : ManagedWorkId
  idempotencyKey : String
  payloadFingerprint : String
  dispatchEpoch : Nat
  sequence : Nat
  issuedAt : Int
  expiresAt : Int
  workExpiresAt : Instant
deriving DecidableEq

structure DispatchDeviceWork where
  managedWorkId : ManagedWorkId
  authenticatedData : ManagedDispatchAuthenticatedData
  sealedEnvelope : SealedManagedDispatch
deriving DecidableEq

structure ManagedDispatchClaims where
  issuer : String
  audience : AgentId
  authenticatedData : ManagedDispatchAuthenticatedData
  work : ManagedDeviceWork

inductive ManagedWorkState
  | pendingAgent | dispatching | accepted | rejected | canceled | expired | recoveryUncertain
deriving DecidableEq

/-! ## `jobs.rs` -/

structure CommandTarget where
  deviceId : String
deriving DecidableEq

inductive DeviceCommand
  | openCashDrawer
  | printTestPage
  | feedLines (count : UInt8)
  | feedDots (count : UInt8)
  | cutPaper (mode : String)
deriving DecidableEq

structure ExecuteDeviceCommand where
  target : CommandTarget
  command : DeviceCommand
  metadata : StructuredFields
deriving DecidableEq

inductive JobKind
  | executeDeviceCommand (payload : ExecuteDeviceCommand)
  | cancelJob (jobId : String)

structure JobRequest where
  command : JobKind

inductive CommandBody
  | executeDeviceCommand (payload : ExecuteDeviceCommand)
  | cancelJob (jobId : String)
  | dispatchDeviceWork (payload : DispatchDeviceWork)
deriving DecidableEq

/-- The variants of `ControllerCommand` share their first four fields. -/
structure ControllerCommand where
  messageId : String
  commandId : String
  sequence : Nat
  issuedAt : Instant
  body : CommandBody
deriving DecidableEq

def JobKind.requiredAction : JobKind → String
  | .executeDeviceCommand _ => "commands:execute"
  | .cancelJob _ => "jobs:cancel"

def JobKind.body : JobKind → CommandBody
  | .executeDeviceCommand payload => .executeDeviceCommand payload
  | .cancelJob jobId => .cancelJob jobId

def JobKind.intoMessage (kind : JobKind) (messageId commandId : String) (sequence : Nat)
    (issuedAt : Instant) : ControllerCommand :=
  ⟨messageId, commandId, sequence, issuedAt, kind.body⟩

def CommandBody.messageType : CommandBody → String
  | .executeDeviceCommand _ => "controller.command.execute_device_command"
  | .cancelJob _ => "controller.command.cancel_job"
  | .dispatchDeviceWork _ => "controller.command.dispatch_device_work"

/-- `JobState`, which is also the stored state of a command. -/
inductive CommandState
  | queued | published | accepted | rejected | completed | failed | superseded
deriving DecidableEq

structure CommandHistory where
  selectedProtocolVersion : String
  commands : List ControllerCommand
deriving DecidableEq

/-! ## `state_envelopes.rs` and `publications.rs` -/

inductive PrintJobState
  | accepted | inProgress | outputConfirmed | failed | outcomeUnknown | expired | canceled
deriving DecidableEq

def PrintJobState.text : PrintJobState → String
  | .accepted => "accepted"
  | .inProgress => "in_progress"
  | .outputConfirmed => "output_confirmed"
  | .failed => "failed"
  | .outcomeUnknown => "outcome_unknown"
  | .expired => "expired"
  | .canceled => "canceled"

def PrintJobState.isTerminal : PrintJobState → Bool
  | .accepted | .inProgress => false
  | _ => true

inductive PrintJobOutputEvidence
  | device | spooler | transport
deriving DecidableEq

structure ManagedPrintJobOrigin where
  organizationId : OrganizationId
  siteId : SiteId
  database : String
  companyId : String
  reportBindingId : String
  reportRoute : ReportRoute
  reportAction : String
  sourceModel : String
  recordIds : List String
  wizardInputDigest : Option String
  renderedDocumentIndex : Nat
deriving DecidableEq

structure ManagedPrintJobSnapshot where
  printJobId : String
  printIntentId : PrintIntentId
  deviceId : DeviceId
  origin : ManagedPrintJobOrigin
  managedWorkId : ManagedWorkId
  state : PrintJobState
  stateVersion : Nat
  acceptedAt : Instant
  startedAt : Option Instant
  terminalAt : Option Instant
  expiresAt : Instant
  errorCode : Option String
  messageKey : Option String
  confirmationEvidence : Option PrintJobOutputEvidence
  contractVersion : String
deriving DecidableEq

structure AgentStateObservation where
  contractMajor : Nat
  envelopeId : String
  agentId : AgentId
  agentBootId : String
  reconciliationSessionId : String
  dispatchEpoch : Nat
  envelopeSequence : Nat
  durableStateSequence : Nat
  observedAt : Instant
  issuedAt : Instant
  payloadFingerprint : String
  job : ManagedPrintJobSnapshot
deriving DecidableEq

structure SignedAgentStateObservation where
  observation : AgentStateObservation
  stateEnvelope : String
deriving DecidableEq

structure RuntimeEvent where
  sequence : Nat
  resourceKind : String
  resourceId : String
  eventType : String
  occurredAt : Instant
  payload : StructuredFields
deriving DecidableEq

inductive AgentPublication
  | commandAccepted (messageId commandId : String) (acceptedAt : Instant)
      (job : Option StructuredFields) (detail : String)
  | commandRejected (messageId commandId : String) (rejectedAt : Instant) (code detail : String)
  | runtimeEvent (messageId : String) (occurredAt : Instant) (event : RuntimeEvent)
      (commandId jobId : Option String)
  | statusSnapshot (messageId : String) (snapshot : StructuredFields)
  | error (messageId : String) (occurredAt : Instant) (code detail : String)
      (commandId : Option String) (retriable : Bool)
deriving DecidableEq

def AgentPublication.messageId : AgentPublication → String
  | .commandAccepted messageId .. => messageId
  | .commandRejected messageId .. => messageId
  | .runtimeEvent messageId .. => messageId
  | .statusSnapshot messageId _ => messageId
  | .error messageId .. => messageId

end Inari.Controller
