import Inari.Agent.PrintJobs

/-!
# The Print Job value

`PrintJob`, its origins and `transition` of `inari/print_jobs/models.py`, with the checks of
`__post_init__`.
-/

namespace Inari.Agent

open Lib

/-- `_IDENTIFIER_PATTERN` -/
def isSafeIdentifier (s : String) : Bool :=
  match s.toList with
  | [] => false
  | c :: cs => c.isAlphanum && decide (cs.length ≤ 255) &&
      cs.all (fun c => c.isAlphanum || ['.', '_', ':', '/', '-'].contains c)

def validateIdentifier (name value : String) : Except String Unit :=
  require (isSafeIdentifier value)
    (name ++ " must be a safe identifier of at most 256 characters.")

/-- `for name in (...): _validate_identifier(name, getattr(self, name))` -/
def validateIdentifiers : List (String × String) → Except String Unit
  | [] => pure ()
  | (name, value) :: rest => do
    validateIdentifier name value
    validateIdentifiers rest

structure PosPrintOriginFields where
  organizationId : String
  siteId : String
  database : String
  pairedClientId : String
  posConfigurationId : String
  posSessionId : String
  offlineOrderId : String
  serverOrderId : Option String
  documentKind : String
  contentRevision : String
deriving DecidableEq

def validatePosOrigin (o : PosPrintOriginFields) : Except String Unit := do
  validateIdentifiers [("organization_id", o.organizationId), ("site_id", o.siteId),
    ("database", o.database), ("paired_client_id", o.pairedClientId),
    ("pos_configuration_id", o.posConfigurationId), ("pos_session_id", o.posSessionId),
    ("offline_order_id", o.offlineOrderId), ("document_kind", o.documentKind),
    ("content_revision", o.contentRevision)]
  validateIdentifiers (o.serverOrderId.toList.map (fun id => ("server_order_id", id)))

structure PreparationPrintSegment where
  segmentKind : String
  segmentIndex : Int
  preparationRevision : String
deriving DecidableEq

def validatePreparationSegment (s : PreparationPrintSegment) : Except String Unit := do
  validateIdentifier "segment_kind" s.segmentKind
  require (decide (0 ≤ s.segmentIndex)) "Preparation segment_index must be nonnegative."
  validateIdentifier "preparation_revision" s.preparationRevision

structure ReportPrintOriginFields where
  organizationId : String
  siteId : String
  database : String
  companyId : String
  reportBindingId : String
  reportRoute : String
  reportAction : String
  sourceModel : String
  recordIds : List String
  wizardInputDigest : Option String
  renderedDocumentIndex : Int
deriving DecidableEq

/-- `sha256:[0-9a-f]{64}` -/
def isSha256Digest (s : String) : Bool :=
  "sha256:".toList.isPrefixOf s.toList && (s.toList.drop 7).length == 64 &&
    (s.toList.drop 7).all (fun c => c.isDigit || ('a' ≤ c && c ≤ 'f'))

def validateReportOrigin (o : ReportPrintOriginFields) : Except String Unit := do
  validateIdentifiers [("organization_id", o.organizationId), ("site_id", o.siteId),
    ("database", o.database), ("company_id", o.companyId),
    ("report_binding_id", o.reportBindingId), ("report_route", o.reportRoute),
    ("report_action", o.reportAction), ("source_model", o.sourceModel)]
  require (decide (0 ≤ o.renderedDocumentIndex))
    "Report rendered_document_index must be nonnegative."
  require (o.recordIds.isEmpty == o.wizardInputDigest.isSome)
    "A Report Print Origin requires exactly one of record_ids or wizard_input_digest."
  require (o.recordIds.length ≤ 100)
    "A Report Print Origin cannot contain more than 100 records."
  validateIdentifiers (o.recordIds.map (fun id => ("record_id", id)))
  require (o.wizardInputDigest.all isSha256Digest)
    "wizard_input_digest must be a lower-case SHA-256 digest."

inductive PrintOrigin
  | pos (fields : PosPrintOriginFields) (valid : validatePosOrigin fields = .ok ())
  | preparation (fields : PosPrintOriginFields) (segment : PreparationPrintSegment)
      (valid : validatePosOrigin fields = .ok ()) (validSegment : validatePreparationSegment segment = .ok ())
  | report (fields : ReportPrintOriginFields) (valid : validateReportOrigin fields = .ok ())
deriving DecidableEq

/-! ## `PrintJob` -/

structure PrintJobFields where
  jobId : String
  intentId : String
  deviceId : String
  origin : PrintOrigin
  state : PrintJobState
  stateVersion : Nat
  acceptedAt : Time
  expiresAt : Time
  retryable : Bool
  contractVersion : String
  managedWorkId : Option String
  startedAt : Option Time
  terminalAt : Option Time
  errorCode : Option String
  messageKey : Option String
  confirmationEvidence : Option OutputEvidence
deriving DecidableEq

/-- `PrintJob.__post_init__` -/
def PrintJobFields.check (j : PrintJobFields) : Except String Unit := do
  validateIdentifiers [("job_id", j.jobId), ("intent_id", j.intentId), ("device_id", j.deviceId),
    ("contract_version", j.contractVersion)]
  validateIdentifiers (j.managedWorkId.toList.map (fun id => ("managed_work_id", id)))
  require (1 ≤ j.stateVersion) "Print Job state_version must be positive."
  require (decide (j.acceptedAt < j.expiresAt)) "Print Job expires_at must be after accepted_at."
  require (j.startedAt.all (fun t => decide (j.acceptedAt ≤ t)))
    "Print Job started_at cannot precede accepted_at."
  require (j.terminalAt.all (fun t => decide (j.acceptedAt ≤ t)))
    "Print Job terminal_at cannot precede accepted_at."
  require (j.terminalAt.all (fun t => j.startedAt.all (fun s => decide (s ≤ t))))
    "Print Job terminal_at cannot precede started_at."
  validateLifecycle j.state j.startedAt j.terminalAt j.errorCode j.messageKey
    j.confirmationEvidence

structure PrintJob extends PrintJobFields where
  valid : toPrintJobFields.check = .ok ()
deriving DecidableEq

/-- `PrintJob(...)` -/
def PrintJobFields.create (j : PrintJobFields) : Except String PrintJob :=
  match h : j.check with
  | .ok () => .ok ⟨j, h⟩
  | .error e => .error e

lemma create_ok {j : PrintJobFields} {job : PrintJob} :
    j.create = .ok job ↔ job.toPrintJobFields = j := by
  unfold PrintJobFields.create
  split
  · rename_i h
    constructor
    · intro hjob
      rw [← Except.ok.inj hjob]
    · rintro rfl
      rfl
  · rename_i e h
    constructor
    · intro hjob
      cases hjob
    · rintro rfl
      rw [job.valid] at h
      cases h

/-! ## `transition` -/

/-- `FirstIoMarker`, of which a transition reads two fields -/
structure FirstIoMarker where
  markerId : String
  jobId : String
  committedAt : Time
  durableSequence : Nat

/-- The arguments of `transition`. -/
structure TransitionCall where
  target : PrintJobState
  at_ : Time
  firstIoMarker : Option FirstIoMarker
  confirmationEvidence : Option OutputEvidence
  errorCode : Option String
  messageKey : Option String
  retryable : Option Bool

def canTransition (current target : PrintJobState) : Bool := (transitions current).contains target

def activeReconciliationPeriod : Time := 24 * 60 * 60 * 1000000

def validateFirstIoMarker (job : PrintJob) (marker : Option FirstIoMarker) (at_ : Time) :
    Except String Unit := do
  let marker ← orRaise marker "The in_progress transition requires a durable FirstIoMarker."
  require (marker.jobId == job.jobId) "FirstIoMarker does not belong to this Print Job."
  require (marker.committedAt == at_)
    "FirstIoMarker commit time must equal the transition time."

/-- What `transition` checks about the marker. -/
def checkMarker (job : PrintJob) (call : TransitionCall) : Except String Unit :=
  if call.target = .inProgress then do
    validateFirstIoMarker job call.firstIoMarker call.at_
    require (decide (call.at_ ≤ job.expiresAt))
      "A Print Job cannot enter in_progress after expires_at."
  else
    require call.firstIoMarker.isNone
      "FirstIoMarker is valid only for the in_progress transition."

def PrintJob.moved (job : PrintJob) (call : TransitionCall) : PrintJobFields :=
  { job.toPrintJobFields with
    state := call.target
    stateVersion := job.stateVersion + 1
    retryable := call.retryable.getD job.retryable
    startedAt := if call.target = .inProgress then some call.at_ else job.startedAt
    terminalAt := if call.target.terminal then some call.at_ else none
    errorCode := call.errorCode
    messageKey := call.messageKey
    confirmationEvidence :=
      if call.target = .outputConfirmed then call.confirmationEvidence else none }

def transition (job : PrintJob) (call : TransitionCall) : Except String PrintJob := do
  require (canTransition job.state call.target)
    ("invalid Print Job transition: " ++ job.state.value ++ " -> " ++ call.target.value)
  let previousAt := (job.terminalAt.or job.startedAt).getD job.acceptedAt
  require (decide (previousAt ≤ call.at_)) "Print Job transition time cannot move backwards."
  checkMarker job call
  require (call.target != .expired || decide (job.expiresAt ≤ call.at_))
    "A Print Job cannot expire before expires_at."
  require (job.state != .outcomeUnknown ||
      job.terminalAt.all (fun t => decide (call.at_ ≤ t + activeReconciliationPeriod)))
    "An outcome_unknown Print Job can improve only during the 24-hour active reconciliation period."
  require (call.target != .outputConfirmed || call.confirmationEvidence.isSome)
    "output_confirmed requires confirmation_evidence."
  if call.target = .failed ∨ call.target = .outcomeUnknown then
    validateFailure call.errorCode call.messageKey
  (job.moved call).create

def transitionAll (job : PrintJob) : List TransitionCall → Except String (List PrintJob)
  | [] => pure []
  | call :: calls => do
    let next ← transition job call
    let rest ← transitionAll next calls
    pure (next :: rest)

end Inari.Agent
