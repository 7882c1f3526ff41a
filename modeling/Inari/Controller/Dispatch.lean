import Inari.Lib.Except
import Inari.Lib.Table
import Inari.Contracts.Deadlines
import Inari.Controller.Json

/-!
# Managed Work submissions and their dispatch

The checks of `inari-server/src/managed_gateway/managed_work.rs` on a submission, and
`ManagedDispatchSigner` of `dispatch.rs`.
-/

namespace Inari.Controller

open Lib

/-- `AppError` and `GatewayError` -/
inductive Error
  | badRequest (detail : String)
  | forbidden (detail : String)
  | notFound (detail : String)
  | conflict (detail : String)
  | invalidInput (detail : String)
  | corruptState (detail : String)
  | capacity (detail : String)
  | unavailable (detail : String)
  | internal (code detail : String)
  | database
deriving DecidableEq

instance : SqlError Error := ⟨.database, .database⟩

def validateText (name value : String) (maxLen : Nat) : Except Error Unit :=
  require (!value.isEmpty && value.utf8ByteSize ≤ maxLen && !value.toList.any isControl)
    (.badRequest s!"Managed Work {name} must contain 1 to {maxLen} non-control characters.")

def validateOptionalText (name : String) (value : Option String) (maxLen : Nat) :
    Except Error Unit :=
  match value with
  | some value => validateText name value maxLen
  | none => pure ()

def validateBinding (binding : ReportBindingClaim) : Except Error Unit := do
  validateText "report_binding_id" binding.reportBindingId 128
  validateText "binding_revision_id" binding.bindingRevisionId 128
  validateText "report_action_id" binding.reportActionId 256
  validateText "report_contract_digest" binding.reportContractDigest 128
  validateText "template_digest" binding.templateDigest 128
  validateOptionalText "command_profile_id" binding.commandProfileId 128
  validateOptionalText "layout_profile_id" binding.layoutProfileId 128
  validateOptionalText "hardware_matrix_digest" binding.hardwareMatrixDigest 128

def validateSubmission (submission : ManagedWorkSubmission) : Except Error Unit := do
  require (submission.contractMajor == managedWorkContractMajor)
    (.badRequest "Managed Work contract major is not supported.")
  require (submission.work.contractMajor == submission.contractMajor)
    (.badRequest "Managed Work contract versions do not match.")
  validateText "database" submission.work.scope.database 128
  validateText "company_id" submission.work.scope.companyId 64
  validateBinding submission.work.origin.binding

def decodeFingerprint (value : String) : Except Error Bytes := do
  let decoded ← orRaise (Hex.decode value)
    (.badRequest "Managed Work payload fingerprint is not valid hex.")
  require (decoded.length == 32)
    (.badRequest "Managed Work payload fingerprint must contain 32 bytes.")
  pure decoded

def documentLimit : ManagedDocumentOperation → Nat
  | .reportPdf => 10 * 1024 * 1024
  | .labelDocument => 2 * 1024 * 1024

def decodedDocument (submission : ManagedWorkSubmission) : Except Error Bytes := do
  let operation := submission.work.document.operation
  let limit := documentLimit operation
  let mediaType := operation.mediaType
  let decoded ← orRaise (Base64.standard.decode submission.work.document.contentBase64)
    (.badRequest "Managed Work document is not valid base64.")
  require (!decoded.isEmpty && decoded.length ≤ limit)
    (.badRequest s!"Managed Work {mediaType} payload exceeds its {limit}-byte limit.")
  pure decoded

/-- The `fields` of `managed_work_fingerprint` -/
def workFields (canonical : Json → Bytes) (work : ManagedDeviceWork) (document deadline : Bytes) :
    List Bytes :=
  [bigEndian 4 work.contractMajor, encode work.document.operation.text, encode work.deviceId.text,
    encode work.document.operation.mediaType, document,
    canonical (.obj work.normalizedDeviceOptions), deadline]

/-- What `managed_work_fingerprint` hashes, around the bytes of its deadline. -/
def fingerprintBytes (canonical : Json → Bytes) (work : ManagedDeviceWork) (deadline : Bytes) :
    Except Error Bytes := do
  let document ← orRaise (Base64.standard.decode work.document.contentBase64)
    (.invalidInput "Managed Work document is not valid base64")
  pure (fingerprintFormat ++ (workFields canonical work document deadline).flatMap lengthPrefix)

variable (tools : WireTools)

def managedWorkFingerprint (work : ManagedDeviceWork) (expiresAt : Instant) : Except Error Bytes :=
  (fingerprintBytes tools.canonical work (tools.formatDeadline expiresAt)).map tools.sha256

/-- The hashed bytes for a deadline as chrono has it -/
def managedWorkRepresentation (canonical : Json → Bytes) (work : ManagedDeviceWork)
    (expiresAt : ChronoUtc) : Except Error Bytes :=
  fingerprintBytes canonical work expiresAt.deadline

/-- The digest by which a repeated submission is recognised. -/
def requestFingerprint (submission : ManagedWorkSubmission) : Bytes :=
  tools.sha256 (tools.canonical
    (.arr [submission.work.toJson, .str submission.payloadFingerprint]))

/-! ## `ManagedDispatchSigner` -/

structure ManagedDispatchSigner where
  issuer : String
  keyId : String
  epoch : Nat
  envelopeTtl : Nat
  signingKey : Bytes

structure ManagedDispatchAllocation where
  managedWorkId : ManagedWorkId
  sequence : Nat
  commandId : String
  messageId : String
  issuedAt : Instant
  recipientKey : DispatchEncryptionKey
  workExpiresAt : Instant

def dispatchJwsType : String := "application/inari-dispatch+jws"

def dispatchHeader (keyId : String) : Json :=
  .obj [("alg", .str "EdDSA"), ("kid", .str keyId), ("typ", .str dispatchJwsType)]

def compactJws (segments : List String) : String :=
  String.ofList (['.'].intercalate (segments.map String.toList))

variable (crypto : CryptoTools) (signer : ManagedDispatchSigner)
  (allocation : ManagedDispatchAllocation)

def ManagedDispatchSigner.sign (claims : ManagedDispatchClaims) : String :=
  let header := Base64.urlSafe.encode (tools.canonical (dispatchHeader signer.keyId))
  let payload := Base64.urlSafe.encode (tools.canonical (claims.toJson tools))
  let signature := crypto.sign signer.signingKey (encode (compactJws [header, payload]))
  compactJws [header, payload, Base64.urlSafe.encode signature]

/-- `dispatch_info`: the fields are separated by NUL characters. -/
def dispatchInfo (agentId keyId : String) : Bytes :=
  encode "inari-managed-dispatch" ++ [0] ++ encode "v1" ++ [0] ++ encode agentId ++ [0] ++
    encode keyId

def sealDispatch (signedEnvelope : String) (authenticatedData : ManagedDispatchAuthenticatedData)
    (recipientKey : DispatchEncryptionKey) (random : Bytes) :
    Except Error SealedManagedDispatch := do
  let publicKey ← orRaise (Base64.urlSafe.decode recipientKey.publicKeyBase64url)
    (.badRequest "The Agent dispatch public key is not valid base64url.")
  require (publicKey.length == 32) (.badRequest "The Agent dispatch public key is invalid.")
  let info := dispatchInfo authenticatedData.agentId.text recipientKey.keyId
  let aad := tools.canonical (authenticatedData.toJson tools)
  let sealed := crypto.hpkeSeal publicKey info aad (encode signedEnvelope) random
  pure ⟨managedDispatchVersion, recipientKey.keyId, Base64.urlSafe.encode sealed.1,
    Base64.urlSafe.encode sealed.2⟩

/-- `std::cmp::min(dispatch_expires_at, work_expires_at)` -/
def ManagedDispatchSigner.dispatchExpiry : Instant :=
  min (allocation.issuedAt + signer.envelopeTtl) allocation.workExpiresAt

def ManagedDispatchSigner.authenticatedData (idempotencyKey : String)
    (submission : ManagedWorkSubmission) : ManagedDispatchAuthenticatedData where
  organizationId := submission.work.scope.organizationId
  siteId := submission.work.scope.siteId
  agentId := submission.work.scope.agentId
  managedWorkId := allocation.managedWorkId
  idempotencyKey := idempotencyKey
  payloadFingerprint := submission.payloadFingerprint
  dispatchEpoch := signer.epoch
  sequence := allocation.sequence
  issuedAt := timestamp allocation.issuedAt
  expiresAt := timestamp (signer.dispatchExpiry allocation)
  workExpiresAt := allocation.workExpiresAt

def ManagedDispatchSigner.command (idempotencyKey : String) (submission : ManagedWorkSubmission)
    (random : Bytes) :
    Except Error ControllerCommand := do
  -- `TimeDelta::from_std` holds at most `i64::MAX` milliseconds
  require (signer.envelopeTtl ≤ 9223372036854775807 * 1000)
    (.internal "managed_dispatch_deadline" "The managed dispatch deadline is invalid.")
  let authenticatedData := signer.authenticatedData allocation idempotencyKey submission
  let claims : ManagedDispatchClaims :=
    ⟨signer.issuer, submission.work.scope.agentId, authenticatedData, submission.work⟩
  let signedEnvelope := signer.sign tools crypto claims
  let sealedEnvelope ←
    sealDispatch tools crypto signedEnvelope authenticatedData allocation.recipientKey random
  pure ⟨allocation.messageId, allocation.commandId, allocation.sequence, allocation.issuedAt,
    .dispatchDeviceWork ⟨allocation.managedWorkId, authenticatedData, sealedEnvelope⟩⟩

end Inari.Controller
