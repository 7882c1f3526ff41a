import Inari.Agent.Enrollment
import Inari.Agent.GatewayProtocol

/-!
# The verifier of managed dispatch

`ManagedDispatchVerifier` of `inari/gateway/managed_dispatch.py`.
-/

namespace Inari.Agent

open Lib Read

inductive DispatchError
  | scopeDenied
  | bindingInvalid
  | sequenceInvalid
  | issuedAtInvalid
  | scopeMismatch
  | epochInvalid
  | expired
  | notYetValid
  | deadlineInvalid
  | keyInvalid
  | decryptionFailed
  | jwsInvalid
  | jwsHeaderInvalid
  | signatureInvalid
  | identityInvalid
  | workMismatch
  | documentInvalid
  | documentTooLarge
  | fingerprintMismatch
  | base64urlInvalid

structure DispatchEncryptionKeyPair where
  keyId : String
  privateKey : Bytes

structure VerifiedManagedDispatch where
  managedWorkId : String
  idempotencyKey : String
  work : ManagedDeviceWorkPayload
  documentBytes : Bytes
  dispatchEpoch : Nat
  sequence : Nat
  expiresAt : Int
deriving DecidableEq

/-- `int(t.timestamp())`, which rounds towards zero -/
def wholeSeconds (t : Int) : Int := t.tdiv 1000000

/-- `_decode_base64url`: at least one character of the alphabet, in canonical form -/
def decodeBase64url (value : String) : Except DispatchError Bytes := do
  require (!value.isEmpty) .base64urlInvalid
  orRaise (Base64.urlSafe.decode value) .base64urlInvalid

variable (tools : WireTools)

def parseCanonicalModel {α : Type} (payload : Bytes) (modelValidate : Json → Validated α) :
    Except DispatchError α := do
  let value ← orRaise (tools.loads payload) .jwsInvalid
  require (tools.canonical value == payload) .jwsInvalid
  orRaise (modelValidate value).toOption .jwsInvalid

structure DispatchJwsHeader where
  alg : String
  kid : String
  typ : String

def DispatchJwsHeader.modelValidate (j : Json) : Validated DispatchJwsHeader := do
  let fields ← object j
  let alg ← field fields "alg" text
  let kid ← field fields "kid" text
  let typ ← field fields "typ" text
  forbidExtra ["alg", "kid", "typ"] fields
  pure ⟨alg, kid, typ⟩

/-- `_dispatch_info`: the fields are separated by NUL characters. -/
def dispatchInfo (agentId keyId : String) : Bytes :=
  encode "inari-managed-dispatch" ++ [0] ++ encode "v1" ++ [0] ++ encode agentId ++ [0] ++
    encode keyId

def decrypt (crypto : CryptoTools) (keyPair : DispatchEncryptionKeyPair)
    (payload : DispatchDeviceWorkPayload) : Except DispatchError Bytes := do
  let envelope := payload.sealedEnvelope
  require (envelope.keyId == keyPair.keyId) .keyInvalid
  let encapsulated ← decodeBase64url envelope.encapsulatedKeyBase64url
  let ciphertext ← decodeBase64url envelope.ciphertextBase64url
  orRaise (crypto.hpkeOpen keyPair.privateKey
      (dispatchInfo payload.authenticatedData.agentId envelope.keyId) encapsulated
      (tools.canonical (payload.authenticatedData.modelDump tools)) ciphertext)
    .decryptionFailed

def verifyJws (crypto : CryptoTools) (signedEnvelope : Bytes) (trust : ManagedDispatchEnrollment) :
    Except DispatchError ManagedDispatchClaimsPayload := do
  let compact ← orRaise (decodeUtf8 signedEnvelope) .jwsInvalid
  let segments := (compact.toList.splitOn '.').map String.ofList
  require (segments.length == 3 && segments.all (fun s => !s.isEmpty)) .jwsInvalid
  let protectedText := segments.getD 0 ""
  let payloadText := segments.getD 1 ""
  let protectedBytes ← decodeBase64url protectedText
  let payloadBytes ← decodeBase64url payloadText
  let signature ← decodeBase64url (segments.getD 2 "")
  let header ← parseCanonicalModel tools protectedBytes DispatchJwsHeader.modelValidate
  require (header.alg == "EdDSA" && header.typ == "application/inari-dispatch+jws" &&
      header.kid == trust.verificationJwk.kid)
    .jwsHeaderInvalid
  let publicKey ← decodeBase64url trust.verificationJwk.x
  require (publicKey.length == 32 && signature.length == 64) .signatureInvalid
  require (crypto.verify publicKey (encode (protectedText ++ "." ++ payloadText)) signature)
    .signatureInvalid
  parseCanonicalModel tools payloadBytes (ManagedDispatchClaimsPayload.modelValidate tools)

namespace ManagedDocumentPayload

def operation : ManagedDocumentPayload → String
  | .reportPdf _ => "report_pdf"
  | .labelDocument _ => "label_document"

def contentBase64 : ManagedDocumentPayload → String
  | .reportPdf content => content
  | .labelDocument content => content

def mediaType : ManagedDocumentPayload → String
  | .reportPdf _ => "application/pdf"
  | .labelDocument _ => "application/vnd.zebra-zpl"

/-- `_MAX_PDF_BYTES` and `_MAX_LABEL_BYTES` -/
def limit : ManagedDocumentPayload → Nat
  | .reportPdf _ => 10 * 1024 * 1024
  | .labelDocument _ => 2 * 1024 * 1024

end ManagedDocumentPayload

def decodeDocument (document : ManagedDocumentPayload) : Except DispatchError Bytes := do
  let decoded ← orRaise (Base64.standard.decode document.contentBase64) .documentInvalid
  require (decoded.length ≤ document.limit) .documentTooLarge
  pure decoded

/-- The Device Work of a verified dispatch, as it is fingerprinted. -/
def ManagedDeviceWorkPayload.fingerprintInput (work : ManagedDeviceWorkPayload) (document : Bytes)
    (expiresAt : Int) :
    DeviceWorkFingerprintInput :=
  ⟨ManagedDeviceWorkPayload.contractMajor, work.document.operation, work.deviceId,
    work.document.mediaType, document, tools.canonical (.obj work.normalizedDeviceOptions),
    expiresAt⟩

/-- The checks of `verify` on the authenticated data, before the envelope is opened. -/
def checkAuthenticatedData (message : ControllerCommandMessage) (issuedAt : Int)
    (payload : DispatchDeviceWorkPayload) (trust : ManagedDispatchEnrollment) (now : Int) :
    Except DispatchError Unit := do
  let aad := payload.authenticatedData
  require (payload.managedWorkId == aad.managedWorkId) .bindingInvalid
  require (message.sequence == aad.sequence) .sequenceInvalid
  require (wholeSeconds issuedAt == aad.issuedAt) .issuedAtInvalid
  require (aad.organizationId == trust.scope.organizationId && aad.siteId == trust.scope.siteId &&
      aad.agentId == trust.scope.agentId)
    .scopeMismatch
  require (aad.dispatchEpoch == trust.epoch) .epochInvalid
  require (decide (wholeSeconds now < aad.expiresAt)) .expired
  require (decide (aad.issuedAt ≤ wholeSeconds now + 30)) .notYetValid
  require (decide (aad.issuedAt < aad.expiresAt)) .deadlineInvalid

/-- The checks of `verify` on the signed claims. -/
def checkClaims (claims : ManagedDispatchClaimsPayload)
    (aad : ManagedDispatchAuthenticatedDataPayload) (trust : ManagedDispatchEnrollment) :
    Except DispatchError Bytes := do
  require (claims.authenticatedData == aad) .bindingInvalid
  require (claims.iss == trust.issuer && claims.aud == trust.scope.agentId) .identityInvalid
  let work := claims.work
  require (work.scope.organizationId == aad.organizationId && work.scope.siteId == aad.siteId &&
      work.scope.agentId == aad.agentId)
    .workMismatch
  let documentBytes ← decodeDocument work.document
  require (decide (aad.expiresAt * 1000000 ≤ aad.workExpiresAt)) .deadlineInvalid
  let fingerprint := fingerprintDeviceWork tools.toDigestTools
    (work.fingerprintInput tools documentBytes aad.workExpiresAt)
  require (Hex.encode fingerprint == aad.payloadFingerprint) .fingerprintMismatch
  pure documentBytes

/-- `ManagedDispatchVerifier.verify` of a dispatch message with the given issue time -/
def verify (crypto : CryptoTools) (keyPair : DispatchEncryptionKeyPair)
    (message : ControllerCommandMessage) (issuedAt : Int) (payload : DispatchDeviceWorkPayload)
    (enrollment : GatewayEnrollmentRecord) (now : Int) :
    Except DispatchError VerifiedManagedDispatch := do
  require (enrollment.controllerActions.contains .managedWorkDispatch) .scopeDenied
  let trust ← orRaise enrollment.managedDispatch .scopeDenied
  let aad := payload.authenticatedData
  checkAuthenticatedData message issuedAt payload trust now
  let signedEnvelope ← decrypt tools crypto keyPair payload
  let claims ← verifyJws tools crypto signedEnvelope trust
  let documentBytes ← checkClaims tools claims aad trust
  pure ⟨aad.managedWorkId, aad.idempotencyKey, claims.work, documentBytes, aad.dispatchEpoch,
    aad.sequence, aad.workExpiresAt⟩

end Inari.Agent
