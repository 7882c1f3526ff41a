import Inari.Agent.Schema
import Inari.Contracts.Fingerprint
import Inari.Lib.Except

/-!
# The associated data of the Device Spool

`inari/spool/crypto.py`: the bytes that AES-GCM authenticates beside a document and beside a data
key.
-/

namespace Inari.Agent

open Lib

namespace SpoolCrypto

inductive SpoolCryptoError
  | artifactMalformed

def maxIdentifierBytes : Nat := 256

def formatVersion : UInt8 := 1

def aadPrefix : Bytes := encode "inari-device-spool\x00"

def wrappedKeySuffix : Bytes := encode "\x00wrapped-data-key"

def artifactKindValue : ArtifactKind → String
  | .original => "original"
  | .derivedRaster => "derived_raster"

def validateIdentifier (identifier : String) : Except SpoolCryptoError Unit := do
  require (!identifier.isEmpty) .artifactMalformed
  require (decide ((encode identifier).length ≤ maxIdentifierBytes) && identifier != "." &&
    identifier != "..") .artifactMalformed
  require (!identifier.toList.any (fun c => c == '\x00' || c == '/' || c == '\\'))
    .artifactMalformed
  require (!identifier.toList.any (fun c => decide (c.toNat < 0x20) || c.toNat == 0x7F))
    .artifactMalformed

def validateRootKeyVersion (version : Int) : Except SpoolCryptoError Unit :=
  require (decide (1 ≤ version ∧ version ≤ 0xFFFFFFFF)) .artifactMalformed

/-- `_field` -/
def aadField (value : String) : Except SpoolCryptoError Bytes := do
  let encoded := encode value
  require (!encoded.isEmpty && decide (encoded.length ≤ maxIdentifierBytes)) .artifactMalformed
  pure (bigEndian 4 encoded.length ++ encoded)

def jobAad (jobId intentId : String) : Except SpoolCryptoError Bytes := do
  let job ← aadField jobId
  let intent ← aadField intentId
  pure (aadPrefix ++ [formatVersion] ++ job ++ intent)

def artifactAad (jobId intentId : String) (kind : ArtifactKind) :
    Except SpoolCryptoError Bytes := do
  validateIdentifier jobId
  validateIdentifier intentId
  let job ← jobAad jobId intentId
  let field ← aadField (artifactKindValue kind)
  pure (job ++ field)

def wrappedKeyAad (jobId intentId : String) (rootKeyVersion : Int) :
    Except SpoolCryptoError Bytes := do
  validateIdentifier jobId
  validateIdentifier intentId
  validateRootKeyVersion rootKeyVersion
  let job ← jobAad jobId intentId
  pure (job ++ wrappedKeySuffix ++ bigEndian 4 rootKeyVersion.toNat)

/-- What an encryption protects: a document, or a data key under a version of the root key. -/
inductive Protected
  | artifact (kind : ArtifactKind)
  | wrappedKey (rootKeyVersion : Int)
deriving DecidableEq

structure EncryptionContext where
  admissionId : String
  /-- The id of the artifact row or of the key row. -/
  rowId : String
  formatVersion : Nat
  jobId : String
  intentId : String
  content : Protected

def EncryptionContext.aad (c : EncryptionContext) : Except SpoolCryptoError Bytes :=
  match c.content with
  | .artifact kind => artifactAad c.jobId c.intentId kind
  | .wrappedKey rootKeyVersion => wrappedKeyAad c.jobId c.intentId rootKeyVersion

end SpoolCrypto

end Inari.Agent
