import Inari.Contracts.Fingerprint
import Inari.Contracts.Deadlines
import Inari.Lib.Except

/-!
# The bytes under a Device Work fingerprint

`fingerprint_device_work` of `inari_print_contracts/fingerprint.py` up to its digest.
-/

namespace Inari

open Lib

inductive FingerprintError
  | valueError (message : String)

/-- `str.lower` and the canonicalizer of the options. -/
structure FingerprintTools where
  lower : String → String
  canonicalizeOptions : Json → Bytes

structure DeviceWork where
  contractMajor : Int
  operation : String
  deviceId : String
  mediaType : String
  document : Bytes
  options : Json
  expiresAt : PyDatetime

/-- `[a-z0-9!#$&^_.+-]` -/
def isMediaTypeChar (c : Char) : Bool :=
  c.isLower || c.isDigit || ['!', '#', '$', '&', '^', '_', '.', '+', '-'].contains c

/-- `_MEDIA_TYPE_PATTERN.fullmatch` -/
def matchesMediaType (text : List Char) : Bool :=
  match text.span isMediaTypeChar with
  | (kind, '/' :: subtype) =>
    !kind.isEmpty && !subtype.isEmpty && subtype.all isMediaTypeChar
  | _ => false

variable (tools : FingerprintTools)

def FingerprintTools.normalizedMediaType (mediaType : String) : String :=
  tools.lower (strip isPySpace mediaType)

def validateWork (work : DeviceWork) : Except FingerprintError Unit := do
  require (decide (0 ≤ work.contractMajor ∧ work.contractMajor ≤ 2 ^ 32 - 1))
    (.valueError "contract_major must fit in an unsigned 32-bit integer.")
  require (["receipt_image", "report_pdf", "label_document"].contains work.operation)
    (.valueError "operation must be a supported DocumentKind.")
  require (work.deviceId != "") (.valueError "device_id must not be empty.")
  require (matchesMediaType (tools.normalizedMediaType work.mediaType).toList)
    (.valueError "media_type must be a normalized type/subtype.")

def maxFieldLength : Nat := 2 ^ 64 - 1

/-- `_length_prefix` -/
def checkedLengthPrefix (value : Bytes) : Except FingerprintError Bytes := do
  require (decide (value.length ≤ maxFieldLength)) (.valueError "Fingerprint field is too large.")
  pure (lengthPrefix value)

def DeviceWork.fields (work : DeviceWork) : List Bytes :=
  [bigEndian 4 work.contractMajor.toNat, encode work.operation, encode work.deviceId,
    encode (tools.normalizedMediaType work.mediaType), work.document,
    tools.canonicalizeOptions work.options, formatDeadline work.expiresAt]

/-- What `fingerprint_device_work` hashes. -/
def DeviceWork.representation (work : DeviceWork) : Except FingerprintError Bytes := do
  validateWork tools work
  let parts ← (work.fields tools).mapM checkedLengthPrefix
  pure (fingerprintFormat ++ parts.flatten)

end Inari
