import Inari.Contracts.Values
import Inari.Lib.Framing

/-!
# The Device Work fingerprint

`inari_print_contracts/fingerprint.py`: the stable fields of a Device Work request, each after its
length.
-/

namespace Inari

/-- The functions of the standard library that the fingerprint rests on. -/
structure DigestTools where
  sha256 : Bytes → Bytes
  sha256_length : ∀ b, (sha256 b).length = 32
  /-- `strftime("%Y-%m-%dT%H:%M:%S.%fZ")` of a UTC time in microseconds -/
  formatDeadline : Int → Bytes

structure DeviceWorkFingerprintInput where
  contractMajor : Nat
  operation : String
  deviceId : String
  mediaType : String
  document : Bytes
  /-- The canonical form of the options. -/
  options : Bytes
  expiresAt : Int

/-- `b"inari-device-work-fingerprint\x00\x01"` -/
def fingerprintFormat : Bytes := encode "inari-device-work-fingerprint" ++ [0, 1]

def lengthPrefix (value : Bytes) : Bytes := bigEndian 8 value.length ++ value

def DeviceWorkFingerprintInput.fields (tools : DigestTools) (w : DeviceWorkFingerprintInput) :
    List Bytes :=
  [bigEndian 4 w.contractMajor, encode w.operation, encode w.deviceId, encode w.mediaType,
    w.document, w.options, tools.formatDeadline w.expiresAt]

def fingerprintDeviceWork (tools : DigestTools) (w : DeviceWorkFingerprintInput) : Bytes :=
  tools.sha256 (fingerprintFormat ++ (w.fields tools).flatMap lengthPrefix)

open Lib

lemma bigEndian_eq (width n : Nat) : bigEndian width n = digits 256 UInt8.ofNat width n := by
  induction width generalizing n with
  | zero => rfl
  | succ width ih =>
    rw [bigEndian, digits, ih]
    congr 2
    apply UInt8.toNat.inj
    simp

lemma ofNat_injective : ∀ a < 256, ∀ b < 256, UInt8.ofNat a = UInt8.ofNat b → a = b := by
  intro a ha b hb h
  have := congrArg UInt8.toNat h
  simpa [Nat.mod_eq_of_lt, ha, hb] using this

lemma bigEndian_injective {width m n : Nat} (hm : m < 256 ^ width) (hn : n < 256 ^ width)
    (h : bigEndian width m = bigEndian width n) : m = n := by
  rw [bigEndian_eq, bigEndian_eq] at h
  exact digits_injective (by decide) ofNat_injective hm hn h

lemma length_bigEndian (width n : Nat) : (bigEndian width n).length = width := by
  rw [bigEndian_eq, length_digits]

end Inari
