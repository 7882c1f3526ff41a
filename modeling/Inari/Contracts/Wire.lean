import Inari.Contracts.Fingerprint
import Inari.Lib.Base64
import Inari.Lib.Hex

/-!
# What crosses the wire

Canonical JSON, timestamps as text, signatures and encryption. The libraries that implement them
are parameters.
-/

namespace Inari

structure WireTools extends DigestTools where
  /-- RFC 8785: `serde_json_canonicalizer` and the Python package `rfc8785` -/
  canonical : Json → Bytes
  /-- `serde_json::to_vec` -/
  toVec : Json → Bytes
  /-- `json.loads` -/
  loads : Bytes → Option Json
  /-- The RFC 3339 text that `serde` writes for a `DateTime<Utc>`. -/
  rfc3339 : Int → String
  /-- The same with exactly six digits of the second and `Z`. -/
  rfc3339Micros : Int → String
  /-- Pydantic's reading of a date and time with a zone. -/
  parseDatetime : String → Option Int

/-- Both sides can represent the time. -/
def WireTools.representsTime (tools : WireTools) (t : Int) : Prop :=
  tools.parseDatetime (tools.rfc3339 t) = some t ∧
    tools.parseDatetime (tools.rfc3339Micros t) = some t

instance (tools : WireTools) (t : Int) : Decidable (tools.representsTime t) :=
  inferInstanceAs (Decidable (_ ∧ _))

/-- Ed25519 and HPKE in base mode. -/
structure CryptoTools where
  verifyingKey : Bytes → Bytes
  verifyingKey_length : ∀ key, (verifyingKey key).length = 32
  sign : Bytes → Bytes → Bytes
  sign_length : ∀ key message, (sign key message).length = 64
  verify : Bytes → Bytes → Bytes → Bool
  verify_sign : ∀ key message, verify (verifyingKey key) message (sign key message) = true
  hpkePublicKey : Bytes → Bytes
  hpkePublicKey_length : ∀ key, (hpkePublicKey key).length = 32
  /-- From the receiver's public key, the info, the associated data, the plaintext and the
  sender's fresh randomness: the encapsulated key and the ciphertext. -/
  hpkeSeal : Bytes → Bytes → Bytes → Bytes → Bytes → Bytes × Bytes
  hpkeSeal_nonempty : ∀ key info aad plaintext random,
    (hpkeSeal key info aad plaintext random).1 ≠ [] ∧
      (hpkeSeal key info aad plaintext random).2 ≠ []
  hpkeOpen : Bytes → Bytes → Bytes → Bytes → Bytes → Option Bytes
  hpkeOpen_seal : ∀ key info aad plaintext random,
    hpkeOpen key info (hpkeSeal (hpkePublicKey key) info aad plaintext random).1 aad
      (hpkeSeal (hpkePublicKey key) info aad plaintext random).2 = some plaintext

/-- `str::char::is_control`: the general category `Cc`. -/
def isControl (c : Char) : Bool := c.toNat < 32 || (127 ≤ c.toNat && c.toNat < 160)

end Inari
