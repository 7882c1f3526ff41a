import Inari.Lib.Text

/-!
# Values that the programs exchange

JSON values, byte strings and the white space of `str.strip` in Python and of `str::trim` in Rust.
-/

namespace Inari

abbrev Bytes := List UInt8

inductive Json
  | null
  | bool (b : Bool)
  | int (n : Int)
  | float (text : String)
  | str (s : String)
  | arr (items : List Json)
  | obj (fields : List (String × Json))

mutual

def Json.beq : Json → Json → Bool
  | .null, .null => true
  | .bool a, .bool b => a == b
  | .int a, .int b => a == b
  | .float a, .float b => a == b
  | .str a, .str b => a == b
  | .arr a, .arr b => Json.beqItems a b
  | .obj a, .obj b => Json.beqFields a b
  | _, _ => false

def Json.beqItems : List Json → List Json → Bool
  | [], [] => true
  | a :: as, b :: bs => Json.beq a b && Json.beqItems as bs
  | _, _ => false

def Json.beqFields : List (String × Json) → List (String × Json) → Bool
  | [], [] => true
  | (k, a) :: as, (l, b) :: bs => k == l && Json.beq a b && Json.beqFields as bs
  | _, _ => false

end

mutual

lemma Json.beq_iff : (a b : Json) → (Json.beq a b = true ↔ a = b)
  | .null, b => by cases b <;> simp [Json.beq]
  | .bool _, b => by cases b <;> simp [Json.beq]
  | .int _, b => by cases b <;> simp [Json.beq]
  | .float _, b => by cases b <;> simp [Json.beq]
  | .str _, b => by cases b <;> simp [Json.beq]
  | .arr a, b => by cases b <;> simp [Json.beq, Json.beqItems_iff a]
  | .obj a, b => by cases b <;> simp [Json.beq, Json.beqFields_iff a]

lemma Json.beqItems_iff : (a b : List Json) → (Json.beqItems a b = true ↔ a = b)
  | [], b => by cases b <;> simp [Json.beqItems]
  | a :: as, b => by cases b <;> simp [Json.beqItems, Json.beq_iff a, Json.beqItems_iff as]

lemma Json.beqFields_iff : (a b : List (String × Json)) → (Json.beqFields a b = true ↔ a = b)
  | [], b => by cases b <;> simp [Json.beqFields]
  | (k, a) :: as, b => by
    cases b <;> simp [Json.beqFields, Json.beq_iff a, Json.beqFields_iff as, Prod.ext_iff]

end

instance : DecidableEq Json := fun a b => decidable_of_iff _ (Json.beq_iff a b)

/-- A text, or `null` when it is absent. -/
def Json.text? : Option String → Json
  | none => .null
  | some s => .str s

/-- The code points with the Unicode property `White_Space`. -/
def isRustSpace (c : Char) : Bool :=
  (9 ≤ c.toNat && c.toNat ≤ 13) || c.toNat == 32 || c.toNat == 0x85 || c.toNat == 0xA0 ||
  c.toNat == 0x1680 || (0x2000 ≤ c.toNat && c.toNat ≤ 0x200A) || c.toNat == 0x2028 ||
  c.toNat == 0x2029 || c.toNat == 0x202F || c.toNat == 0x205F || c.toNat == 0x3000

/-- `str.isspace` counts four separators that have no such property. -/
def isPySpace (c : Char) : Bool :=
  isRustSpace c || (0x1C ≤ c.toNat && c.toNat ≤ 0x1F)

/-- `str.encode("utf-8")` -/
def encode (s : String) : Bytes := s.toUTF8.data.toList

/-- `bytes.decode("utf-8")` -/
def decodeUtf8 (b : Bytes) : Option String := String.fromUTF8? ⟨b.toArray⟩

lemma decodeUtf8_encode (s : String) : decodeUtf8 (encode s) = some s := by
  simp only [decodeUtf8, encode, Array.toArray_toList, String.fromUTF8?]
  exact dif_pos s.isValidUTF8

lemma encode_injective {s s' : String} (h : encode s = encode s') : s = s' := by
  have hdecode := decodeUtf8_encode s
  rw [h, decodeUtf8_encode s'] at hdecode
  exact (Option.some.inj hdecode).symm

/-- `int.to_bytes(width, byteorder="big")` -/
def bigEndian : Nat → Nat → Bytes
  | 0, _ => []
  | width + 1, n => bigEndian width (n / 256) ++ [UInt8.ofNat n]

end Inari
