import Inari.Contracts.CanonicalJson
import Inari.Contracts.Deadlines
import Inari.Lib.Sha256

/-!
# Reference implementations of the libraries

SHA-256, the texts of JSON values and the texts of times. `json.loads` stays a parameter.
-/

namespace Inari.Reference

open Lib

/-- A byte of a text. What is escaped is one byte in UTF-8, and `0x5c` is the backslash. -/
def escape (b : UInt8) : Bytes :=
  if b = 0x22 ∨ b = 0x5c then [0x5c, b]
  else if 0x20 ≤ b then [b]
  else match [(8, "b"), (9, "t"), (10, "n"), (12, "f"), (13, "r")].lookup b with
    | some name => 0x5c :: encode name
    | none => 0x5c :: encode ("u00" ++ Hex.encode [b])

def quoted (s : String) : Bytes := 0x22 :: (encode s).flatMap escape ++ [0x22]

mutual

/-- `serde_json::to_vec` -/
def toVec : Json → Bytes
  | .null => encode "null"
  | .bool b => encode (toString b)
  | .int n => encode (toString n)
  | .float s => encode s
  | .str s => quoted s
  | .arr items => 0x5b :: (encode ",").intercalate (itemTexts items) ++ [0x5d]
  | .obj fields => 0x7b :: (encode ",").intercalate (fieldTexts fields) ++ [0x7d]

def itemTexts : List Json → List Bytes
  | [] => []
  | j :: js => toVec j :: itemTexts js

def fieldTexts : List (String × Json) → List Bytes
  | [] => []
  | (name, j) :: fields => (quoted name ++ 0x3a :: toVec j) :: fieldTexts fields

end

/-- The UTF-8 bytes of a text. -/
def IsText (bytes : Bytes) : Prop := ∃ chars : List Char, bytes = chars.flatMap String.utf8EncodeChar

lemma IsText.append {a b : Bytes} : IsText a → IsText b → IsText (a ++ b) := by
  rintro ⟨cs, rfl⟩ ⟨ds, rfl⟩
  exact ⟨cs ++ ds, List.flatMap_append.symm⟩

lemma isText_flatMap {α : Type} {f : α → Bytes} (h : ∀ x, IsText (f x)) (l : List α) :
    IsText (l.flatMap f) := by
  induction l with
  | nil => exact ⟨[], rfl⟩
  | cons x l ih => exact (h x).append ih

lemma encode_eq (s : String) : encode s = s.toList.flatMap String.utf8EncodeChar := by
  simp [encode, ← String.utf8Encode_toList, List.utf8Encode]

lemma isText_encode (s : String) : IsText (encode s) := ⟨s.toList, encode_eq s⟩

lemma isText_escape (c : Char) : IsText ((String.utf8EncodeChar c).flatMap escape) := by
  have hchar : IsText (String.utf8EncodeChar c) := ⟨[c], (List.flatMap_singleton _ _).symm⟩
  by_cases hc : c.val.toNat ≤ 127
  · simp only [String.utf8EncodeChar, hc, if_true, List.flatMap_singleton] at hchar ⊢
    have hescaped : IsText [0x5c] := isText_encode "\\"
    unfold escape
    split_ifs
    · exact hescaped.append hchar
    · exact hchar
    · split <;> exact hescaped.append (isText_encode _)
  · -- no byte of a longer sequence is escaped
    have hother : ∀ n < 256, 128 ≤ n → escape (UInt8.ofNat n) = [UInt8.ofNat n] := by decide +kernel
    have hhigh : ∀ b ∈ String.utf8EncodeChar c, escape b = [b] := by
      simp only [String.utf8EncodeChar, hc, if_false]
      split_ifs <;> simp (disch := omega) only [List.mem_cons, List.not_mem_nil, or_false,
        forall_eq_or_imp, forall_eq, hother, and_self]
    rwa [List.flatMap_congr hhigh, List.flatMap_singleton']

lemma isText_quoted (s : String) : IsText (quoted s) := by
  have hinner : IsText ((encode s).flatMap escape) := by
    rw [encode_eq, List.flatMap_assoc]
    exact isText_flatMap isText_escape _
  exact ((isText_encode "\"").append hinner).append (isText_encode "\"")

lemma isText_intercalate {texts : List Bytes} (h : ∀ t ∈ texts, IsText t) :
    IsText ((encode ",").intercalate texts) := by
  induction texts with
  | nil => exact ⟨[], rfl⟩
  | cons t texts ih =>
    obtain ⟨ht, htexts⟩ := List.forall_mem_cons.mp h
    cases texts with
    | nil => simpa using ht
    | cons =>
      rw [List.intercalate_cons_cons]
      exact (ht.append (isText_encode _)).append (ih htexts)

mutual

lemma isText_toVec : (j : Json) → IsText (toVec j)
  | .null => isText_encode _
  | .bool _ => isText_encode _
  | .int _ => isText_encode _
  | .float _ => isText_encode _
  | .str s => isText_quoted s
  | .arr items => ((isText_encode "[").append (isText_intercalate (isText_itemTexts items))).append
      (isText_encode "]")
  | .obj fields => ((isText_encode "\x7b").append
      (isText_intercalate (isText_fieldTexts fields))).append (isText_encode "\x7d")

lemma isText_itemTexts : (items : List Json) → ∀ t ∈ itemTexts items, IsText t
  | [] => by simp [itemTexts]
  | j :: js => List.forall_mem_cons.mpr ⟨isText_toVec j, isText_itemTexts js⟩

lemma isText_fieldTexts : (fields : List (String × Json)) → ∀ t ∈ fieldTexts fields, IsText t
  | [] => by simp [fieldTexts]
  | (name, j) :: fields => List.forall_mem_cons.mpr
      ⟨(isText_quoted name).append ((isText_encode ":").append
        (isText_toVec j)), isText_fieldTexts fields⟩

end

/-- `rfc8785.dumps`, as text -/
def text (j : Json) : String := ⟨⟨(toVec j.sorted).toArray⟩, by
  obtain ⟨chars, h⟩ := isText_toVec j.sorted
  refine ⟨chars, ?_⟩
  rw [h, List.utf8Encode]
  ext1
  simp⟩

/-- The number of the first day of 1970. -/
def epoch : Int := 719163

/-- The text of a time in microseconds, with six digits of its second. -/
def micros (t : Int) : List Char :=
  let number := t / 86400000000 + epoch
  let year := (number * 400 - 1) / 146097 + 1
  let year := if number ≤ daysBeforeYear year then year - 1 else year
  let ordinal := (number - daysBeforeYear year).toNat
  let month := monthOfOrdinal (isLeap year) ordinal
  let clock := (t % 86400000000).toNat
  decimal 4 year.toNat ++ clockText month (ordinal - daysBeforeMonth (isLeap year) month)
    (clock / 3600000000) (clock / 60000000 % 60) (clock / 1000000 % 60) (clock % 1000000)

/-- `SecondsFormat::AutoSi` of `chrono` -/
def autoSi (t : Int) : List Char :=
  if t % 1000000 = 0 then (micros t).take 19 ++ ['Z']
  else if t % 1000 = 0 then (micros t).take 23 ++ ['Z']
  else micros t

def number (digits : List Char) : Nat := digits.foldl (fun n c => 10 * n + (c.toNat - 48)) 0

/-- Pydantic on the texts that the other side writes. -/
def parseDatetime (s : String) : Option Int :=
  let part (start width : Nat) : Nat := number ((s.toList.drop start).take width)
  let days := daysBeforeYear (part 0 4) + daysBeforeMonth (isLeap (part 0 4)) (part 5 2) + part 8 2
  let seconds := (days - epoch) * 86400 + part 11 2 * 3600 + part 14 2 * 60 + part 17 2
  let t := seconds * 1000000 +
    number (((s.toList.drop 20).dropLast ++ List.replicate 6 '0').take 6)
  if s.toList = micros t ∨ s.toList = autoSi t then some t else none

def wire (loads : Bytes → Option Json) : WireTools where
  sha256 := Sha256.digest
  sha256_length := Sha256.length_digest
  formatDeadline t := encode (String.ofList (micros t))
  canonical j := toVec j.sorted
  toVec := toVec
  loads := loads
  rfc3339 t := String.ofList (autoSi t)
  rfc3339Micros t := String.ofList (micros t)
  parseDatetime := parseDatetime

/-- An object that is read back from its sorted text is canonical. -/
lemma wire_canonicalizes {loads : Bytes → Option Json} {fields : List (String × Json)}
    (h : loads (toVec (Json.obj fields).sorted) = some (Json.obj fields).sorted) :
    (wire loads).Canonicalizes (.obj fields) where
  reads := h
  order := congrArg toVec (Json.sorted_sorted _)
  nonempty h := by simp [wire, Json.sorted, toVec] at h

end Inari.Reference
