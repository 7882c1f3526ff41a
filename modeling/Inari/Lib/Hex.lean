import Mathlib

/-!
# Hexadecimal texts

The lower-case encoding of byte strings and a decoder that takes digits of both cases.
-/

namespace Inari.Lib

namespace Hex

def lowerDigits : List Char := "0123456789abcdef".toList

def upperDigits : List Char := "0123456789ABCDEF".toList

def digit (n : Nat) : Char := lowerDigits.getD n '0'

def value (c : Char) : Option Nat :=
  if c ∈ lowerDigits then some (lowerDigits.idxOf c)
  else if c ∈ upperDigits then some (upperDigits.idxOf c)
  else none

def byteDigits (b : UInt8) : List Char := [digit (b.toNat / 16), digit (b.toNat % 16)]

def encode (bytes : List UInt8) : String := String.ofList (bytes.flatMap byteDigits)

def decodeDigits : List Char → Option (List UInt8)
  | [] => some []
  | [_] => none
  | a :: b :: rest => do
    let high ← value a
    let low ← value b
    let bytes ← decodeDigits rest
    pure (UInt8.ofNat (high * 16 + low) :: bytes)

def decode (s : String) : Option (List UInt8) := decodeDigits s.toList

lemma isHex_of_decode {cs : List Char} {bytes : List UInt8} (h : decodeDigits cs = some bytes) :
    ∀ c ∈ cs, c ∈ lowerDigits ∨ c ∈ upperDigits := by
  have hvalue : ∀ {c : Char} {n : Nat}, value c = some n → c ∈ lowerDigits ∨ c ∈ upperDigits := by
    intro c n h
    simp only [value] at h
    grind
  induction cs using decodeDigits.induct generalizing bytes with
  | case1 => simp
  | case2 => cases h
  | case3 a b rest ih =>
    simp only [decodeDigits, Option.bind_eq_bind, Option.bind_eq_some_iff] at h
    obtain ⟨m, hm, n, hn, tail, htail, -⟩ := h
    simp only [List.mem_cons, forall_eq_or_imp]
    exact ⟨hvalue hm, hvalue hn, ih htail⟩

lemma byteDigits_ofNat {m n : Nat} (hm : m < 16) (hn : n < 16) :
    byteDigits (UInt8.ofNat (m * 16 + n)) = [digit m, digit n] := by
  have h : (UInt8.ofNat (m * 16 + n)).toNat = m * 16 + n :=
    UInt8.toNat_ofNat_of_lt' (by rw [UInt8.size]; omega)
  rw [byteDigits, h, show (m * 16 + n) / 16 = m by omega, show (m * 16 + n) % 16 = n by omega]

lemma flatMap_of_decode {cs : List Char} {bytes : List UInt8} (h : decodeDigits cs = some bytes)
    (hlower : ∀ c ∈ cs, c ∈ lowerDigits) : bytes.flatMap byteDigits = cs := by
  have hdigit : ∀ c ∈ lowerDigits, lowerDigits.idxOf c < 16 ∧ digit (lowerDigits.idxOf c) = c := by
    simpa using (by decide +kernel : lowerDigits.all (fun c =>
      decide (lowerDigits.idxOf c < 16 ∧ digit (lowerDigits.idxOf c) = c)) = true)
  induction cs using decodeDigits.induct generalizing bytes with
  | case1 =>
    cases h
    rfl
  | case2 => cases h
  | case3 a b rest ih =>
    simp only [List.mem_cons, forall_eq_or_imp] at hlower
    obtain ⟨ha, hb, hrest⟩ := hlower
    simp only [decodeDigits, value, ha, hb, if_true, Option.bind_eq_bind, Option.bind_some,
      Option.bind_eq_some_iff, Option.pure_def, Option.some.injEq] at h
    obtain ⟨tail, htail, rfl⟩ := h
    rw [List.flatMap_cons, byteDigits_ofNat (hdigit a ha).1 (hdigit b hb).1, (hdigit a ha).2,
      (hdigit b hb).2, ih htail hrest]
    rfl

end Hex

end Inari.Lib
