import Mathlib

/-!
# Base64

The encoding of byte strings by an alphabet of 64 characters, with or without padding, and its
strict decoder.
-/

namespace Inari.Lib

/-- The 64 characters of an alphabet; the padding character is none of them. -/
structure Base64 where
  alphabet : List Char
  padded : Bool
  size : alphabet.length = 64
  nodup : alphabet.Nodup
  noPadding : '=' ∉ alphabet

namespace Base64

def standard : Base64 where
  alphabet := "ABCDEFGHIJKLMNOPQRSTUVWXYZabcdefghijklmnopqrstuvwxyz0123456789+/".toList
  padded := true
  size := by decide
  nodup := by decide
  noPadding := by decide

def urlSafe : Base64 where
  alphabet := "ABCDEFGHIJKLMNOPQRSTUVWXYZabcdefghijklmnopqrstuvwxyz0123456789-_".toList
  padded := false
  size := by decide
  nodup := by decide
  noPadding := by decide

/-- The values below 64 of consecutive groups of six bits; the last group is filled with
zeros. -/
def sextets : List UInt8 → List Nat
  | [] => []
  | [a] => [a.toNat / 4, a.toNat % 4 * 16]
  | [a, b] => [a.toNat / 4, a.toNat % 4 * 16 + b.toNat / 16, b.toNat % 16 * 4]
  | a :: b :: c :: rest =>
    a.toNat / 4 :: (a.toNat % 4 * 16 + b.toNat / 16) :: (b.toNat % 16 * 4 + c.toNat / 64) ::
      c.toNat % 64 :: sextets rest

/-- The bytes of groups of six bits; bits that fill no byte are dropped. -/
def octets : List Nat → List UInt8
  | x :: y :: z :: w :: rest =>
    UInt8.ofNat (x * 4 + y / 16) :: UInt8.ofNat (y % 16 * 16 + z / 4) ::
      UInt8.ofNat (z % 4 * 64 + w) :: octets rest
  | [x, y, z] => [UInt8.ofNat (x * 4 + y / 16), UInt8.ofNat (y % 16 * 16 + z / 4)]
  | [x, y] => [UInt8.ofNat (x * 4 + y / 16)]
  | _ => []

variable (bytes : List UInt8)

lemma length_sextets_le : (sextets bytes).length ≤ 2 * bytes.length := by
  fun_induction sextets bytes with
  | case1 => simp
  | case2 => simp
  | case3 => simp
  | case4 =>
    simp only [List.length_cons]
    omega

/-- The first group holds the upper six bits of the first byte. -/
lemma head?_sextets (b : UInt8) (bytes : List UInt8) :
    (sextets (b :: bytes)).head? = some (b.toNat / 4) := by
  rcases bytes with - | ⟨c, - | ⟨d, rest⟩⟩ <;> rfl

lemma ofNat_eq {b : UInt8} {n : Nat} (h : n % 256 = b.toNat) : UInt8.ofNat n = b :=
  UInt8.toNat.inj (by simpa using h)

lemma octets_sextets : octets (sextets bytes) = bytes := by
  fun_induction sextets bytes with
  | case1 => rfl
  | case2 a =>
    have ha := a.toNat_lt
    rw [octets, ofNat_eq (b := a) (by omega)]
  | case3 a b =>
    have ha := a.toNat_lt
    have hb := b.toNat_lt
    rw [octets, ofNat_eq (b := a) (by omega), ofNat_eq (b := b) (by omega)]
  | case4 a b c rest ih =>
    have ha := a.toNat_lt
    have hb := b.toNat_lt
    have hc := c.toNat_lt
    rw [octets, ofNat_eq (b := a) (by omega), ofNat_eq (b := b) (by omega),
      ofNat_eq (b := c) (by omega), ih]

lemma sextets_lt : ∀ x ∈ sextets bytes, x < 64 := by
  fun_induction sextets bytes with
  | case1 => simp
  | case2 | case3 =>
    simp only [List.mem_cons, List.not_mem_nil, or_false, forall_eq_or_imp, forall_eq]
    grind [UInt8.toNat_lt]
  | case4 =>
    simp only [List.mem_cons, forall_eq_or_imp]
    grind [UInt8.toNat_lt]

variable (B : Base64)

def padding (count : Nat) : List Char :=
  if B.padded then List.replicate ((4 - count % 4) % 4) '=' else []

def encode : String :=
  let groups := sextets bytes
  String.ofList (groups.map (fun x => B.alphabet.getD x 'A') ++ B.padding groups.length)

lemma toList_encode (h : B.padded = false) (bytes : List UInt8) :
    (B.encode bytes).toList = (sextets bytes).map (fun x => B.alphabet.getD x 'A') := by
  simp [encode, padding, h]

/-- The groups that the characters before the padding stand for. -/
def digits (s : String) : List Nat :=
  (s.toList.takeWhile (· ≠ '=')).map (fun c => B.alphabet.idxOf c)

def decode (s : String) : Option (List UInt8) :=
  let bytes := octets (B.digits s)
  if B.encode bytes = s then some bytes else none

lemma idxOf_getD {x : Nat} (h : x < 64) : B.alphabet.idxOf (B.alphabet.getD x 'A') = x := by
  have hx : x < B.alphabet.length := by rwa [B.size]
  rw [List.getD_eq_getElem _ _ hx]
  exact B.nodup.idxOf_getElem x hx

lemma getD_mem {x : Nat} (h : x < 64) : B.alphabet.getD x 'A' ∈ B.alphabet := by
  have hx : x < B.alphabet.length := by rwa [B.size]
  rw [List.getD_eq_getElem _ _ hx]
  exact List.getElem_mem hx

lemma digits_encode : B.digits (B.encode bytes) = sextets bytes := by
  have hlt := sextets_lt bytes
  have hkept : ∀ c ∈ (sextets bytes).map (fun x => B.alphabet.getD x 'A'),
      decide (c ≠ '=') = true := by
    intro c hc
    obtain ⟨x, hx, rfl⟩ := List.mem_map.mp hc
    exact decide_eq_true fun heq => B.noPadding (heq ▸ B.getD_mem (hlt x hx))
  have hpad : ∀ n, (B.padding n).takeWhile (· ≠ '=') = [] := by
    intro n
    rw [padding]
    split
    · cases (4 - n % 4) % 4 <;> simp [List.replicate_succ]
    · rfl
  rw [digits, encode, String.toList_ofList, List.takeWhile_append_of_pos hkept, hpad,
    List.append_nil, List.map_map]
  conv_rhs => rw [← List.map_id (sextets bytes)]
  exact List.map_congr_left fun x hx => B.idxOf_getD (hlt x hx)

@[simp] lemma decode_encode : B.decode (B.encode bytes) = some bytes := by
  simp only [decode, digits_encode, octets_sextets, if_true]

lemma mem_encode {bytes : List UInt8} {c : Char} (h : c ∈ (B.encode bytes).toList) :
    c ∈ B.alphabet ∨ c = '=' := by
  rw [encode, String.toList_ofList, List.mem_append, List.mem_map] at h
  rcases h with ⟨x, hx, rfl⟩ | h
  · exact .inl (B.getD_mem (sextets_lt bytes x hx))
  · rw [padding] at h
    split at h
    · exact .inr (List.eq_of_mem_replicate h)
    · cases h

lemma encode_ne_empty {bytes : List UInt8} (h : bytes ≠ []) : B.encode bytes ≠ "" := by
  obtain ⟨b, rest, rfl⟩ := List.exists_cons_of_ne_nil h
  intro hempty
  have hchars := congrArg String.toList hempty
  have hhead := head?_sextets b rest
  simp_all [encode]

end Base64

end Inari.Lib
