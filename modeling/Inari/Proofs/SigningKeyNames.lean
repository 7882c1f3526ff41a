import Inari.Odoo.PairingKeys

/-!
# Which databases share a pairing signing key

Of the name of the database, the key has the words only, in lower case and cut to 80 characters.
-/

namespace Inari.Odoo

open Lib

variable {lower : String → String} {database database' name name' : String}
  {companyId companyId' : Int}

/-- The words of the name in lower case, joined by hyphens, as far as the name of the key has them. -/
def keyWords (lower : String → String) (database : String) : List Char :=
  (['-'].intercalate (words isSafeChar (lower database).toList)).take 80

lemma pairingSigningKeyName_ok (h : pairingSigningKeyName lower database companyId = .ok name) :
    name.toList = "inari-odoo-pairing-".toList ++
      (keyWords lower database ++ '-' :: (toString companyId).toList) := by
  simp only [pairingSigningKeyName, openbaoName, bind_ok, require_ok, pure_ok] at h
  obtain ⟨_, -, _, -, rfl⟩ := h
  simp only [String.toList_append, String.toList_ofList, safeDatabase,
    strip_replaceRuns (show isSafeChar '-' = false from rfl), keyWords, List.append_assoc]
  rfl

lemma hyphen_notMem_companyId (hpos : 0 < companyId) : '-' ∉ (toString companyId).toList := by
  obtain ⟨n, rfl⟩ := Int.eq_ofNat_of_zero_le hpos.le
  intro hmem
  rw [show toString (n : Int) = n.repr from rfl, Nat.repr, String.toList_ofList] at hmem
  cases Nat.isDigit_of_mem_toDigits (by decide) (by decide) hmem

lemma toString_companyId_inj (hpos : 0 < companyId) (hpos' : 0 < companyId')
    (h : toString companyId = toString companyId') : companyId = companyId' := by
  obtain ⟨n, rfl⟩ := Int.eq_ofNat_of_zero_le hpos.le
  obtain ⟨m, rfl⟩ := Int.eq_ofNat_of_zero_le hpos'.le
  rw [Nat.repr_injective (show n.repr = m.repr from h)]

lemma append_cons_inj {x : Char} {a a' b b' : List Char} (hb : x ∉ b) (hb' : x ∉ b')
    (h : a ++ x :: b = a' ++ x :: b') : a = a' ∧ b = b' := by
  have hnil : ∀ {t c c' : List Char}, x ∉ c → x :: c = t ++ x :: c' → t = [] ∧ c = c' := by
    intro t c c' hc heq
    cases t with
    | nil => exact ⟨rfl, (List.cons.inj heq).2⟩
    | cons y t =>
      rw [List.cons_append] at heq
      exact absurd ((List.cons.inj heq).2 ▸ List.mem_append_right t List.mem_cons_self) hc
  rcases List.append_eq_append_iff.mp h with ⟨t, rfl, heq⟩ | ⟨t, rfl, heq⟩
  · obtain ⟨rfl, rfl⟩ := hnil hb heq
    exact ⟨(List.append_nil a).symm, rfl⟩
  · obtain ⟨rfl, rfl⟩ := hnil hb' heq
    exact ⟨List.append_nil a', rfl⟩

lemma name_eq_iff (hpos : 0 < companyId) (hpos' : 0 < companyId')
    (h : pairingSigningKeyName lower database companyId = .ok name)
    (h' : pairingSigningKeyName lower database' companyId' = .ok name') :
    name = name' ↔ keyWords lower database = keyWords lower database' ∧ companyId = companyId' := by
  rw [← String.toList_inj, pairingSigningKeyName_ok h, pairingSigningKeyName_ok h',
    List.append_cancel_left_eq]
  constructor
  · intro heq
    obtain ⟨hwords, hid⟩ :=
      append_cons_inj (hyphen_notMem_companyId hpos) (hyphen_notMem_companyId hpos') heq
    exact ⟨hwords, toString_companyId_inj hpos hpos' (String.toList_inj.mp hid)⟩
  · rintro ⟨hwords, rfl⟩
    rw [hwords]

/-- The keys differ where the company ids or the words of the names do. -/
theorem pairing_signing_keys_separate_iff (lower : String → String)
    (database database' name name' : String) (companyId companyId' : Int)
    (hpos : 0 < companyId) (hpos' : 0 < companyId')
    (h : pairingSigningKeyName lower database companyId = .ok name)
    (h' : pairingSigningKeyName lower database' companyId' = .ok name') :
    (name = name' → (database, companyId) = (database', companyId')) ↔
      (database = database' ∨ companyId ≠ companyId' ∨
        keyWords lower database ≠ keyWords lower database') := by
  rw [name_eq_iff hpos hpos' h h', Prod.mk.injEq]
  constructor
  · intro hseparate
    by_contra hshared
    simp only [not_or, not_not] at hshared
    exact hshared.1 (hseparate ⟨hshared.2.2, hshared.2.1⟩).1
  · rintro (rfl | hid | hwords) heq
    · exact ⟨rfl, heq.2⟩
    · exact absurd heq.2 hid
    · exact absurd heq.1 hwords

def asciiLower (s : String) : String := String.ofList (s.toList.map Char.toLower)

theorem other_words_other_keys :
    keyWords asciiLower "Acme" ≠ keyWords asciiLower "globex" ∧
      ("inari-odoo-pairing-acme-1" = "inari-odoo-pairing-globex-1" →
        ("Acme", (1 : Int)) = ("globex", 1)) := by
  have hwords : keyWords asciiLower "Acme" ≠ keyWords asciiLower "globex" := by decide +kernel
  exact ⟨hwords, (pairing_signing_keys_separate_iff asciiLower "Acme" "globex"
    "inari-odoo-pairing-acme-1" "inari-odoo-pairing-globex-1" 1 1 (by decide) (by decide)
    (by decide +kernel) (by decide +kernel)).mpr (.inr (.inr hwords))⟩

theorem punctuation_shares_key :
    pairingSigningKeyName asciiLower "shop_1" 1 = .ok "inari-odoo-pairing-shop-1-1" ∧
      pairingSigningKeyName asciiLower "Shop.1" 1 = .ok "inari-odoo-pairing-shop-1-1" := by
  decide +kernel

end Inari.Odoo
