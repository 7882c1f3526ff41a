import Mathlib

/-!
# Words that can be read back

Numbers with a fixed number of digits, and fields written with a code that tells where each field
ends.
-/

namespace Inari.Lib

variable {α β : Type}

/-- The last `width` digits of a number, the most significant one first. -/
def digits (base : Nat) (digit : Nat → α) : Nat → Nat → List α
  | 0, _ => []
  | width + 1, n => digits base digit width (n / base) ++ [digit (n % base)]

@[simp] lemma length_digits (base : Nat) (digit : Nat → α) (width n : Nat) :
    (digits base digit width n).length = width := by
  induction width generalizing n with
  | zero => rfl
  | succ width ih => simp [digits, ih]

/-- Digits that differ below the base tell apart the numbers that fit. -/
lemma digits_injective {base : Nat} {digit : Nat → α} (hbase : 0 < base)
    (hdigit : ∀ a < base, ∀ b < base, digit a = digit b → a = b) {width m n : Nat}
    (hm : m < base ^ width) (hn : n < base ^ width)
    (h : digits base digit width m = digits base digit width n) : m = n := by
  induction width generalizing m n with
  | zero =>
    rw [Nat.pow_zero] at hm hn
    omega
  | succ width ih =>
    obtain ⟨hhigh, hlow⟩ := List.append_inj' h rfl
    have hdiv : m / base = n / base :=
      ih (Nat.div_lt_of_lt_mul (by rwa [← Nat.pow_succ']))
        (Nat.div_lt_of_lt_mul (by rwa [← Nat.pow_succ'])) hhigh
    have hmod : m % base = n % base :=
      hdigit _ (Nat.mod_lt m hbase) _ (Nat.mod_lt n hbase) (List.cons.inj hlow).1
    rw [← Nat.div_add_mod m base, ← Nat.div_add_mod n base, hdiv, hmod]

/-- What follows the code of an admissible value is read back with it. -/
def ReadsBack (code : α → List β) (ok : α → Prop) : Prop :=
  ∀ a b, ok a → ok b → ∀ rest rest', code a ++ rest = code b ++ rest' → a = b ∧ rest = rest'

lemma ReadsBack.flatMap_injective {code : α → List β} {ok : α → Prop} (h : ReadsBack code ok)
    {as bs : List α} (has : ∀ a ∈ as, ok a) (hbs : ∀ b ∈ bs, ok b) (hlength : as.length = bs.length)
    (heq : as.flatMap code = bs.flatMap code) : as = bs := by
  induction as generalizing bs with
  | nil => exact (List.length_eq_zero_iff.mp hlength.symm).symm
  | cons a as ih =>
    cases bs with
    | nil => cases hlength
    | cons b =>
      rw [List.flatMap_cons, List.flatMap_cons] at heq
      obtain ⟨rfl, hrest⟩ := h a b (has a List.mem_cons_self) (hbs b List.mem_cons_self) _ _ heq
      rw [ih (fun x hx => has x (List.mem_cons_of_mem a hx))
        (fun x hx => hbs x (List.mem_cons_of_mem a hx)) (Nat.succ.inj hlength) hrest]

/-- A field after its own length in a word of fixed width. -/
lemma readsBack_of_length {length : Nat → List β} {width : Nat} {ok : Nat → Prop}
    (hwidth : ∀ n, (length n).length = width)
    (hinj : ∀ m n, ok m → ok n → length m = length n → m = n) :
    ReadsBack (fun value : List β => length value.length ++ value) (fun value => ok value.length) := by
  intro a b ha hb rest rest' heq
  rw [List.append_assoc, List.append_assoc] at heq
  obtain ⟨hlen, htail⟩ := List.append_inj heq (by rw [hwidth, hwidth])
  exact List.append_inj htail (hinj _ _ ha hb hlen)

end Inari.Lib
