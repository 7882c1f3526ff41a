import Mathlib

/-!
# Gap-free sequences

Records numbered `1, 2, ..` in the order they are appended, and the largest number among them.
-/

namespace Inari.Lib

variable {l : List Nat}

lemma le_foldr_max {x : Nat} (h : x ∈ l) : x ≤ l.foldr max 0 := by
  induction l with
  | nil => cases h
  | cons a l ih =>
    rw [List.foldr_cons]
    rcases List.mem_cons.mp h with rfl | hx
    · exact le_max_left _ _
    · exact (ih hx).trans (le_max_right _ _)

lemma foldr_max_le {b : Nat} (h : ∀ x ∈ l, x ≤ b) : l.foldr max 0 ≤ b := by
  induction l with
  | nil => exact Nat.zero_le b
  | cons a l ih =>
    rw [List.foldr_cons]
    exact max_le (h a List.mem_cons_self) (ih (fun x hx => h x (List.mem_cons_of_mem _ hx)))

/-- The largest of numbers among which exactly `1, .., k` occur. -/
lemma foldr_max_eq {k : Nat} (h : ∀ x, x ∈ l ↔ 1 ≤ x ∧ x ≤ k) : l.foldr max 0 = k := by
  have hle : l.foldr max 0 ≤ k := foldr_max_le (fun x hx => ((h x).mp hx).2)
  rcases Nat.eq_zero_or_pos k with rfl | hk
  · omega
  · have hge : k ≤ l.foldr max 0 := le_foldr_max ((h k).mpr ⟨hk, le_rfl⟩)
    omega

lemma foldr_max_range' (n : Nat) : (List.range' 1 n).foldr max 0 = n := by
  apply foldr_max_eq
  intro x
  rw [List.mem_range'_1]
  omega

/-- The elements of a numbered list after the first `k`. -/
lemma filter_numbered {α : Type} {f : α → Nat} {l : List α} {start : Nat}
    (h : l.map f = List.range' start l.length) (k : Nat) :
    l.filter (fun a => decide (start + k ≤ f a)) = l.drop k := by
  induction l generalizing start k with
  | nil => simp
  | cons a l ih =>
    simp only [List.map_cons, List.length_cons, List.range'_succ, List.cons.injEq] at h
    obtain ⟨ha, hl⟩ := h
    cases k with
    | zero =>
      rw [List.drop_zero, List.filter_eq_self]
      intro b hb
      rcases List.mem_cons.mp hb with rfl | hb
      · simp [ha]
      · have hmem : f b ∈ List.range' (start + 1) l.length := hl ▸ List.mem_map_of_mem hb
        rw [List.mem_range'_1] at hmem
        simp only [decide_eq_true_eq]
        omega
    | succ k =>
      have hdrop : decide (start + (k + 1) ≤ f a) = false := by
        rw [decide_eq_false_iff_not]
        omega
      rw [List.filter_cons_of_neg (by simp [hdrop]), List.drop_succ_cons, ← ih hl k]
      congr 1
      funext b
      congr 1
      simp only [eq_iff_iff]
      omega

end Inari.Lib
