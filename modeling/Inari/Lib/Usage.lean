import Inari.Lib.Table

/-!
# What a selection of rows uses

A quota bounds the sum of a size over the rows that count.
-/

namespace Inari.Lib

variable {α : Type} {rows rows' : List α} {p q : α → Bool} {size : α → Nat}

def used (rows : List α) (p : α → Bool) (size : α → Nat) : Nat := ((rows.filter p).map size).sum

@[simp] lemma used_nil : used [] p size = 0 := rfl

lemma used_cons (r : α) (rows : List α) :
    used (r :: rows) p size = (if p r then size r else 0) + used rows p size := by
  by_cases hp : p r = true
  · simp [used, hp]
  · simp [used, hp]

lemma used_append (rows rows' : List α) :
    used (rows ++ rows') p size = used rows p size + used rows' p size := by
  rw [used, List.filter_append, List.map_append, List.sum_append]
  rfl

/-- The number of the rows that count. -/
lemma used_one (rows : List α) (p : α → Bool) : used rows p (fun _ => 1) = (rows.filter p).length := by
  simp [used]

/-- A row that moves counts only if it counted, and for no more. -/
def Shrinks (p : α → Bool) (size : α → Nat) (r r' : α) : Prop :=
  p r' = true → p r = true ∧ size r' ≤ size r

lemma Shrinks.refl (p : α → Bool) (size : α → Nat) (r : α) : Shrinks p size r r :=
  fun h => ⟨h, le_rfl⟩

lemma used_le_of_forall₂ (h : List.Forall₂ (Shrinks p size) rows rows') :
    used rows' p size ≤ used rows p size := by
  induction h with
  | nil => exact le_rfl
  | @cons r r' rows rows' hr _ ih =>
    rw [used_cons, used_cons]
    refine Nat.add_le_add ?_ ih
    by_cases hp : p r' = true
    · obtain ⟨hold, hle⟩ := hr hp
      rw [if_pos hp, if_pos hold]
      exact hle
    · rw [if_neg hp]
      exact Nat.zero_le _

lemma used_add_le_of_forall₂ {R : α → α → Prop} (h : List.Forall₂ R rows rows')
    (hR : ∀ r r', R r r' → Shrinks p size r r') {r : α} (hr : r ∈ rows) (hp : p r = true)
    (hgone : ∀ r', R r r' → p r' = false) : used rows' p size + size r ≤ used rows p size := by
  induction h with
  | nil => cases hr
  | @cons a a' rows rows' ha hrows ih =>
    rw [used_cons, used_cons]
    rcases List.mem_cons.mp hr with rfl | hr
    · have hrest := used_le_of_forall₂ (hrows.imp hR)
      rw [if_neg (Bool.eq_false_iff.mp (hgone a' ha)), if_pos hp]
      omega
    · have hrest := ih hr
      have hhead : (if p a' then size a' else 0) ≤ if p a then size a else 0 := by
        by_cases ha' : p a' = true
        · obtain ⟨hold, hle⟩ := hR a a' ha ha'
          rw [if_pos ha', if_pos hold]
          exact hle
        · rw [if_neg ha']
          exact Nat.zero_le _
      omega

lemma used_congr (h : ∀ r ∈ rows, (if p r then size r else 0) = if q r then size r else 0) :
    used rows p size = used rows q size := by
  induction rows with
  | nil => rfl
  | cons r rows ih =>
    rw [used_cons, used_cons, h r List.mem_cons_self, ih (fun r hr => h r (List.mem_cons_of_mem _ hr))]

lemma used_filter (rows : List α) :
    used (rows.filter q) p size = used rows (fun r => p r && q r) size := by
  rw [used, used, List.filter_filter]

end Inari.Lib
