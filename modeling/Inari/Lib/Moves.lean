import Inari.Lib.Except
import Inari.Lib.Table

/-!
# Rows that move in place

A transaction on a table that deletes nothing changes each row by a move and appends new rows.
-/

namespace Inari.Lib

variable {α : Type} {R : α → α → Prop} {N : α → Prop} {rows rows' rows'' : List α}

/-- Each row moves by `R`, and `N` holds of the rows that follow them. -/
def Moves (R : α → α → Prop) (N : α → Prop) (rows rows' : List α) : Prop :=
  ∃ kept new, List.Forall₂ R rows kept ∧ rows' = kept ++ new ∧ ∀ r ∈ new, N r

lemma Moves.of_forall₂ (h : List.Forall₂ R rows rows') : Moves R N rows rows' :=
  ⟨rows', [], h, by simp, by simp⟩

lemma Moves.refl (hR : ∀ r, R r r) (rows : List α) : Moves R N rows rows :=
  .of_forall₂ (List.forall₂_same.mpr (fun r _ => hR r))

lemma Moves.append (hR : ∀ r, R r r) {r : α} (hr : N r) : Moves R N rows (rows ++ [r]) :=
  ⟨rows, [r], List.forall₂_same.mpr (fun r _ => hR r), rfl, by simpa using hr⟩

lemma Moves.updated {p : α → Bool} {f : α → α} (hR : ∀ r, R r r)
    (hf : ∀ r ∈ rows, p r = true → R r (f r)) : Moves R N rows (Table.updated rows p f) := by
  apply Moves.of_forall₂
  rw [Table.updated, List.forall₂_map_right_iff, List.forall₂_same]
  intro r hr
  by_cases hp : p r = true
  · rw [if_pos hp]
    exact hf r hr hp
  · rw [if_neg hp]
    exact hR r

lemma Moves.mono {R' : α → α → Prop} {N' : α → Prop} (hR : ∀ a b, R a b → R' a b)
    (hN : ∀ a, N a → N' a) (h : Moves R N rows rows') : Moves R' N' rows rows' := by
  obtain ⟨kept, new, hmoves, hrows, hnew⟩ := h
  exact ⟨kept, new, hmoves.imp hR, hrows, fun r hr => hN r (hnew r hr)⟩

lemma Moves.forward (h : Moves R N rows rows') {r : α} (hr : r ∈ rows) : ∃ r' ∈ rows', R r r' := by
  obtain ⟨kept, new, hmoves, rfl, -⟩ := h
  obtain ⟨r', hr', hmove⟩ := exists_right_of_forall₂ hmoves hr
  exact ⟨r', List.mem_append_left _ hr', hmove⟩

lemma Moves.backward (h : Moves R N rows rows') {r' : α} (hr' : r' ∈ rows') :
    (∃ r ∈ rows, R r r') ∨ N r' := by
  obtain ⟨kept, new, hmoves, rfl, hnew⟩ := h
  rcases List.mem_append.mp hr' with hr' | hr'
  · exact .inl (exists_left_of_forall₂ hmoves hr')
  · exact .inr (hnew r' hr')

lemma forall₂_trans (hR : ∀ a b c, R a b → R b c → R a c) {l₁ l₂ l₃ : List α}
    (h : List.Forall₂ R l₁ l₂) (h' : List.Forall₂ R l₂ l₃) : List.Forall₂ R l₁ l₃ := by
  induction h generalizing l₃ with
  | nil =>
    cases h'
    exact .nil
  | cons hab _ ih =>
    cases h' with
    | cons hbc hrest => exact .cons (hR _ _ _ hab hbc) (ih hrest)

/-- Two transactions in a row, where a move leaves a new row new. -/
lemma Moves.trans (hR : ∀ a b c, R a b → R b c → R a c) (hN : ∀ a b, N a → R a b → N b)
    (h : Moves R N rows rows') (h' : Moves R N rows' rows'') : Moves R N rows rows'' := by
  obtain ⟨kept, new, hmoves, rfl, hnew⟩ := h
  obtain ⟨kept', new', hmoves', rfl, hnew'⟩ := h'
  -- the rows that were new after the first transaction are the last of the second
  have hfirst := (List.forall₂_take_append _ _ _ hmoves'.flip).flip
  have hsecond := (List.forall₂_drop_append _ _ _ hmoves'.flip).flip
  refine ⟨_, kept'.drop kept.length ++ new', forall₂_trans hR hmoves hfirst, ?_, fun r hr => ?_⟩
  · rw [← List.append_assoc, List.take_append_drop]
  rcases List.mem_append.mp hr with hr | hr
  · obtain ⟨a, ha, hmove⟩ := exists_left_of_forall₂ hsecond hr
    exact hN a r (hnew a ha) hmove
  · exact hnew' r hr

end Inari.Lib
