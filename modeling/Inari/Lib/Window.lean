import Mathlib

/-!
# Sliding windows

A limiter drops the times older than its window and counts the rest, so as long as its clock does
not go back no window holds more than the bound.
-/

namespace Inari.Lib.Window

variable {α : Type} [AddCommGroup α] [LinearOrder α]

/-- How many of the times lie in the window of length `w` that begins at `start` -/
def count (w start : α) (times : List α) : Nat :=
  times.countP (fun t => decide (start ≤ t ∧ t ≤ start + w))

/-- What a limiter keeps that looks back from `now` -/
def recent (w now : α) (kept : List α) : List α := kept.filter (fun t => decide (now - w ≤ t))

structure Limited (w : α) (bound : Nat) (now : α) (times kept : List α) : Prop where
  nodup : times.Nodup
  past : ∀ t ∈ times, t ≤ now
  recent : ∀ t ∈ times, now - w ≤ t → t ∈ kept
  bounded : ∀ start, count w start times ≤ bound

variable {w now : α} {bound : Nat} {times kept : List α}

lemma Limited.nil (w : α) (bound : Nat) (now : α) (kept : List α) : Limited w bound now [] kept where
  nodup := List.nodup_nil
  past := fun _ h => nomatch h
  recent := fun _ h => nomatch h
  bounded := fun _ => Nat.zero_le _

/-- Dropping what is too old loses nothing that counts. -/
lemma Limited.drop (h : Limited w bound now times kept) :
    Limited w bound now times (Window.recent w now kept) where
  nodup := h.nodup
  past := h.past
  recent := fun t ht hold => List.mem_filter.mpr ⟨h.recent t ht hold, decide_eq_true hold⟩
  bounded := h.bounded

variable [IsOrderedAddMonoid α]

lemma Limited.later (h : Limited w bound now times kept) {now' : α} (hnow : now ≤ now') :
    Limited w bound now' times kept where
  nodup := h.nodup
  past := fun t ht => (h.past t ht).trans hnow
  recent := fun t ht hold => h.recent t ht ((sub_le_sub_right hnow w).trans hold)
  bounded := h.bounded

lemma Limited.count_le (h : Limited w bound now times kept) {start : α} (hstart : now ≤ start + w) :
    count w start times ≤ (Window.recent w now kept).length := by
  rw [count, List.countP_eq_length_filter]
  refine (List.subperm_of_subset (h.nodup.filter _) fun t ht => ?_).length_le
  obtain ⟨hmem, hin⟩ := List.mem_filter.mp ht
  have hold : now - w ≤ t := by
    rw [decide_eq_true_eq] at hin
    exact (sub_le_iff_le_add.mpr hstart).trans hin.1
  exact List.mem_filter.mpr ⟨h.recent t hmem hold, decide_eq_true hold⟩

/-- A time that is recorded while fewer than the bound are kept -/
lemma Limited.record (h : Limited w bound now times kept) (hw : 0 ≤ w) (hnew : now ∉ kept)
    (hroom : (Window.recent w now kept).length < bound) :
    Limited w bound now (times ++ [now]) (Window.recent w now kept ++ [now]) where
  nodup := by
    refine h.nodup.append (List.nodup_singleton now) ?_
    intro t ht hnow
    obtain rfl := List.mem_singleton.mp hnow
    exact hnew (h.recent t ht (sub_le_self t hw))
  past := by
    intro t ht
    rcases List.mem_append.mp ht with hold | hlast
    · exact h.past t hold
    · exact (List.mem_singleton.mp hlast).le
  recent := by
    intro t ht hold
    rcases List.mem_append.mp ht with hmem | hlast
    · exact List.mem_append_left _ (h.drop.recent t hmem hold)
    · exact List.mem_append_right _ hlast
  bounded := by
    intro start
    rw [count, List.countP_append]
    by_cases hin : start ≤ now ∧ now ≤ start + w
    · have hcount := h.count_le hin.2
      rw [count] at hcount
      rw [List.countP_singleton, if_pos (decide_eq_true hin)]
      omega
    · have hcount := h.bounded start
      rw [count] at hcount
      rw [List.countP_singleton, if_neg (by simpa using hin), Nat.add_zero]
      exact hcount

end Inari.Lib.Window
