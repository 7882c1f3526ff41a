import Mathlib

/-!
# Stripping text, and its words

`strip` and `trim`, with the class of spaces as a parameter, and the words of a text.
-/

namespace Inari.Lib

/-- The text without leading and trailing characters of the class. -/
def strip (space : Char → Bool) (s : String) : String :=
  String.ofList ((s.toList.dropWhile space).rdropWhile space)

lemma strip_of_forall {space : Char → Bool} {s : String} (h : ∀ c ∈ s.toList, space c = false) :
    strip space s = s := by
  have hdrop : s.toList.dropWhile space = s.toList := by
    rw [List.dropWhile_eq_self_iff]
    intro hl
    simp [h _ (List.getElem_mem hl)]
  have hrdrop : s.toList.rdropWhile space = s.toList := by
    rw [List.rdropWhile_eq_self_iff]
    intro hl
    simp [h _ (List.getLast_mem hl)]
  rw [strip, hdrop, hrdrop, String.ofList_toList]

lemma length_le_utf8ByteSize (s : String) : s.length ≤ s.utf8ByteSize := by
  induction s using String.push_induction with
  | empty => simp
  | push s c =>
    have hc := c.utf8Size_pos
    rw [String.length_push, String.utf8ByteSize_push]
    omega

section Words

variable {α : Type} {member : α → Bool} {x c d : α} {l : List α}

/-- The list with every longest run of non-members replaced by the mark. -/
def replaceRuns (member : α → Bool) (x : α) : Bool → List α → List α
  | _, [] => []
  | within, c :: cs =>
    if member c then c :: replaceRuns member x false cs
    else if within then replaceRuns member x true cs
    else x :: replaceRuns member x true cs

/-- The longest runs of members. -/
def words (member : α → Bool) (l : List α) : List (List α) :=
  (l.splitOnP (fun c => !member c)).filter (fun w => !w.isEmpty)

lemma words_cons_of_not (hc : member c = false) : words member (c :: l) = words member l := by
  simp [words, List.splitOnP_cons_eq_if_modifyHead, hc]

lemma words_cons_of_end (hc : member c = true) (hl : ∀ d ∈ l.head?, member d = false) :
    words member (c :: l) = [c] :: words member l := by
  cases l with
  | nil => simp [words, List.splitOnP_cons_eq_if_modifyHead, hc]
  | cons d =>
    have hd : member d = false := hl d rfl
    simp [words, List.splitOnP_cons_eq_if_modifyHead, hc, hd]

lemma words_cons_cons (hc : member c = true) (hd : member d = true) :
    ∃ w ws, words member (d :: l) = w :: ws ∧ words member (c :: d :: l) = (c :: w) :: ws := by
  obtain ⟨w, ws, hsplit⟩ : ∃ w ws, l.splitOnP (fun c => !member c) = w :: ws :=
    List.exists_cons_of_ne_nil (List.splitOnP_ne_nil _ _)
  refine ⟨d :: w, ws.filter (fun w => !w.isEmpty), ?_, ?_⟩
  · simp [words, List.splitOnP_cons_eq_if_modifyHead, hd, hsplit]
  · simp [words, List.splitOnP_cons_eq_if_modifyHead, hc, hd, hsplit]

lemma intercalate_words_eq_nil : [x].intercalate (words member l) = [] ↔ words member l = [] := by
  constructor
  · intro h
    cases hw : words member l with
    | nil => rfl
    | cons w ws =>
      have hne : w ≠ [] := by
        have hmem : w ∈ words member l := by rw [hw]; exact List.mem_cons_self
        simpa [words] using (List.mem_filter.mp hmem).2
      rw [hw] at h
      cases ws with
      | nil => simp [hne] at h
      | cons => simp [List.intercalate_cons_cons] at h
  · intro h
    rw [h]
    rfl

lemma rdropWhile_cons (p : α → Bool) (c : α) (l : List α) : (c :: l).rdropWhile p =
    if l.rdropWhile p = [] then (if p c then [] else [c]) else c :: l.rdropWhile p := by
  simp only [List.rdropWhile, List.reverse_cons, List.dropWhile_append, List.reverse_eq_nil_iff,
    List.isEmpty_iff]
  split
  · simp only [List.dropWhile_cons, List.dropWhile_nil]
    split <;> rfl
  · simp

variable [BEq α] [LawfulBEq α]

lemma beq_eq_false_of_member (hx : member x = false) (hc : member c = true) : (c == x) = false := by
  rw [beq_eq_false_iff_ne]
  rintro rfl
  rw [hx] at hc
  cases hc

lemma rdropWhile_replaceRuns (hx : member x = false) (l : List α) :
    (replaceRuns member x true l).rdropWhile (· == x) = [x].intercalate (words member l) ∧
    (replaceRuns member x false l).rdropWhile (· == x) =
      if (∀ d ∈ l.head?, member d = true) ∨ words member l = [] then [x].intercalate (words member l)
      else x :: [x].intercalate (words member l) := by
  induction l with
  | nil => exact ⟨rfl, by simp [replaceRuns, words]⟩
  | cons c l ih =>
    obtain ⟨ihtrue, ihfalse⟩ := ih
    cases hc : member c with
    | false =>
      simp only [replaceRuns, hc, Bool.false_eq_true, if_false, if_true, words_cons_of_not hc,
        rdropWhile_cons, ihtrue, beq_self_eq_true, List.head?_cons, Option.mem_some_iff,
        forall_eq', false_or, intercalate_words_eq_nil, true_and]
      split
      · rw [‹words member l = []›]
        rfl
      · rfl
    | true =>
      have hjoin : c :: (replaceRuns member x false l).rdropWhile (· == x) =
          [x].intercalate (words member (c :: l)) := by
        rw [ihfalse]
        by_cases hl : ∀ d ∈ l.head?, member d = false
        · rw [words_cons_of_end hc hl]
          cases hw : words member l with
          | nil => simp
          | cons =>
            obtain ⟨d, l', rfl⟩ : ∃ d l', l = d :: l' :=
              List.exists_cons_of_ne_nil (by rintro rfl; cases hw)
            simp [hl d rfl, List.intercalate_cons_cons]
        · simp only [not_forall, Bool.not_eq_false] at hl
          obtain ⟨d, hd, hmember⟩ := hl
          obtain ⟨l', rfl⟩ := List.head?_eq_some_iff.mp hd
          obtain ⟨w, ws, hw, hcw⟩ := words_cons_cons (l := l') hc hmember
          rw [hcw, hw]
          cases ws with
          | nil => simp [hmember]
          | cons => simp [hmember, List.intercalate_cons_cons]
      have hkept : ∀ within, (replaceRuns member x within (c :: l)).rdropWhile (· == x) =
          [x].intercalate (words member (c :: l)) := by
        intro within
        rw [replaceRuns, if_pos hc, rdropWhile_cons, ← hjoin]
        split
        · rw [‹List.rdropWhile _ _ = []›]
          simp [beq_eq_false_of_member hx hc]
        · rfl
      exact ⟨hkept true, by rw [hkept false, if_pos (.inl (by simpa using hc))]⟩

lemma dropWhile_replaceRuns (hx : member x = false) (within : Bool) (l : List α) :
    (replaceRuns member x within l).dropWhile (· == x) = replaceRuns member x true l := by
  induction l generalizing within with
  | nil => rfl
  | cons c l ih =>
    cases hc : member c with
    | true => simp [replaceRuns, hc, beq_eq_false_of_member hx hc]
    | false => cases within <;> simp [replaceRuns, hc, ih]

lemma strip_replaceRuns {member : Char → Bool} {x : Char} (hx : member x = false) (l : List Char) :
    (strip (· == x) (String.ofList (replaceRuns member x false l))).toList =
      [x].intercalate (words member l) := by
  rw [strip, String.toList_ofList, String.toList_ofList, dropWhile_replaceRuns hx,
    (rdropWhile_replaceRuns hx l).1]

end Words

end Inari.Lib
