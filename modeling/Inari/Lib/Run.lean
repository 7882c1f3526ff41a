import Mathlib

/-!
# Runs of a deterministic machine with outputs

A machine takes a state and an event to the next state and an output. What one step preserves is
carried to whole runs.
-/

namespace Inari.Lib

structure Recorded (ε ο σ : Type) where
  event : ε
  output : ο
  state : σ

variable {σ ε ο : Type} {step : σ → ε → σ × ο}

/-- The steps of a run, each with its event, its output and the state after it. -/
def run (step : σ → ε → σ × ο) (s : σ) : List ε → List (Recorded ε ο σ)
  | [] => []
  | e :: es => ⟨e, (step s e).2, (step s e).1⟩ :: run step (step s e).1 es

/-- Every event of the run meets the condition in the state it finds. -/
def RunOk (ok : σ → ε → Prop) (step : σ → ε → σ × ο) (s : σ) : List ε → Prop
  | [] => True
  | e :: es => ok s e ∧ RunOk ok step (step s e).1 es

instance decidableRunOk {ok : σ → ε → Prop} [∀ s e, Decidable (ok s e)] (s : σ) :
    (es : List ε) → Decidable (RunOk ok step s es)
  | [] => .isTrue trivial
  | e :: es =>
    have := @decidableRunOk ok _ (step s e).1 es
    inferInstanceAs (Decidable (ok s e ∧ RunOk ok step (step s e).1 es))

variable {s : σ} {es : List ε}

lemma runOk_of_forall {ok : ε → Prop} (h : ∀ e ∈ es, ok e) : RunOk (fun _ => ok) step s es := by
  induction es generalizing s with
  | nil => trivial
  | cons e es ih =>
    exact ⟨h e List.mem_cons_self, ih (fun e he => h e (List.mem_cons_of_mem _ he))⟩

def final (step : σ → ε → σ × ο) (s : σ) (es : List ε) : σ := es.foldl (fun s e => (step s e).1) s

@[simp] lemma final_nil (s : σ) : final step s [] = s := rfl

@[simp] lemma final_cons (s : σ) (e : ε) (es : List ε) :
    final step s (e :: es) = final step (step s e).1 es := rfl

lemma final_append (s : σ) (es es' : List ε) :
    final step s (es ++ es') = final step (final step s es) es' :=
  List.foldl_append

variable {ok : σ → ε → Prop} {I : σ → Prop}

lemma runOk_append {es' : List ε} :
    RunOk ok step s (es ++ es') ↔ RunOk ok step s es ∧ RunOk ok step (final step s es) es' := by
  induction es generalizing s with
  | nil => simp [RunOk]
  | cons e es ih => simp only [List.cons_append, RunOk, final_cons, ih, and_assoc]

lemma concat_eq_append {es' es'' : List ε} {e : ε} (h : es ++ [e] = es' ++ es'') :
    es'' = [] ∧ es' = es ++ [e] ∨ ∃ rest, es = es' ++ rest ∧ es'' = rest ++ [e] := by
  rcases List.eq_nil_or_concat es'' with rfl | ⟨rest, e', rfl⟩
  · rw [List.append_nil] at h
    exact .inl ⟨rfl, h.symm⟩
  · rw [List.concat_eq_append, ← List.append_assoc] at h
    obtain ⟨hes, he⟩ := List.append_inj' h rfl
    exact .inr ⟨rest, hes, by rw [List.concat_eq_append, he]⟩

lemma runOk_iff :
    RunOk ok step s es ↔
      ∀ earlier e later, es = earlier ++ e :: later → ok (final step s earlier) e := by
  induction es generalizing s with
  | nil => simp [RunOk]
  | cons e es ih =>
    rw [RunOk, ih]
    constructor
    · rintro ⟨hfirst, hrest⟩ earlier e' later h
      cases earlier with
      | nil =>
        obtain ⟨rfl, -⟩ := List.cons.inj h
        exact hfirst
      | cons a earlier =>
        obtain ⟨rfl, hes⟩ := List.cons.inj h
        exact hrest earlier e' later hes
    · intro h
      exact ⟨h [] e es rfl, fun earlier e' later hes => h (e :: earlier) e' later (by rw [hes]; rfl)⟩

theorem final_invariant (hstep : ∀ s e, I s → ok s e → I (step s e).1) (hs : I s)
    (hok : RunOk ok step s es) : I (final step s es) := by
  induction es generalizing s with
  | nil => exact hs
  | cons e es ih => exact ih (hstep s e hs hok.1) hok.2

theorem final_of_step (hstep : ∀ s e, I s → I (step s e).1) (hs : I s) (es : List ε) :
    I (final step s es) := by
  induction es generalizing s with
  | nil => exact hs
  | cons e es ih => exact ih (hstep s e hs)

/-- The property holds in every state of the run, the first one included. -/
def Always (I : σ → Prop) (step : σ → ε → σ × ο) (s : σ) (es : List ε) : Prop :=
  ∀ earlier later, es = earlier ++ later → I (final step s earlier)

lemma Always.start (h : Always I step s es) : I s := h [] es rfl

lemma always_cons {e : ε} : Always I step s (e :: es) ↔ I s ∧ Always I step (step s e).1 es := by
  constructor
  · intro h
    exact ⟨h.start, fun earlier later hes => h (e :: earlier) later (by rw [hes]; rfl)⟩
  · rintro ⟨hs, h⟩ earlier later heq
    cases earlier with
    | nil => exact hs
    | cons a earlier =>
      obtain ⟨rfl, hes⟩ := List.cons.inj heq
      exact h earlier later hes

/-- Every step is allowed and the property holds throughout exactly the runs that meet the
condition. -/
theorem runOk_always_iff {J : σ → Prop} {T : σ → ε → Prop} (hJ : ∀ s e, J s → J (step s e).1)
    (hstep : ∀ s e, J s → I s → (T s e ∧ I (step s e).1 ↔ ok s e)) (hs : J s) (hI : I s)
    (es : List ε) : RunOk T step s es ∧ Always I step s es ↔ RunOk ok step s es := by
  induction es generalizing s with
  | nil =>
    refine iff_of_true ⟨trivial, fun earlier later hes => ?_⟩ trivial
    obtain ⟨rfl, -⟩ := List.append_eq_nil_iff.mp hes.symm
    exact hI
  | cons e es ih =>
    rw [always_cons, RunOk, RunOk]
    constructor
    · rintro ⟨⟨hT, hrun⟩, -, h⟩
      exact ⟨(hstep s e hs hI).mp ⟨hT, h.start⟩, (ih (hJ s e hs) h.start).mp ⟨hrun, h⟩⟩
    · rintro ⟨hok, h⟩
      obtain ⟨hT, hnext⟩ := (hstep s e hs hI).mpr hok
      obtain ⟨hrun, halways⟩ := (ih (hJ s e hs) hnext).mpr h
      exact ⟨⟨hT, hrun⟩, hI, halways⟩

/-- The property holds in every state of exactly the runs whose steps all meet the condition. -/
theorem always_iff {J : σ → Prop} (hJ : ∀ s e, J s → J (step s e).1)
    (hstep : ∀ s e, J s → I s → (I (step s e).1 ↔ ok s e)) (hs : J s) (hI : I s) (es : List ε) :
    Always I step s es ↔ RunOk ok step s es := by
  rw [← runOk_always_iff (T := fun _ _ => True) hJ (by simpa using hstep) hs hI]
  exact ⟨fun h => ⟨runOk_of_forall (fun _ _ => trivial), h⟩, And.right⟩

theorem run_steps (hstep : ∀ s e, I s → ok s e → I (step s e).1) (hs : I s)
    (hok : RunOk ok step s es) :
    ∀ st ∈ run step s es, ∃ s', I s' ∧ ok s' st.event ∧ step s' st.event = (st.state, st.output) := by
  induction es generalizing s with
  | nil => simp [run]
  | cons e es ih =>
    intro st hst
    rw [run, List.mem_cons] at hst
    rcases hst with rfl | hst
    · exact ⟨s, hs, hok.1, rfl⟩
    · exact ih (hstep s e hs hok.1) hok.2 st hst

theorem run_invariant (hstep : ∀ s e, I s → ok s e → I (step s e).1) (hs : I s)
    (hok : RunOk ok step s es) : ∀ st ∈ run step s es, I st.state := by
  intro st hst
  obtain ⟨s', hs', hok', heq⟩ := run_steps hstep hs hok st hst
  have h := hstep s' st.event hs' hok'
  rw [heq] at h
  exact h

theorem run_pairwise {P : Recorded ε ο σ → Recorded ε ο σ → Prop}
    (hstep : ∀ s e, I s → ok s e → I (step s e).1)
    (hP : ∀ s e es, I s → ok s e → RunOk ok step (step s e).1 es →
      ∀ st ∈ run step (step s e).1 es, P ⟨e, (step s e).2, (step s e).1⟩ st) (hs : I s)
    (hok : RunOk ok step s es) : (run step s es).Pairwise P := by
  induction es generalizing s with
  | nil => exact List.Pairwise.nil
  | cons e es ih =>
    rw [run, List.pairwise_cons]
    exact ⟨hP s e es hs hok.1 hok.2, ih (hstep s e hs hok.1) hok.2⟩

end Inari.Lib
