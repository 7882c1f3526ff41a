import Inari.Lib.Except
import Inari.Lib.Run

/-!
# Interleaved procedures over a shared store

A procedure reaches a shared store through named atomic operations; between two of them any others
may run.
-/

namespace Inari.Lib

/-- The operations of a shared store and the type of each one's answer. -/
structure Interface where
  Op : Type
  Answer : Op → Type

/-- An operation that was performed, with its answer. -/
abbrev Access (I : Interface) : Type := (op : I.Op) × I.Answer op

inductive Proc (I : Interface) (ε α : Type) : Type
  | done (result : Except ε α)
  | call (op : I.Op) (next : I.Answer op → Proc I ε α)

variable {I : Interface} {ε α β : Type}

namespace Proc

def bind (p : Proc I ε α) (f : α → Proc I ε β) : Proc I ε β :=
  match p with
  | .done (.ok a) => f a
  | .done (.error e) => .done (.error e)
  | .call op next => .call op (fun answer => (next answer).bind f)

/-- `try`: a failure of the first procedure is handled by the second. -/
def handle (p : Proc I ε α) (f : ε → Proc I ε α) : Proc I ε α :=
  match p with
  | .done (.ok a) => .done (.ok a)
  | .done (.error e) => f e
  | .call op next => .call op (fun answer => (next answer).handle f)

instance : Monad (Proc I ε) where
  pure a := .done (.ok a)
  bind := bind

instance : MonadExcept ε (Proc I ε) where
  throw e := .done (.error e)
  tryCatch := handle

/-- The procedure of one operation that may raise. -/
def attempt (op : I.Op) (raises : I.Answer op → Except ε α) : Proc I ε α :=
  .call op (fun answer => .done (raises answer))

/-- After the trace, every operation satisfies `P` and its result `Q`. -/
def Obeys (P : List (Access I) → I.Op → Prop) (Q : List (Access I) → Except ε α → Prop) :
    List (Access I) → Proc I ε α → Prop
  | trace, .done result => Q trace result
  | trace, .call op next =>
    P trace op ∧ ∀ answer, Obeys P Q (trace ++ [⟨op, answer⟩]) (next answer)

section Obeys

variable {P : List (Access I) → I.Op → Prop} {Q : List (Access I) → Except ε β → Prop}
  {trace : List (Access I)}

lemma obeys_bind {p : Proc I ε α} {f : α → Proc I ε β} :
    Obeys P Q trace (p >>= f) ↔
      Obeys P (fun trace result => match result with
        | .ok a => Obeys P Q trace (f a)
        | .error e => Q trace (.error e)) trace p := by
  induction p generalizing trace with
  | done result => cases result <;> rfl
  | call op next ih => exact and_congr_right (fun _ => forall_congr' (fun answer => ih answer))

lemma Obeys.mono {P' : List (Access I) → I.Op → Prop} {Q' : List (Access I) → Except ε β → Prop}
    {p : Proc I ε β} (h : Obeys P Q trace p) (hP : ∀ trace op, P trace op → P' trace op)
    (hQ : ∀ trace result, Q trace result → Q' trace result) : Obeys P' Q' trace p := by
  induction p generalizing trace with
  | done result => exact hQ trace result h
  | call op next ih => exact ⟨hP trace op h.1, fun answer => ih answer (h.2 answer)⟩

end Obeys

def Uses (allowed : I.Op → Prop) : Proc I ε α → Prop
  | .done _ => True
  | .call op next => allowed op ∧ ∀ answer, Uses allowed (next answer)

section Uses

variable {allowed : I.Op → Prop}

lemma uses_attempt {op : I.Op} {raises : I.Answer op → Except ε α} (h : allowed op) :
    Uses allowed (attempt op raises) :=
  ⟨h, fun _ => trivial⟩

variable {p : Proc I ε α}

lemma Uses.bind {f : α → Proc I ε β} (hp : Uses allowed p) (hf : ∀ a, Uses allowed (f a)) :
    Uses allowed (p >>= f) := by
  induction p with
  | done result =>
    cases result with
    | ok a => exact hf a
    | error => trivial
  | call op next ih => exact ⟨hp.1, fun answer => ih answer (hp.2 answer)⟩

lemma Uses.keeps {T : List (Access I) → Prop} {trace : List (Access I)} (h : Uses allowed p)
    (htrace : T trace) (hop : ∀ trace op answer, allowed op → T trace → T (trace ++ [⟨op, answer⟩])) :
    Obeys (fun trace op => T trace ∧ allowed op) (fun trace _ => T trace) trace p := by
  induction p generalizing trace with
  | done => exact htrace
  | call op next ih =>
    exact ⟨⟨htrace, h.1⟩, fun answer => ih answer (h.2 answer) (hop trace op answer h.1 htrace)⟩

end Uses

end Proc

variable {σ ι ρ : Type}

/-- A call with the accesses it has made and what is left of it. -/
structure Call (I : Interface) (ρ ε α : Type) where
  request : ρ
  trace : List (Access I)
  rest : Proc I ε α

structure System (σ : Type) (I : Interface) (ρ ε α : Type) where
  store : σ
  calls : List (Call I ρ ε α)

namespace System

def pending (s : System σ I ρ ε α) (k : Nat) : Option I.Op :=
  match s.calls[k]? with
  | some ⟨_, _, .call op _⟩ => some op
  | _ => none

def result (s : System σ I ρ ε α) (k : Nat) : Option (Except ε α) :=
  match s.calls[k]? with
  | some ⟨_, _, .done result⟩ => some result
  | _ => none

def trace (s : System σ I ρ ε α) (k : Nat) : List (Access I) := (s.calls[k]?.map Call.trace).getD []

variable {s : System σ I ρ ε α} {k : Nat}

lemma trace_of_call {c : Call I ρ ε α} (hc : s.calls[k]? = some c) : s.trace k = c.trace := by
  simp [trace, hc]

lemma exists_call_of_pending {op : I.Op} (h : s.pending k = some op) :
    ∃ c next, s.calls[k]? = some c ∧ c.rest = .call op next := by
  unfold pending at h
  split at h
  · rename_i r trace op' next hc
    cases h
    exact ⟨_, next, hc, rfl⟩
  · cases h

lemma exists_call_of_result {r : Except ε α} (h : s.result k = some r) :
    ∃ c, s.calls[k]? = some c ∧ c.rest = .done r := by
  unfold result at h
  split at h
  · rename_i r' trace result hc
    cases h
    exact ⟨_, hc, rfl⟩
  · cases h

end System

/-- A call begins, or performs its next operation with an input from outside the store. -/
inductive CallEvent (ρ ι : Type)
  | start (request : ρ)
  | resume (call : Nat) (input : ι)

structure Service (I : Interface) (σ ι ρ ε α : Type) where
  body : ρ → Proc I ε α
  exec : (op : I.Op) → σ → ι → σ × I.Answer op

namespace Service

variable (S : Service I σ ι ρ ε α)

def step (s : System σ I ρ ε α) : CallEvent ρ ι → System σ I ρ ε α × Option (Access I)
  | .start request => (⟨s.store, s.calls ++ [⟨request, [], S.body request⟩]⟩, none)
  | .resume k input =>
    match s.calls[k]? with
    | some ⟨request, trace, .call op next⟩ =>
      let (store, answer) := S.exec op s.store input
      (⟨store, s.calls.set k ⟨request, trace ++ [⟨op, answer⟩], next answer⟩⟩, some ⟨op, answer⟩)
    | _ => (s, none)

variable {S}

lemma step_of_pending {s : System σ I ρ ε α} {k : Nat} {op : I.Op}
    {next : I.Answer op → Proc I ε α} {c : Call I ρ ε α} (hc : s.calls[k]? = some c)
    (hrest : c.rest = .call op next) (input : ι) :
    (S.step s (.resume k input)).1 = ⟨(S.exec op s.store input).1, s.calls.set k
      ⟨c.request, c.trace ++ [⟨op, (S.exec op s.store input).2⟩],
        next (S.exec op s.store input).2⟩⟩ := by
  obtain ⟨request, trace, rest⟩ := c
  subst hrest
  simp only [step, hc]

/-- What a step does: nothing, a new call, or one access of one call. -/
lemma step_cases (s : System σ I ρ ε α) (e : CallEvent ρ ι) :
    (∃ k input, e = .resume k input ∧ s.pending k = none ∧ (S.step s e).1 = s) ∨
    (∃ request, e = .start request ∧
      (S.step s e).1 = ⟨s.store, s.calls ++ [⟨request, [], S.body request⟩]⟩) ∨
    ∃ k input c op next, e = .resume k input ∧ s.calls[k]? = some c ∧ c.rest = .call op next ∧
      s.pending k = some op ∧
      (S.step s e).1 = ⟨(S.exec op s.store input).1, s.calls.set k
        ⟨c.request, c.trace ++ [⟨op, (S.exec op s.store input).2⟩],
          next (S.exec op s.store input).2⟩⟩ := by
  cases e with
  | start request => exact .inr (.inl ⟨request, rfl, rfl⟩)
  | resume k input =>
    cases hp : s.pending k with
    | none =>
      refine .inl ⟨k, input, rfl, hp, ?_⟩
      unfold System.pending at hp
      split at hp
      · cases hp
      · simp only [step]
    | some op =>
      obtain ⟨c, next, hc, hrest⟩ := System.exists_call_of_pending hp
      exact .inr (.inr ⟨k, input, c, op, next, rfl, hc, hrest, hp,
        step_of_pending hc hrest input⟩)

section Rules

variable {ok : System σ I ρ ε α → CallEvent ρ ι → Prop}

/-- Every call does what the procedure of its request does. -/
def CallsObey (P : ρ → List (Access I) → I.Op → Prop)
    (Q : ρ → List (Access I) → Except ε α → Prop) (s : System σ I ρ ε α) : Prop :=
  ∀ (k : Nat) (c : Call I ρ ε α), s.calls[k]? = some c →
    c.rest.Obeys (P c.request) (Q c.request) c.trace

variable {P : ρ → List (Access I) → I.Op → Prop} {Q : ρ → List (Access I) → Except ε α → Prop}
  {s : System σ I ρ ε α} {k : Nat}

lemma CallsObey.step (hbody : ∀ request, (S.body request).Obeys (P request) (Q request) [])
    (h : CallsObey P Q s) (e : CallEvent ρ ι) : CallsObey P Q (S.step s e).1 := by
  rcases step_cases (S := S) s e with ⟨-, -, -, -, hs⟩ | ⟨request, -, hs⟩ |
    ⟨k, input, c, op, next, -, hc, hrest, -, hs⟩
  · rw [hs]; exact h
  · rw [hs]
    intro k c hc
    rw [List.getElem?_append] at hc
    split at hc
    · exact h k c hc
    · rw [List.getElem?_singleton] at hc
      split at hc
      · cases hc; exact hbody request
      · cases hc
  · rw [hs]
    intro k' c' hc'
    rw [List.getElem?_set] at hc'
    split at hc'
    · split at hc'
      · cases hc'
        have hobeys := h k c hc
        rw [hrest] at hobeys
        exact hobeys.2 _
      · cases hc'
    · exact h k' c' hc'

lemma CallsObey.pending (h : CallsObey P Q s) {op : I.Op} (hp : s.pending k = some op) :
    ∃ c, s.calls[k]? = some c ∧ P c.request c.trace op := by
  obtain ⟨c, next, hc, hrest⟩ := System.exists_call_of_pending hp
  have hobeys := h k c hc
  rw [hrest] at hobeys
  exact ⟨c, hc, hobeys.1⟩

lemma CallsObey.result (h : CallsObey P Q s) {r : Except ε α} (hr : s.result k = some r) :
    ∃ c, s.calls[k]? = some c ∧ Q c.request c.trace r := by
  obtain ⟨c, hc, hrest⟩ := System.exists_call_of_result hr
  have hobeys := h k c hc
  rw [hrest] at hobeys
  exact ⟨c, hc, hobeys⟩

variable {F : Nat → Access I → σ → Prop}

lemma output_cases (s : System σ I ρ ε α) (e : CallEvent ρ ι) :
    ((S.step s e).2 = none ∧ (S.step s e).1.store = s.store ∧
      ∀ k, (S.step s e).1.trace k = s.trace k) ∨
    ∃ k input c op, e = .resume k input ∧ s.calls[k]? = some c ∧ s.pending k = some op ∧
      s.trace k = c.trace ∧ (S.step s e).2 = some ⟨op, (S.exec op s.store input).2⟩ ∧
      (S.step s e).1.store = (S.exec op s.store input).1 ∧
      (S.step s e).1.trace k = s.trace k ++ [⟨op, (S.exec op s.store input).2⟩] ∧
      ∀ k', k' ≠ k → (S.step s e).1.trace k' = s.trace k' := by
  cases e with
  | start =>
    refine .inl ⟨rfl, rfl, fun k => ?_⟩
    simp only [step, System.trace, List.getElem?_append]
    split
    · rfl
    · rename_i hk
      rw [List.getElem?_eq_none (Nat.le_of_not_lt hk), List.getElem?_singleton]
      split <;> rfl
  | resume k input =>
    cases hp : s.pending k with
    | none =>
      have hstep : S.step s (.resume k input) = (s, none) := by
        unfold System.pending at hp
        split at hp
        · cases hp
        · simp only [step]
      rw [hstep]
      exact .inl ⟨rfl, rfl, fun _ => rfl⟩
    | some op =>
      obtain ⟨⟨request, trace, rest⟩, next, hc, rfl⟩ := System.exists_call_of_pending hp
      have hlt : k < s.calls.length := (List.getElem?_eq_some_iff.mp hc).1
      refine .inr ⟨k, input, _, op, rfl, hc, hp, ?_, ?_, ?_, ?_, fun k' hk => ?_⟩
      · exact System.trace_of_call hc
      · simp only [step, hc]
      · simp only [step, hc]
      · simp [step, hc, System.trace, List.getElem?_set_self hlt]
      · simp only [step, hc, System.trace, List.getElem?_set_ne (Ne.symm hk)]

lemma access_cases (s : System σ I ρ ε α) (e : CallEvent ρ ι) :
    ((S.step s e).1.store = s.store ∧ ∀ k, (S.step s e).1.trace k = s.trace k) ∨
    ∃ k input c op, s.calls[k]? = some c ∧ s.pending k = some op ∧ s.trace k = c.trace ∧
      (S.step s e).1.store = (S.exec op s.store input).1 ∧
      (S.step s e).1.trace k = s.trace k ++ [⟨op, (S.exec op s.store input).2⟩] ∧
      ∀ k', k' ≠ k → (S.step s e).1.trace k' = s.trace k' := by
  rcases output_cases (S := S) s e with ⟨-, h⟩ |
    ⟨k, input, c, op, -, hc, hp, htrace, -, hstore, hself, hothers⟩
  · exact .inl h
  · exact .inr ⟨k, input, c, op, hc, hp, htrace, hstore, hself, hothers⟩

end Rules

end Service

end Inari.Lib
