import Mathlib

/-!
# Inverting computations that may raise

What a computation in `Except` did when it returned: the lemmas peel one step at a time.
-/

namespace Inari.Lib

variable {ε α β : Type} {x : Except ε α} {f : α → Except ε β} {b : β} {e : ε} {a : α} {l : List α}
  {bs : List β}

lemma bind_ok : (x >>= f) = .ok b ↔ ∃ a, x = .ok a ∧ f a = .ok b := by
  cases x with
  | error => simp [bind, Except.bind]
  | ok => simp [bind, Except.bind]

lemma bind_error : (x >>= f) = .error e ↔ x = .error e ∨ ∃ a, x = .ok a ∧ f a = .error e := by
  cases x with
  | error => simp [bind, Except.bind]
  | ok => simp [bind, Except.bind]

lemma pure_ok {b : α} : (pure a : Except ε α) = .ok b ↔ a = b := by
  simp [pure, Except.pure]

lemma map_ok {f : α → β} : x.map f = .ok b ↔ ∃ a, x = .ok a ∧ f a = b := by
  cases x with
  | error => simp [Except.map]
  | ok => simp [Except.map]

lemma map_error {f : α → β} : x.map f = .error e ↔ x = .error e := by
  cases x <;> simp [Except.map]

lemma mapError_ok {ε' : Type} {f : ε → ε'} : x.mapError f = .ok a ↔ x = .ok a := by
  cases x <;> simp [Except.mapError]

def require (c : Bool) (e : ε) : Except ε Unit := if c then .ok () else .error e

@[simp] lemma require_ok {c : Bool} {u : Unit} : require c e = .ok u ↔ c = true := by
  cases c <;> simp [require]

lemma require_error {c : Bool} {e' : ε} : require c e = .error e' ↔ c = false ∧ e = e' := by
  cases c <;> simp [require]

def orRaise (x : Option α) (e : ε) : Except ε α :=
  match x with
  | some a => .ok a
  | none => .error e

@[simp] lemma orRaise_ok {x : Option α} : orRaise x e = .ok a ↔ x = some a := by
  cases x <;> simp [orRaise]

/-- A loop that stops at the first failure returns when every step does. -/
lemma mapM_ok : l.mapM f = .ok bs ↔ List.Forall₂ (fun a b => f a = .ok b) l bs := by
  induction l generalizing bs with
  | nil =>
    rw [List.mapM_nil, pure_ok, List.forall₂_nil_left_iff]
    exact eq_comm
  | cons a l ih =>
    simp only [List.mapM_cons, bind_ok, pure_ok, List.forall₂_cons_left_iff]
    constructor
    · rintro ⟨b, hb, bs', hbs, rfl⟩
      exact ⟨b, bs', hb, ih.mp hbs, rfl⟩
    · rintro ⟨b, bs', hb, hbs, rfl⟩
      exact ⟨b, hb, bs', ih.mpr hbs, rfl⟩

lemma exists_left_of_forall₂ {r : α → β → Prop} (h : List.Forall₂ r l bs) (hb : b ∈ bs) :
    ∃ a ∈ l, r a b := by
  induction h with
  | nil => cases hb
  | cons hab _ ih =>
    rcases List.mem_cons.mp hb with rfl | hb
    · exact ⟨_, List.mem_cons_self, hab⟩
    · obtain ⟨a, ha, har⟩ := ih hb
      exact ⟨a, List.mem_cons_of_mem _ ha, har⟩

lemma exists_right_of_forall₂ {r : α → β → Prop} (h : List.Forall₂ r l bs) (ha : a ∈ l) :
    ∃ b ∈ bs, r a b :=
  exists_left_of_forall₂ h.flip ha

lemma exists_mapM_ok (h : ∀ a ∈ l, ∃ b, f a = .ok b) : ∃ bs, l.mapM f = .ok bs := by
  induction l with
  | nil => exact ⟨[], rfl⟩
  | cons a l ih =>
    obtain ⟨b, hb⟩ := h a List.mem_cons_self
    obtain ⟨bs, hbs⟩ := ih (fun a ha => h a (List.mem_cons_of_mem _ ha))
    exact ⟨b :: bs, mapM_ok.mpr (.cons hb (mapM_ok.mp hbs))⟩

end Inari.Lib
