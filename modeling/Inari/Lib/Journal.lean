import Mathlib

/-!
# Versioned records with an append-only journal

Each record has a current version and a journal to which every version is appended.
-/

namespace Inari.Lib

structure Entry (κ σ : Type) where
  key : κ
  version : Nat
  value : σ

structure Journal (κ σ : Type) where
  heads : List (Entry κ σ)
  log : List (Entry κ σ)

namespace Journal

variable {κ σ : Type} [DecidableEq κ] {start : σ → Prop} {next : σ → σ → Prop}

def history (j : Journal κ σ) (k : κ) : List (Entry κ σ) :=
  j.log.filter (fun e => decide (e.key = k))

def create (j : Journal κ σ) (k : κ) (s : σ) : Journal κ σ :=
  ⟨j.heads ++ [⟨k, 1, s⟩], j.log ++ [⟨k, 1, s⟩]⟩

def advance (j : Journal κ σ) (h : Entry κ σ) (s : σ) : Journal κ σ :=
  ⟨j.heads.map (fun x => if x.key = h.key then ⟨h.key, h.version + 1, s⟩ else x),
    j.log ++ [⟨h.key, h.version + 1, s⟩]⟩

inductive Step (start : σ → Prop) (next : σ → σ → Prop) : Journal κ σ → Journal κ σ → Prop
  | create (j : Journal κ σ) (k : κ) (s : σ) (hfresh : ∀ h ∈ j.heads, h.key ≠ k)
      (hs : start s) : Step start next j (j.create k s)
  | advance (j : Journal κ σ) (h : Entry κ σ) (s : σ) (hmem : h ∈ j.heads)
      (hn : next h.value s) : Step start next j (j.advance h s)

abbrev Steps (start : σ → Prop) (next : σ → σ → Prop) : Journal κ σ → Journal κ σ → Prop :=
  Relation.ReflTransGen (Step start next)

/-- Every head is the last of its entries, whose versions are `1, 2, ..` and whose values follow
`next`. -/
structure Consistent (start : σ → Prop) (next : σ → σ → Prop) (j : Journal κ σ) : Prop where
  keys : (j.heads.map Entry.key).Nodup
  logged : ∀ e ∈ j.log, ∃ h ∈ j.heads, h.key = e.key
  versions : ∀ h ∈ j.heads, (j.history h.key).map Entry.version = List.range' 1 h.version
  last : ∀ h ∈ j.heads, (j.history h.key).getLast? = some h
  chained : ∀ h ∈ j.heads, (j.history h.key).IsChain (fun a b => next a.value b.value)
  started : ∀ h ∈ j.heads, ∀ e, (j.history h.key).head? = some e → start e.value

lemma history_append_self (j : Journal κ σ) (hs : List (Entry κ σ)) (e : Entry κ σ) :
    (⟨hs, j.log ++ [e]⟩ : Journal κ σ).history e.key = j.history e.key ++ [e] := by
  simp [history]

variable {e h x : Entry κ σ} {k : κ} {j j' : Journal κ σ} {s : σ}

lemma history_append_ne (j : Journal κ σ) (hs : List (Entry κ σ)) (hk : e.key ≠ k) :
    (⟨hs, j.log ++ [e]⟩ : Journal κ σ).history k = j.history k := by
  simp [history, hk]

lemma history_create_self (j : Journal κ σ) (k : κ) (s : σ) :
    (j.create k s).history k = j.history k ++ [⟨k, 1, s⟩] :=
  history_append_self j _ ⟨k, 1, s⟩

lemma history_create_ne (j : Journal κ σ) {k' : κ} (s : σ) (h : k ≠ k') :
    (j.create k s).history k' = j.history k' :=
  history_append_ne j _ (e := ⟨k, 1, s⟩) h

lemma history_advance_self (j : Journal κ σ) (h : Entry κ σ) (s : σ) :
    (j.advance h s).history h.key = j.history h.key ++ [⟨h.key, h.version + 1, s⟩] :=
  history_append_self j _ ⟨h.key, h.version + 1, s⟩

lemma history_advance_ne (j : Journal κ σ) (h : Entry κ σ) (s : σ) (hk : h.key ≠ k) :
    (j.advance h s).history k = j.history k :=
  history_append_ne j _ (e := ⟨h.key, h.version + 1, s⟩) hk

lemma keys_advance (j : Journal κ σ) (h : Entry κ σ) (s : σ) :
    (j.advance h s).heads.map Entry.key = j.heads.map Entry.key := by
  simp only [advance, List.map_map]
  apply List.map_congr_left
  intro x _
  by_cases hx : x.key = h.key <;> simp [hx]

lemma mem_heads_advance (hmem : h ∈ j.heads) :
    x ∈ (j.advance h s).heads ↔
      x = ⟨h.key, h.version + 1, s⟩ ∨ (x ∈ j.heads ∧ x.key ≠ h.key) := by
  simp only [advance, List.mem_map]
  constructor
  · rintro ⟨y, hy, rfl⟩
    by_cases hk : y.key = h.key
    · simp [hk]
    · right; simpa [hk] using hy
  · rintro (rfl | ⟨hx, hk⟩)
    · exact ⟨h, hmem, by simp⟩
    · exact ⟨x, hx, by simp [hk]⟩

lemma history_eq_nil_of_fresh (hj : j.Consistent start next) (hfresh : ∀ h ∈ j.heads, h.key ≠ k) :
    j.history k = [] := by
  rw [history, List.filter_eq_nil_iff]
  intro e he hk
  obtain ⟨h, hh, hke⟩ := hj.logged e he
  exact hfresh h hh (hke.trans (by simpa using hk))

lemma head_unique (hj : j.Consistent start next) {a b : Entry κ σ} (ha : a ∈ j.heads)
    (hb : b ∈ j.heads) (hk : a.key = b.key) : a = b :=
  List.inj_on_of_nodup_map hj.keys ha hb hk

omit [DecidableEq κ] in
lemma consistent_nil [DecidableEq κ] : (⟨[], []⟩ : Journal κ σ).Consistent start next := by
  constructor <;> simp

lemma Consistent.create (hj : j.Consistent start next) (hfresh : ∀ h ∈ j.heads, h.key ≠ k)
    (hs : start s) : (j.create k s).Consistent start next := by
  have hnil := history_eq_nil_of_fresh hj hfresh
  have hself : (j.create k s).history k = [⟨k, 1, s⟩] := by
    rw [history_create_self, hnil, List.nil_append]
  have hold : ∀ h ∈ j.heads, (j.create k s).history h.key = j.history h.key :=
    fun h hh => history_create_ne j s (hfresh h hh).symm
  -- every head is an old one with its old history, or the new one with a single entry
  have cases : ∀ h ∈ (j.create k s).heads, h ∈ j.heads ∨ h = ⟨k, 1, s⟩ := by
    intro h hh
    simpa [Journal.create] using hh
  refine ⟨?_, ?_, ?_, ?_, ?_, ?_⟩
  · simp only [Journal.create, List.map_append, List.map_cons, List.map_nil]
    rw [List.nodup_append]
    refine ⟨hj.keys, by simp, ?_⟩
    intro a ha b hb
    obtain ⟨h, hh, rfl⟩ := List.mem_map.mp ha
    simp only [List.mem_singleton] at hb
    exact hb ▸ hfresh h hh
  · intro e he
    simp only [Journal.create, List.mem_append, List.mem_singleton] at he
    rcases he with he | rfl
    · obtain ⟨h, hh, hk⟩ := hj.logged e he
      exact ⟨h, by simp [Journal.create, hh], hk⟩
    · exact ⟨⟨k, 1, s⟩, by simp [Journal.create], rfl⟩
  · intro h hh
    rcases cases h hh with hh | rfl
    · rw [hold h hh]; exact hj.versions h hh
    · rw [hself]; rfl
  · intro h hh
    rcases cases h hh with hh | rfl
    · rw [hold h hh]; exact hj.last h hh
    · rw [hself]; rfl
  · intro h hh
    rcases cases h hh with hh | rfl
    · rw [hold h hh]; exact hj.chained h hh
    · rw [hself]; exact List.isChain_singleton _
  · intro h hh e he
    rcases cases h hh with hh | rfl
    · rw [hold h hh] at he; exact hj.started h hh e he
    · rw [hself] at he
      simp only [List.head?_cons, Option.some.injEq] at he
      exact he ▸ hs

lemma Consistent.advance (hj : j.Consistent start next) (hmem : h ∈ j.heads) (hn : next h.value s) :
    (j.advance h s).Consistent start next := by
  have hlast := hj.last h hmem
  have hold : ∀ x ∈ j.heads, x.key ≠ h.key → (j.advance h s).history x.key = j.history x.key :=
    fun x _ hk => history_advance_ne j h s hk.symm
  refine ⟨?_, ?_, ?_, ?_, ?_, ?_⟩
  · rw [keys_advance]; exact hj.keys
  · intro e he
    simp only [Journal.advance, List.mem_append, List.mem_singleton] at he
    have hnew := (mem_heads_advance (s := s) hmem).mpr (.inl rfl)
    rcases he with he | rfl
    · obtain ⟨x, hx, hk⟩ := hj.logged e he
      by_cases hxh : x.key = h.key
      · exact ⟨_, hnew, hxh.symm.trans hk⟩
      · exact ⟨x, (mem_heads_advance hmem).mpr (.inr ⟨hx, hxh⟩), hk⟩
    · exact ⟨_, hnew, rfl⟩
  · intro x hx
    rcases (mem_heads_advance hmem).mp hx with rfl | ⟨hx, hk⟩
    · rw [history_advance_self, List.map_append, hj.versions h hmem]
      simp [List.range'_concat, Nat.add_comm]
    · rw [hold x hx hk]; exact hj.versions x hx
  · intro x hx
    rcases (mem_heads_advance hmem).mp hx with rfl | ⟨hx, hk⟩
    · rw [history_advance_self]; simp
    · rw [hold x hx hk]; exact hj.last x hx
  · intro x hx
    rcases (mem_heads_advance hmem).mp hx with rfl | ⟨hx, hk⟩
    · rw [history_advance_self, List.isChain_append]
      refine ⟨hj.chained h hmem, List.isChain_singleton _, ?_⟩
      intro a ha b hb
      rw [hlast] at ha
      simp only [Option.mem_def, Option.some.injEq, List.head?_cons] at ha hb
      exact ha ▸ hb ▸ hn
    · rw [hold x hx hk]; exact hj.chained x hx
  · intro x hx e he
    rcases (mem_heads_advance hmem).mp hx with rfl | ⟨hx, hk⟩
    · have hne : j.history h.key ≠ [] := by
        intro h0
        simp [h0] at hlast
      rw [history_advance_self, List.head?_append_of_ne_nil _ hne] at he
      exact hj.started h hmem e he
    · rw [hold x hx hk] at he; exact hj.started x hx e he

lemma Consistent.step (hj : j.Consistent start next) (h : Step start next j j') :
    j'.Consistent start next := by
  cases h with
  | create k s hfresh hs => exact hj.create hfresh hs
  | advance h s hmem hn => exact hj.advance hmem hn

theorem Consistent.steps (hj : j.Consistent start next) (h : Steps start next j j') :
    j'.Consistent start next := by
  induction h with
  | refl => exact hj
  | tail _ hstep ih => exact ih.step hstep

lemma Steps.log_subset (h : Steps start next j j') : j.log ⊆ j'.log := by
  induction h with
  | refl => exact List.Subset.refl _
  | tail _ hstep ih =>
    refine List.Subset.trans ih ?_
    cases hstep with
    | create => exact List.subset_append_left _ _
    | advance => exact List.subset_append_left _ _

lemma Consistent.eq_head (hj : j.Consistent start next) (he : e ∈ j.log) (hh : h ∈ j.heads)
    (hk : e.key = h.key) (hv : e.version = h.version) : e = h := by
  have hnodup : ((j.history h.key).map Entry.version).Nodup := by
    rw [hj.versions h hh]; exact List.nodup_range'
  have hmem : e ∈ j.history h.key := by simp [history, he, hk]
  exact List.inj_on_of_nodup_map hnodup hmem (List.mem_of_getLast? (hj.last h hh)) hv

/-- A property of start values that `next` preserves holds of every journal entry. -/
theorem Consistent.forall_history {P : σ → Prop} (hstart : ∀ s, start s → P s)
    (hnext : ∀ s s', P s → next s s' → P s') (hj : j.Consistent start next) (hh : h ∈ j.heads)
    (he : e ∈ j.history h.key) : P e.value := by
  refine (hj.chained h hh).induction (fun a => P a.value) _ (fun a b hab ha => hnext _ _ ha hab)
    (fun hne => hstart _ (hj.started h hh _ (List.head?_eq_some_head hne))) e he

/-- A record whose value cannot advance keeps its head and its history. -/
theorem Step.final (hj : j.Consistent start next) (h : Step start next j j') (hx : x ∈ j.heads)
    (hfinal : ∀ s, ¬next x.value s) : x ∈ j'.heads ∧ j'.history x.key = j.history x.key := by
  cases h with
  | create k s hfresh =>
    exact ⟨by simp [Journal.create, hx], history_create_ne j s (hfresh x hx).symm⟩
  | advance h s hmem hn =>
    have hk : x.key ≠ h.key := by
      intro hk
      have := head_unique hj hx hmem hk
      exact hfinal s (this ▸ hn)
    exact ⟨(mem_heads_advance hmem).mpr (.inr ⟨hx, hk⟩), history_advance_ne j h s hk.symm⟩

theorem Steps.final (hj : j.Consistent start next) (h : Steps start next j j') (hx : x ∈ j.heads)
    (hfinal : ∀ s, ¬next x.value s) : x ∈ j'.heads ∧ j'.history x.key = j.history x.key := by
  induction h with
  | refl => exact ⟨hx, rfl⟩
  | tail hsteps hstep ih =>
    have h' := Step.final (hj.steps hsteps) hstep ih.1 hfinal
    exact ⟨h'.1, h'.2.trans ih.2⟩

/-- A record that has left `A` stays out of `A` when no advance enters it. -/
theorem Steps.avoids {A : σ → Prop} (hA : ∀ s s', next s s' → ¬A s') (h : Steps start next j j')
    (hk : ∃ x ∈ j.heads, x.key = k) (hnot : ∀ x ∈ j.heads, x.key = k → ¬A x.value) :
    (∃ x ∈ j'.heads, x.key = k) ∧ ∀ x ∈ j'.heads, x.key = k → ¬A x.value := by
  induction h with
  | refl => exact ⟨hk, hnot⟩
  | tail _ hstep ih =>
    obtain ⟨⟨y, hy, hyk⟩, hnot⟩ := ih
    cases hstep with
    | create k' s hfresh =>
      refine ⟨⟨y, by simp [Journal.create, hy], hyk⟩, ?_⟩
      intro x hx hxk
      simp only [Journal.create, List.mem_append, List.mem_singleton] at hx
      rcases hx with hx | rfl
      · exact hnot x hx hxk
      · exact absurd (hyk.trans hxk.symm) (hfresh y hy)
    | advance h s hmem hn =>
      refine ⟨?_, ?_⟩
      · by_cases hyh : y.key = h.key
        · exact ⟨_, (mem_heads_advance hmem).mpr (.inl rfl), hyh.symm.trans hyk⟩
        · exact ⟨y, (mem_heads_advance hmem).mpr (.inr ⟨hy, hyh⟩), hyk⟩
      · intro x hx hxk
        rcases (mem_heads_advance hmem).mp hx with rfl | ⟨hx, _⟩
        · exact hA _ _ hn
        · exact hnot x hx hxk

end Journal

end Inari.Lib
