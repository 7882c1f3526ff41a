import Mathlib

/-!
# Relational tables with declared constraints

A table is a list of rows that satisfies the checks and unique indexes of its schema. A write that
would break one raises.
-/

namespace Inari.Lib

/-- The failures a statement can raise besides those of the program itself. -/
class SqlError (ε : Type) where
  integrityError : ε
  noResultFound : ε

def selectOne {α ε : Type} [SqlError ε] (rows : List α) (p : α → Bool) : Except ε α :=
  match rows.filter p with
  | [r] => .ok r
  | _ => .error SqlError.noResultFound

lemma selectOne_spec {α ε : Type} [SqlError ε] {rows : List α} {p : α → Bool} {r : α}
    (h : selectOne rows p = (.ok r : Except ε α)) : r ∈ rows ∧ p r = true := by
  unfold selectOne at h
  split at h
  · rename_i x hx
    cases h
    simpa using List.mem_filter.mp (hx ▸ List.mem_singleton_self r)
  · cases h

/-- A unique index: rows with the same key conflict. A row outside the index's condition
has no key. -/
structure UniqueIndex (α : Type) where
  {Key : Type}
  [decEq : DecidableEq Key]
  key : α → Option Key

namespace UniqueIndex

variable {α : Type}

def conflict (u : UniqueIndex α) (a b : α) : Bool :=
  have := u.decEq
  (u.key a).isSome && decide (u.key a = u.key b)

lemma conflict_comm (u : UniqueIndex α) (a b : α) : u.conflict a b = u.conflict b a := by
  simp only [conflict]
  by_cases h : u.key a = u.key b
  · simp [h]
  · simp [h, Ne.symm h]

lemma conflict_of_key {u : UniqueIndex α} {a b : α} {k : u.Key} (ha : u.key a = some k)
    (hb : u.key b = some k) : u.conflict a b = true := by
  simp [conflict, ha, hb]

lemma key_of_conflict {u : UniqueIndex α} {a b : α} (h : u.conflict a b = true)
    (hne : ∀ k, u.key a = some k → u.key b ≠ some k) : False := by
  simp only [conflict, Bool.and_eq_true, decide_eq_true_eq] at h
  obtain ⟨hsome, heq⟩ := h
  obtain ⟨k, hk⟩ := Option.isSome_iff_exists.mp hsome
  exact hne k hk (heq ▸ hk)

end UniqueIndex

/-- The constraints a table declares: a check on each row, and its unique indexes. -/
structure TableSpec (α : Type) where
  check : α → Bool
  uniques : List (UniqueIndex α)

namespace TableSpec

variable {α : Type}

def conflict (S : TableSpec α) (a b : α) : Bool := S.uniques.any (fun u => u.conflict a b)

lemma conflict_comm (S : TableSpec α) (a b : α) : S.conflict a b = S.conflict b a := by
  simp only [conflict, UniqueIndex.conflict_comm _ a b]

def WellFormed (S : TableSpec α) (rows : List α) : Prop :=
  (∀ r ∈ rows, S.check r = true) ∧ rows.Pairwise (fun a b => S.conflict a b = false)

instance (S : TableSpec α) (rows : List α) : Decidable (S.WellFormed rows) :=
  inferInstanceAs (Decidable (_ ∧ _))

end TableSpec

structure Table {α : Type} (S : TableSpec α) where
  rows : List α
  wf : S.WellFormed rows

namespace Table

variable {α : Type} {S : TableSpec α} {ε : Type} [SqlError ε]

def empty : Table S := ⟨[], by simp [TableSpec.WellFormed]⟩

instance : Inhabited (Table S) := ⟨empty⟩

@[simp] lemma rows_empty : (empty : Table S).rows = [] := rfl

/-- `select(...).where(p)` -/
def select (t : Table S) (p : α → Bool) : List α := t.rows.filter p

/-- `select(...).where(p)` followed by `.first()` -/
def first (t : Table S) (p : α → Bool) : Option α := t.rows.find? p

/-- `select(...).where(p)` followed by `.one()` -/
def one (t : Table S) (p : α → Bool) : Except ε α := selectOne t.rows p

/-- The rows an update with this condition matches. -/
def rowcount (t : Table S) (p : α → Bool) : Nat := t.rows.countP p

def insert (t : Table S) (r : α) : Except ε (Table S) :=
  if h : S.WellFormed (t.rows ++ [r]) then .ok ⟨t.rows ++ [r], h⟩
  else .error SqlError.integrityError

/-- The row set after `update(...).where(p).values(f)`. -/
def updated (rows : List α) (p : α → Bool) (f : α → α) : List α :=
  rows.map (fun r => if p r then f r else r)

def update (t : Table S) (p : α → Bool) (f : α → α) : Except ε (Table S) :=
  if h : S.WellFormed (updated t.rows p f) then .ok ⟨updated t.rows p f, h⟩
  else .error SqlError.integrityError

def delete (t : Table S) (p : α → Bool) : Table S :=
  ⟨t.rows.filter (fun r => !p r),
    fun r hr => t.wf.1 r (List.mem_of_mem_filter hr), t.wf.2.filter _⟩

/-- `insert(...).on_conflict_do_update(...)`. The checks apply to the new row in both cases. -/
def upsert (t : Table S) (r : α) (same : α → Bool) (f : α → α) : Except ε (Table S) :=
  if S.check r then
    if t.rows.any same then t.update same f else t.insert r
  else .error SqlError.integrityError

/-- `INSERT OR IGNORE`: a row that breaks a constraint is skipped. The flag is its row count. -/
def insertOrIgnore (t : Table S) (r : α) : Table S × Bool :=
  if h : S.WellFormed (t.rows ++ [r]) then (⟨t.rows ++ [r], h⟩, true) else (t, false)

variable {r : α} {u : UniqueIndex α} {t t' : Table S} {rows : List α} {p q : α → Bool} {f : α → α}

lemma check_of_mem (t : Table S) (hr : r ∈ t.rows) : S.check r = true := t.wf.1 r hr

lemma eq_of_key (t : Table S) (hu : u ∈ S.uniques) {k : u.Key} {a b : α} (ha : a ∈ t.rows)
    (hb : b ∈ t.rows) (hka : u.key a = some k) (hkb : u.key b = some k) : a = b := by
  by_contra hne
  have : Std.Symm (fun a b => S.conflict a b = false) :=
    ⟨fun x y hxy => by rw [S.conflict_comm]; exact hxy⟩
  have h := t.wf.2.forall ha hb hne
  have hc : S.conflict a b = true :=
    List.any_eq_true.mpr ⟨u, hu, UniqueIndex.conflict_of_key hka hkb⟩
  simp [hc] at h

lemma select_pairwise (t : Table S) (hu : u ∈ S.uniques) (p : α → Bool) :
    (t.select p).Pairwise (fun a b => ∀ k, u.key a = some k → u.key b ≠ some k) := by
  refine (t.wf.2.filter p).imp ?_
  intro a b hab k hka hkb
  have hc : S.conflict a b = true :=
    List.any_eq_true.mpr ⟨u, hu, UniqueIndex.conflict_of_key hka hkb⟩
  simp [hc] at hab

lemma insert_rows (h : t.insert r = (.ok t' : Except ε (Table S))) : t'.rows = t.rows ++ [r] := by
  unfold insert at h
  split at h
  · cases h; rfl
  · cases h

lemma wellFormed_append (hcheck : S.check r = true)
    (hfresh : ∀ u ∈ S.uniques, ∀ k, u.key r = some k → ∀ a ∈ t.rows, u.key a ≠ some k) :
    S.WellFormed (t.rows ++ [r]) := by
  refine ⟨?_, ?_⟩
  · intro a ha
    rcases List.mem_append.mp ha with ha | ha
    · exact t.check_of_mem ha
    · exact List.mem_singleton.mp ha ▸ hcheck
  · rw [List.pairwise_append]
    refine ⟨t.wf.2, List.pairwise_singleton _ _, ?_⟩
    intro a ha b hb
    rw [List.mem_singleton.mp hb, TableSpec.conflict, List.any_eq_false]
    intro u hu
    rw [u.conflict_comm]
    exact fun hc => u.key_of_conflict hc (fun k hk => hfresh u hu k hk a ha)

lemma insert_ok (hcheck : S.check r = true)
    (hfresh : ∀ u ∈ S.uniques, ∀ k, u.key r = some k → ∀ a ∈ t.rows, u.key a ≠ some k) :
    ∃ t', t.insert r = (.ok t' : Except ε (Table S)) :=
  ⟨_, by rw [insert, dif_pos (wellFormed_append hcheck hfresh)]⟩

lemma insertOrIgnore_fresh (hcheck : S.check r = true)
    (hfresh : ∀ u ∈ S.uniques, ∀ k, u.key r = some k → ∀ a ∈ t.rows, u.key a ≠ some k) :
    (t.insertOrIgnore r).2 = true := by
  rw [insertOrIgnore, dif_pos (wellFormed_append hcheck hfresh)]

lemma append_fresh (h : t.rows = rows ++ [r]) (hu : u ∈ S.uniques) {k : u.Key}
    (hk : u.key r = some k) {a : α} (ha : a ∈ rows) : u.key a ≠ some k := by
  intro hka
  have hwf := t.wf.2
  rw [h, List.pairwise_append] at hwf
  have hc := hwf.2.2 a ha r (by simp)
  have : S.conflict a r = true :=
    List.any_eq_true.mpr ⟨u, hu, UniqueIndex.conflict_of_key hka hk⟩
  simp [this] at hc

lemma update_rows (h : t.update p f = (.ok t' : Except ε (Table S))) :
    t'.rows = updated t.rows p f := by
  unfold update at h
  split at h
  · cases h; rfl
  · cases h

/-- An update that keeps the checks and the keys of the rows it writes keeps the table well formed. -/
lemma updated_wellFormed (hcheck : ∀ r ∈ t.rows, p r = true → S.check (f r) = true)
    (hkeys : ∀ u ∈ S.uniques, ∀ r ∈ t.rows, p r = true → u.key (f r) = u.key r) :
    S.WellFormed (updated t.rows p f) := by
  have hkey : ∀ u ∈ S.uniques, ∀ r ∈ t.rows, u.key (if p r then f r else r) = u.key r := by
    intro u hu r hr
    by_cases hp : p r = true
    · rw [if_pos hp, hkeys u hu r hr hp]
    · rw [if_neg hp]
  refine ⟨?_, ?_⟩
  · intro r hr
    obtain ⟨a, ha, rfl⟩ := List.mem_map.mp hr
    by_cases hp : p a = true
    · rw [if_pos hp]
      exact hcheck a ha hp
    · rw [if_neg hp]
      exact t.check_of_mem ha
  · rw [updated, List.pairwise_map]
    refine t.wf.2.imp_of_mem ?_
    intro a b ha hb hab
    rw [TableSpec.conflict, List.any_eq_false] at hab ⊢
    intro u hu
    have hno := hab u hu
    simp only [UniqueIndex.conflict, Bool.and_eq_true, decide_eq_true_eq, hkey u hu a ha,
      hkey u hu b hb] at hno ⊢
    exact hno

lemma update_ok (hcheck : ∀ r ∈ t.rows, p r = true → S.check (f r) = true)
    (hkeys : ∀ u ∈ S.uniques, ∀ r ∈ t.rows, p r = true → u.key (f r) = u.key r) :
    ∃ t', t.update p f = (.ok t' : Except ε (Table S)) := by
  have hwf := updated_wellFormed hcheck hkeys
  exact ⟨⟨updated t.rows p f, hwf⟩, by rw [update, dif_pos hwf]⟩

@[simp] lemma delete_rows (t : Table S) (p : α → Bool) :
    (t.delete p).rows = t.rows.filter (fun r => !p r) := rfl

lemma one_spec (h : t.one p = (.ok r : Except ε α)) : r ∈ t.rows ∧ p r = true :=
  selectOne_spec h

lemma first_spec (h : t.first p = some r) : r ∈ t.rows ∧ p r = true :=
  ⟨List.mem_of_find?_eq_some h, List.find?_some h⟩

lemma first_none (h : t.first p = none) (hr : r ∈ t.rows) : p r = false := by
  simpa using List.find?_eq_none.mp h r hr

lemma first_eq_none (h : ∀ r ∈ t.rows, p r = false) : t.first p = none :=
  List.find?_eq_none.mpr (fun r hr => by simp [h r hr])

lemma first_eq (hr : r ∈ t.rows) (hp : p r = true) (hunique : ∀ a ∈ t.rows, p a = true → a = r) :
    t.first p = some r := by
  cases hfirst : t.first p with
  | none => simp [first_none hfirst hr] at hp
  | some a =>
    obtain ⟨ha, hpa⟩ := first_spec hfirst
    rw [hunique a ha hpa]

lemma mem_updated : r ∈ updated rows p f ↔ ∃ a ∈ rows, r = if p a then f a else a := by
  simp only [updated, List.mem_map]
  exact ⟨fun ⟨a, ha, h⟩ => ⟨a, ha, h.symm⟩, fun ⟨a, ha, h⟩ => ⟨a, ha, h.symm⟩⟩

variable {rows' : List α}

lemma updated_cases (h : rows' = updated rows p f) (hr : r ∈ rows') :
    (r ∈ rows ∧ p r = false) ∨ ∃ a ∈ rows, p a = true ∧ r = f a := by
  obtain ⟨a, ha, rfl⟩ := mem_updated.mp (h ▸ hr)
  cases hp : p a with
  | false => exact .inl ⟨ha, hp⟩
  | true => exact .inr ⟨a, ha, hp, rfl⟩

lemma mem_left (h : rows' = updated rows p f) (hr : r ∈ rows) (hp : p r = false) : r ∈ rows' := by
  rw [h, mem_updated]
  exact ⟨r, hr, by simp [hp]⟩

lemma mem_written (h : rows' = updated rows p f) (hr : r ∈ rows) (hp : p r = true) :
    f r ∈ rows' := by
  rw [h, mem_updated]
  exact ⟨r, hr, by simp [hp]⟩

lemma exists_updated {P : α → Prop} (h : rows' = updated rows p f) (hr : r ∈ rows)
    (hleft : p r = false → P r) (hwritten : p r = true → P (f r)) : ∃ r' ∈ rows', P r' := by
  cases hp : p r with
  | false => exact ⟨r, mem_left h hr hp, hleft hp⟩
  | true => exact ⟨f r, mem_written h hr hp, hwritten hp⟩

lemma mem_upsert {new : α} {same : α → Bool}
    (h : t.upsert new same f = (.ok t' : Except ε (Table S))) :
    r ∈ t'.rows ↔ (r ∈ t.rows ∧ same r = false) ∨ (∃ a ∈ t.rows, same a = true ∧ r = f a) ∨
      (∀ a ∈ t.rows, same a = false) ∧ r = new := by
  unfold upsert at h
  split_ifs at h with _ hany
  · rw [update_rows h, mem_updated]
    obtain ⟨a, ha, hsame⟩ := List.any_eq_true.mp hany
    constructor
    · rintro ⟨b, hb, rfl⟩
      by_cases hb' : same b = true
      · rw [if_pos hb']
        exact .inr (.inl ⟨b, hb, hb', rfl⟩)
      · rw [if_neg hb']
        exact .inl ⟨hb, by simpa using hb'⟩
    · rintro (⟨hr, hr'⟩ | ⟨b, hb, hb', rfl⟩ | ⟨hnone, _⟩)
      · exact ⟨r, hr, by simp [hr']⟩
      · exact ⟨b, hb, by rw [if_pos hb']⟩
      · rw [hnone a ha] at hsame
        cases hsame
  · have hnone : ∀ a ∈ t.rows, same a = false := fun a ha => by
      rw [Bool.eq_false_iff]
      exact fun hsame => hany (List.any_eq_true.mpr ⟨a, ha, hsame⟩)
    rw [insert_rows h, List.mem_append, List.mem_singleton]
    constructor
    · rintro (hr | rfl)
      · exact .inl ⟨hr, hnone r hr⟩
      · exact .inr (.inr ⟨hnone, rfl⟩)
    · rintro (⟨hr, _⟩ | ⟨b, hb, hb', _⟩ | ⟨_, rfl⟩)
      · exact .inl hr
      · rw [hnone b hb] at hb'
        cases hb'
      · exact .inr rfl

lemma map_updated {β : Type} (g : α → β) (hg : ∀ r ∈ rows, p r = true → g (f r) = g r) :
    (updated rows p f).map g = rows.map g := by
  rw [updated, List.map_map]
  apply List.map_congr_left
  intro r hr
  by_cases hp : p r = true
  · simp [hp, hg r hr hp]
  · simp [hp]

lemma updated_of_no_match (h : ∀ r ∈ rows, p r = false) : updated rows p f = rows := by
  rw [updated]
  conv_rhs => rw [← List.map_id rows]
  apply List.map_congr_left
  intro r hr
  simp [h r hr]

lemma update_of_no_match (h : ∀ r ∈ t.rows, p r = false) :
    t.update p f = (.ok t : Except ε (Table S)) := by
  have hrows : updated t.rows p f = t.rows := updated_of_no_match h
  have hwf : S.WellFormed (updated t.rows p f) := hrows.symm ▸ t.wf
  rw [update, dif_pos hwf]
  congr 1
  cases t
  simp only [Table.mk.injEq]
  exact hrows

lemma rowcount_of_no_match (h : ∀ r ∈ t.rows, p r = false) : t.rowcount p = 0 :=
  List.countP_eq_zero.mpr (fun r hr => by simp [h r hr])

lemma updated_updated {g : α → α}
    (hq : ∀ r ∈ rows, p r = true → q r = true ∧ q (f r) = true ∧ g (f r) = g r) :
    updated (updated rows p f) q g = updated rows q g := by
  simp only [updated, List.map_map]
  apply List.map_congr_left
  intro r hr
  by_cases hp : p r = true
  · obtain ⟨hqr, hqf, hg⟩ := hq r hr hp
    simp [hp, hqr, hqf, hg]
  · simp [hp]

lemma filter_updated (h : ∀ r ∈ rows, p r = true → q r = false ∧ q (f r) = false) :
    (updated rows p f).filter q = rows.filter q := by
  induction rows with
  | nil => rfl
  | cons r rows ih =>
    have ih := ih (fun x hx => h x (List.mem_cons_of_mem _ hx))
    simp only [updated, List.map_cons] at ih ⊢
    by_cases hp : p r = true
    · obtain ⟨hq, hqf⟩ := h r List.mem_cons_self hp
      simp [hp, hq, hqf, ih]
    · simp [hp, List.filter_cons, ih]

lemma filter_delete (h : ∀ r ∈ t.rows, p r = true → q r = false) :
    (t.delete p).rows.filter q = t.rows.filter q := by
  rw [delete_rows, List.filter_filter]
  refine List.filter_congr (fun r hr => ?_)
  by_cases hp : p r = true
  · simp [h r hr hp]
  · simp [hp]

lemma countP_le_one (t : Table S) (hu : u ∈ S.uniques) {k : u.Key}
    (hp : ∀ r ∈ t.rows, p r = true → u.key r = some k) : t.rows.countP p ≤ 1 := by
  have hrows := t.wf.2
  generalize t.rows = rows at hp hrows
  induction rows with
  | nil => simp
  | cons a rows ih =>
    obtain ⟨ha, hrest⟩ := List.pairwise_cons.mp hrows
    have hle := ih (fun r hr => hp r (List.mem_cons_of_mem _ hr)) hrest
    by_cases hpa : p a = true
    · have hzero : rows.countP p = 0 := by
        rw [List.countP_eq_zero]
        intro b hb hpb
        have hconflict : S.conflict a b = true := List.any_eq_true.mpr ⟨u, hu,
          UniqueIndex.conflict_of_key (hp a List.mem_cons_self hpa)
            (hp b (List.mem_cons_of_mem _ hb) hpb)⟩
        rw [ha b hb] at hconflict
        cases hconflict
      rw [List.countP_cons_of_pos hpa]
      omega
    · rw [List.countP_cons_of_neg hpa]
      exact hle

end Table

end Inari.Lib
