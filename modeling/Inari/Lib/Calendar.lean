import Mathlib

/-!
# The proleptic Gregorian calendar

A date is valid by construction, and the number of its day determines it.
-/

namespace Inari.Lib

variable (year : Int) (d : Date)

def isLeap : Bool := year % 4 == 0 && (year % 100 != 0 || year % 400 == 0)

def daysInMonth (leap : Bool) : Nat → Nat
  | 2 => if leap then 29 else 28
  | 4 | 6 | 9 | 11 => 30
  | _ => 31

def daysBeforeMonth (leap : Bool) : Nat → Nat
  | 0 | 1 => 0
  | month + 2 => daysBeforeMonth leap (month + 1) + daysInMonth leap (month + 1)

def yearLength (leap : Bool) : Nat := if leap then 366 else 365

/-- The days from the start of the year one to the start of a year. -/
def daysBeforeYear : Int :=
  365 * (year - 1) + (year - 1) / 4 - (year - 1) / 100 + (year - 1) / 400

structure Date where
  year : Int
  month : Nat
  day : Nat
  month_pos : 1 ≤ month
  month_le : month ≤ 12
  day_pos : 1 ≤ day
  day_le : day ≤ daysInMonth (isLeap year) month

/-- The day of the year, counted from one. -/
def Date.ordinal : Nat := daysBeforeMonth (isLeap d.year) d.month + d.day

/-- The number of the day; the first day of the year one has the number one. -/
def Date.number : Int := daysBeforeYear d.year + d.ordinal

lemma period_unique {ι : Type} [LinearOrder ι] {start : ι → Int} {next : ι → ι}
    (hmono : ∀ i j, i < j → start (next i) ≤ start j) {i j : ι} {x : Int}
    (hi : start i < x ∧ x ≤ start (next i)) (hj : start j < x ∧ x ≤ start (next j)) : i = j := by
  rcases lt_trichotomy i j with h | h | h
  · have := hmono i j h
    omega
  · exact h
  · have := hmono j i h
    omega

lemma daysBeforeYear_succ :
    daysBeforeYear (year + 1) = daysBeforeYear year + yearLength (isLeap year) := by
  unfold daysBeforeYear yearLength isLeap
  split_ifs with h
  · simp only [Bool.and_eq_true, Bool.or_eq_true, beq_iff_eq, bne_iff_ne, ne_eq] at h
    omega
  · simp only [Bool.and_eq_true, Bool.or_eq_true, beq_iff_eq, bne_iff_ne, ne_eq] at h
    omega

lemma daysBeforeYear_le {year later : Int} (h : year < later) :
    daysBeforeYear (year + 1) ≤ daysBeforeYear later := by
  unfold daysBeforeYear
  omega

variable {leap : Bool}

lemma daysBeforeMonth_le {month later : Nat} (h : month < later) (hpos : 1 ≤ month) :
    daysBeforeMonth leap (month + 1) ≤ daysBeforeMonth leap later := by
  induction later, h using Nat.le_induction with
  | base => exact le_rfl
  | succ later hle ih =>
    refine ih.trans ?_
    obtain ⟨k, rfl⟩ : ∃ k, later = k + 1 := ⟨later - 1, by omega⟩
    exact Nat.le_add_right _ _

lemma daysBeforeMonth_succ {month : Nat} (hpos : 1 ≤ month) :
    daysBeforeMonth leap (month + 1) = daysBeforeMonth leap month + daysInMonth leap month := by
  obtain ⟨k, rfl⟩ : ∃ k, month = k + 1 := ⟨month - 1, by omega⟩
  rfl

lemma daysBeforeMonth_last (leap : Bool) : daysBeforeMonth leap 13 = yearLength leap := by
  cases leap <;> rfl

lemma Date.ordinal_mem : daysBeforeMonth (isLeap d.year) d.month < d.ordinal ∧
    d.ordinal ≤ daysBeforeMonth (isLeap d.year) (d.month + 1) := by
  have hpos := d.day_pos
  have hle := d.day_le
  rw [daysBeforeMonth_succ d.month_pos, Date.ordinal]
  omega

lemma Date.ordinal_pos : 1 ≤ d.ordinal := Nat.one_le_of_lt d.ordinal_mem.1

lemma Date.ordinal_le : d.ordinal ≤ yearLength (isLeap d.year) := by
  rw [← daysBeforeMonth_last]
  exact d.ordinal_mem.2.trans (daysBeforeMonth_le (Nat.lt_succ_of_le d.month_le) d.month_pos)

lemma Date.eq_of_ordinal {d d' : Date} (hyear : d.year = d'.year) (h : d.ordinal = d'.ordinal) :
    d = d' := by
  have hmem := d.ordinal_mem
  have hmem' := d'.ordinal_mem
  rw [← hyear, ← h] at hmem'
  have hmonth : d.month = d'.month := by
    rcases lt_trichotomy d.month d'.month with hlt | heq | hlt
    · have hle : daysBeforeMonth (isLeap d.year) _ ≤ _ := daysBeforeMonth_le hlt d.month_pos
      omega
    · exact heq
    · have hle : daysBeforeMonth (isLeap d.year) _ ≤ _ := daysBeforeMonth_le hlt d'.month_pos
      omega
  have hday : d.day = d'.day := by
    rw [Date.ordinal, Date.ordinal, ← hyear, ← hmonth] at h
    omega
  cases d
  cases d'
  cases hyear
  cases hmonth
  cases hday
  rfl

theorem Date.number_injective {d d' : Date} (h : d.number = d'.number) : d = d' := by
  have within : ∀ x : Date, daysBeforeYear x.year < x.number ∧
      x.number ≤ daysBeforeYear (x.year + 1) := by
    intro x
    have hpos := x.ordinal_pos
    have hle := x.ordinal_le
    rw [daysBeforeYear_succ, Date.number]
    omega
  have hyear : d.year = d'.year :=
    period_unique (fun _ _ => daysBeforeYear_le) (within d) (h ▸ within d')
  refine Date.eq_of_ordinal hyear ?_
  rw [Date.number, Date.number, hyear] at h
  omega

/-- The month of a day of the year: the months that ended before it, and one. -/
def monthOfOrdinal (leap : Bool) (ordinal : Nat) : Nat :=
  ((List.range 11).filter (fun k => daysBeforeMonth leap (k + 2) < ordinal)).length + 1

lemma monthOfOrdinal_spec {ordinal : Nat} (hpos : 1 ≤ ordinal) (hle : ordinal ≤ yearLength leap) :
    monthOfOrdinal leap ordinal ≤ 12 ∧
      daysBeforeMonth leap (monthOfOrdinal leap ordinal) < ordinal ∧
      ordinal ≤ daysBeforeMonth leap (monthOfOrdinal leap ordinal) +
        daysInMonth leap (monthOfOrdinal leap ordinal) := by
  have hall : ∀ (leap : Bool) (n : Fin 367), 1 ≤ n.val → n.val ≤ yearLength leap →
      monthOfOrdinal leap n ≤ 12 ∧ daysBeforeMonth leap (monthOfOrdinal leap n) < n.val ∧
      n.val ≤ daysBeforeMonth leap (monthOfOrdinal leap n) +
        daysInMonth leap (monthOfOrdinal leap n) := by
    decide +kernel
  have hlt : ordinal < 367 := by
    unfold yearLength at hle
    split at hle <;> omega
  exact hall leap ⟨ordinal, hlt⟩ hpos hle

def Date.ofOrdinal (ordinal : Nat) (hpos : 1 ≤ ordinal) (hle : ordinal ≤ yearLength (isLeap year)) :
    Date where
  year := year
  month := monthOfOrdinal (isLeap year) ordinal
  day := ordinal - daysBeforeMonth (isLeap year) (monthOfOrdinal (isLeap year) ordinal)
  month_pos := Nat.le_add_left 1 _
  month_le := (monthOfOrdinal_spec hpos hle).1
  day_pos := Nat.sub_pos_of_lt (monthOfOrdinal_spec hpos hle).2.1
  day_le := Nat.sub_le_iff_le_add'.mpr (monthOfOrdinal_spec hpos hle).2.2

@[simp] lemma Date.ordinal_ofOrdinal {year : Int} {ordinal : Nat} (hpos : 1 ≤ ordinal)
    (hle : ordinal ≤ yearLength (isLeap year)) :
    (Date.ofOrdinal year ordinal hpos hle).ordinal = ordinal :=
  Nat.add_sub_cancel' (monthOfOrdinal_spec hpos hle).2.1.le

end Inari.Lib
