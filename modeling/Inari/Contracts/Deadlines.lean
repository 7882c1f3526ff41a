import Inari.Contracts.Values
import Inari.Lib.Calendar
import Inari.Lib.Framing

/-!
# Deadlines as text

`datetime.strftime` of Python in `inari_print_contracts/fingerprint.py`, and `DateTime::format` of
`chrono` in `inari-gateway/src/protocol/managed_work.rs`.
-/

namespace Inari

open Lib

/-- A number in decimal, filled up with zeros. -/
def decimal (width n : Nat) : List Char := digits 10 Nat.digitChar width n

/-- A `datetime` in UTC. -/
structure PyDatetime where
  date : Date
  hour : Nat
  minute : Nat
  second : Nat
  microsecond : Nat
  year_range : 1 ≤ date.year ∧ date.year ≤ 9999
  hour_lt : hour < 24
  minute_lt : minute < 60
  second_lt : second < 60
  microsecond_lt : microsecond < 1000000

/-- The microseconds since the day before the year one. -/
def PyDatetime.instant (t : PyDatetime) : Int :=
  (t.date.number * 86400 + (t.hour * 3600 + t.minute * 60 + t.second)) * 1000000 + t.microsecond

/-- `datetime.strftime`, for the directives that the format has. -/
def PyDatetime.strftime (t : PyDatetime) : List Char → List Char
  | '%' :: 'Y' :: format => decimal 4 t.date.year.toNat ++ t.strftime format
  | '%' :: 'm' :: format => decimal 2 t.date.month ++ t.strftime format
  | '%' :: 'd' :: format => decimal 2 t.date.day ++ t.strftime format
  | '%' :: 'H' :: format => decimal 2 t.hour ++ t.strftime format
  | '%' :: 'M' :: format => decimal 2 t.minute ++ t.strftime format
  | '%' :: 'S' :: format => decimal 2 t.second ++ t.strftime format
  | '%' :: 'f' :: format => decimal 6 t.microsecond ++ t.strftime format
  | c :: format => c :: t.strftime format
  | [] => []

def formatDeadline (t : PyDatetime) : Bytes :=
  encode (String.ofList (t.strftime "%Y-%m-%dT%H:%M:%S.%fZ".toList))

/-- A `DateTime<Utc>`. A leap second has a thousand million nanoseconds or more. -/
structure ChronoUtc where
  year : Int
  ordinal : Nat
  secs : Nat
  frac : Nat
  year_range : -262143 ≤ year ∧ year ≤ 262142
  ordinal_pos : 1 ≤ ordinal
  ordinal_le : ordinal ≤ yearLength (isLeap year)
  secs_lt : secs < 86400
  frac_lt : frac < 2000000000
  leap_second : 1000000000 ≤ frac → secs % 60 = 59

def ChronoUtc.date (t : ChronoUtc) : Date := .ofOrdinal t.year t.ordinal t.ordinal_pos t.ordinal_le

/-- Whole microseconds, on the same scale. -/
def ChronoUtc.instant (t : ChronoUtc) : Int :=
  (t.date.number * 86400 + t.secs) * 1000000 + t.frac / 1000

/-- Four digits, and a sign before years that do not fit. -/
def chronoYear (year : Int) : List Char :=
  if 0 ≤ year ∧ year < 10000 then decimal 4 year.toNat
  else (if year < 0 then '-' else '+') :: decimal (max 4 (Nat.log 10 year.natAbs + 1)) year.natAbs

/-- `DateTime::format`, for the items that the format has. -/
def ChronoUtc.format (t : ChronoUtc) : List Char → List Char
  | '%' :: '.' :: '6' :: 'f' :: items =>
    '.' :: decimal 6 (t.frac % 1000000000 / 1000) ++ t.format items
  | '%' :: 'Y' :: items => chronoYear t.year ++ t.format items
  | '%' :: 'm' :: items => decimal 2 t.date.month ++ t.format items
  | '%' :: 'd' :: items => decimal 2 t.date.day ++ t.format items
  | '%' :: 'H' :: items => decimal 2 (t.secs / 3600) ++ t.format items
  | '%' :: 'M' :: items => decimal 2 (t.secs / 60 % 60) ++ t.format items
  | '%' :: 'S' :: items => decimal 2 (t.secs % 60 + t.frac / 1000000000) ++ t.format items
  | c :: items => c :: t.format items
  | [] => []

/-- The deadline that `managed_work_fingerprint` writes. -/
def ChronoUtc.deadline (t : ChronoUtc) : Bytes :=
  encode (String.ofList (t.format "%Y-%m-%dT%H:%M:%S%.6fZ".toList))

/-- Both values are the same time, to the microsecond. Python has no leap seconds. -/
def PyDatetime.Denotes (p : PyDatetime) (t : ChronoUtc) : Prop :=
  t.frac < 1000000000 ∧ p.instant = t.instant

lemma digitChar_injective : ∀ a < 10, ∀ b < 10, Nat.digitChar a = Nat.digitChar b → a = b := by
  decide

@[simp] lemma length_decimal (width n : Nat) : (decimal width n).length = width :=
  length_digits 10 _ width n

lemma decimal_injective {width m n : Nat} (hm : m < 10 ^ width) (hn : n < 10 ^ width)
    (h : decimal width m = decimal width n) : m = n :=
  digits_injective (by decide) digitChar_injective hm hn h

/-- The text after the year. -/
def clockText (month day hour minute second microsecond : Nat) : List Char :=
  '-' :: (decimal 2 month ++ '-' :: (decimal 2 day ++ 'T' :: (decimal 2 hour ++
    ':' :: (decimal 2 minute ++ ':' :: (decimal 2 second ++ '.' :: (decimal 6 microsecond ++
      ['Z']))))))

lemma length_clockText (month day hour minute second microsecond : Nat) :
    (clockText month day hour minute second microsecond).length = 23 := by
  simp [clockText]

lemma strftime_eq (t : PyDatetime) : t.strftime "%Y-%m-%dT%H:%M:%S.%fZ".toList =
    decimal 4 t.date.year.toNat ++
      clockText t.date.month t.date.day t.hour t.minute t.second t.microsecond := by
  rfl

lemma format_eq (t : ChronoUtc) : t.format "%Y-%m-%dT%H:%M:%S%.6fZ".toList =
    chronoYear t.year ++ clockText t.date.month t.date.day (t.secs / 3600) (t.secs / 60 % 60)
      (t.secs % 60 + t.frac / 1000000000) (t.frac % 1000000000 / 1000) := by
  rfl

end Inari
