import AntennaBench.Core.Value

/-!
# Dates and times of day

The proleptic Gregorian date of a day and the day of a date, and an instant as the date
and the time of day of its second.
-/

namespace AntennaBench

/-- Year, month and day of a day counted from 1970-01-01; the years are counted from March
in eras of 400. -/
def civilFromDays (days : ℤ) : ℤ × ℤ × ℤ :=
  let z := days + 719468
  let era := z / 146097
  let dayOfEra := z % 146097
  let yearOfEra := (dayOfEra - dayOfEra / 1460 + dayOfEra / 36524 - dayOfEra / 146096) / 365
  let dayOfYear := dayOfEra - (365 * yearOfEra + yearOfEra / 4 - yearOfEra / 100)
  let shifted := (5 * dayOfYear + 2) / 153
  let day := dayOfYear - (153 * shifted + 2) / 5 + 1
  let month := if shifted < 10 then shifted + 3 else shifted - 9
  (yearOfEra + era * 400 + if month ≤ 2 then 1 else 0, month, day)

/-- The days from 1970-01-01 to a date. -/
def daysFromCivil (year month day : ℤ) : ℤ :=
  let shiftedYear := if month ≤ 2 then year - 1 else year
  let era := shiftedYear / 400
  let yearOfEra := shiftedYear % 400
  let shifted := if 2 < month then month - 3 else month + 9
  let dayOfYear := (153 * shifted + 2) / 5 + day - 1
  let dayOfEra := yearOfEra * 365 + yearOfEra / 4 - yearOfEra / 100 + dayOfYear
  era * 146097 + dayOfEra - 719468

theorem yearOfEra_bounds {dayOfEra : ℤ} (hlow : 0 ≤ dayOfEra) (hhigh : dayOfEra < 146097)
    {yearOfEra : ℤ} (hyear : yearOfEra =
      (dayOfEra - dayOfEra / 1460 + dayOfEra / 36524 - dayOfEra / 146096) / 365) :
    0 ≤ yearOfEra ∧ yearOfEra < 400 ∧
      0 ≤ dayOfEra - (365 * yearOfEra + yearOfEra / 4 - yearOfEra / 100) ∧
      dayOfEra - (365 * yearOfEra + yearOfEra / 4 - yearOfEra / 100) ≤ 365 := by
  have hfour : dayOfEra / 146096 = 0 ∨ dayOfEra / 146096 = 1 := by omega
  have hcenturies : dayOfEra / 36524 = 0 ∨ dayOfEra / 36524 = 1 ∨ dayOfEra / 36524 = 2 ∨
      dayOfEra / 36524 = 3 ∨ dayOfEra / 36524 = 4 := by omega
  have hlast : 0 ≤ yearOfEra ∧ yearOfEra < 400 := by omega
  have hcentury : yearOfEra / 100 = 0 ∨ yearOfEra / 100 = 1 ∨ yearOfEra / 100 = 2 ∨
      yearOfEra / 100 = 3 := by omega
  refine ⟨hlast.1, hlast.2, ?_, ?_⟩
  · rcases hcentury with h | h | h | h <;> omega
  · rcases hcentury with h | h | h | h <;> omega

/-- The date of a day of a year that begins in March gives the day back. -/
theorem daysFromCivil_shifted {era yearOfEra dayOfYear shifted month : ℤ}
    (hyear : 0 ≤ yearOfEra ∧ yearOfEra < 400) (hday : 0 ≤ dayOfYear ∧ dayOfYear ≤ 365)
    (hshifted : shifted = (5 * dayOfYear + 2) / 153)
    (hmonth : month = if shifted < 10 then shifted + 3 else shifted - 9) :
    daysFromCivil (yearOfEra + era * 400 + if month ≤ 2 then 1 else 0) month
        (dayOfYear - (153 * shifted + 2) / 5 + 1) =
      era * 146097 + (yearOfEra * 365 + yearOfEra / 4 - yearOfEra / 100 + dayOfYear) - 719468 := by
  have hera : (yearOfEra + era * 400) / 400 = era := by omega
  have hyearOfEra : (yearOfEra + era * 400) % 400 = yearOfEra := by omega
  unfold daysFromCivil
  by_cases hbefore : shifted < 10
  · rw [if_pos hbefore] at hmonth
    have hlate : ¬month ≤ 2 := by omega
    have hearly : 2 < month := by omega
    simp only [if_neg hlate, if_pos hearly, add_zero, hera, hyearOfEra]
    omega
  · rw [if_neg hbefore] at hmonth
    have hlate : month ≤ 2 := by omega
    have hearly : ¬2 < month := by omega
    simp only [if_pos hlate, if_neg hearly, add_sub_cancel_right, hera, hyearOfEra]
    omega

/-- A day is the day of its date. -/
theorem daysFromCivil_civilFromDays (days : ℤ) :
    daysFromCivil (civilFromDays days).1 (civilFromDays days).2.1 (civilFromDays days).2.2 =
      days := by
  have hlow : 0 ≤ (days + 719468) % 146097 := by omega
  have hhigh : (days + 719468) % 146097 < 146097 := by omega
  obtain ⟨hyearLow, hyearHigh, hdayLow, hdayHigh⟩ := yearOfEra_bounds hlow hhigh rfl
  rw [civilFromDays]
  refine (daysFromCivil_shifted ⟨hyearLow, hyearHigh⟩ ⟨hdayLow, hdayHigh⟩ rfl rfl).trans ?_
  omega

/-- What `%Y-%m-%d %H:%M:%S` shows of an instant. -/
structure CivilTime where
  year : ℤ
  month : ℤ
  day : ℤ
  hour : ℤ
  minute : ℤ
  second : ℤ
  deriving DecidableEq

namespace CivilTime

def ofInstant (at_ : DateTime) : CivilTime :=
  let seconds := at_ / DateTime.nanosPerSecond
  let date := civilFromDays (seconds / 86400)
  let time := seconds % 86400
  ⟨date.1, date.2.1, date.2.2, time / 3600, time / 60 % 60, time % 60⟩

/-- The instant a date and a time of day in UTC name. -/
def instant (time : CivilTime) : DateTime :=
  DateTime.seconds (daysFromCivil time.year time.month time.day * 86400 + time.hour * 3600 +
    time.minute * 60 + time.second)

/-- What is below the second is not shown. -/
theorem instant_ofInstant (at_ : DateTime) :
    (ofInstant at_).instant = at_ / DateTime.nanosPerSecond * DateTime.nanosPerSecond := by
  simp only [ofInstant, instant, daysFromCivil_civilFromDays, DateTime.seconds]
  generalize at_ / DateTime.nanosPerSecond = seconds
  congr 1
  omega

def zeroPadded (width n : ℕ) : String :=
  let digits := Nat.toDigits 10 n
  String.ofList (List.replicate (width - digits.length) '0' ++ digits)

/-- `%Y`, with a sign where four digits do not hold the year. -/
def yearText (year : ℤ) : String :=
  if 0 ≤ year ∧ year ≤ 9999 then zeroPadded 4 year.toNat
  else (if year < 0 then "-" else "+") ++ zeroPadded 4 year.natAbs

def text (time : CivilTime) : String :=
  yearText time.year ++ "-" ++ zeroPadded 2 time.month.toNat ++ "-" ++
    zeroPadded 2 time.day.toNat ++ " " ++ zeroPadded 2 time.hour.toNat ++ ":" ++
    zeroPadded 2 time.minute.toNat ++ ":" ++ zeroPadded 2 time.second.toNat

end CivilTime

end AntennaBench
