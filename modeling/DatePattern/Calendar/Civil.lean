/-! Civil dates of the proleptic Gregorian calendar, for every signed year, and their day counts. -/
namespace DatePattern

/-- Leap years are the multiples of four, without the multiples of a hundred that four hundred
does not divide. -/
def isLeapYear (year : Int) : Bool :=
  year % 4 == 0 && (year % 100 != 0 || year % 400 == 0)

/-- The length of a month, numbered from one. -/
def monthLength (year month : Int) : Int :=
  if month = 2 then if isLeapYear year then 29 else 28
  else if month = 4 ∨ month = 6 ∨ month = 9 ∨ month = 11 then 30
  else 31

/-- The length of a month by any number. The numbers from 0 down to -11 count back from December
and give the length in a common year; no other number names a month. -/
def monthLength? (year month : Int) : Option Int :=
  if 1 ≤ month ∧ month ≤ 12 then some (monthLength year month)
  else if -11 ≤ month ∧ month ≤ 0 then some (monthLength 1 (month + 12))
  else none

/-- A year in astronomical numbering (0 is 1 BC), a month and a day of the month, the last two
counted from one. The fields are unchecked: `CivilDate.IsValid` says which triples are dates. -/
structure CivilDate where
  year : Int
  month : Int
  day : Int
deriving DecidableEq, Repr

namespace CivilDate

/-- The triples that name a day of the calendar. -/
def IsValid (d : CivilDate) : Prop :=
  1 ≤ d.month ∧ d.month ≤ 12 ∧ 1 ≤ d.day ∧ d.day ≤ monthLength d.year d.month

instance (d : CivilDate) : Decidable d.IsValid :=
  inferInstanceAs (Decidable (_ ∧ _ ∧ _ ∧ _))

/-- Days of an era before one of its years. -/
def daysBeforeYear (yearOfEra : Int) : Int := yearOfEra * 365 + yearOfEra / 4 - yearOfEra / 100

/-- Days of a year that begins in March before one of its months, with March as zero. -/
def daysBeforeMonth (marchMonth : Int) : Int := (153 * marchMonth + 2) / 5

/-- Days since 1970-01-01. Years are counted here from the first of March, so that a leap day ends
its year, in eras of 400 years and 146097 days; 719468 days lie between 0000-03-01 and the epoch.
Months outside 1 to 12 keep the formula. -/
def dayCount (d : CivilDate) : Int :=
  let year := if d.month ≤ 2 then d.year - 1 else d.year
  let era := year / 400
  let yearOfEra := year - era * 400
  let marchMonth := if 2 < d.month then d.month - 3 else d.month + 9
  let dayOfYear := daysBeforeMonth marchMonth + d.day - 1
  let dayOfEra := daysBeforeYear yearOfEra + dayOfYear
  era * 146097 + dayOfEra - 719468

/-- The year of a day of an era. It is found by leaving out the leap days that the earlier
four-year, hundred-year and four-hundred-year cycles hold. -/
def yearOfEra (dayOfEra : Int) : Int :=
  (dayOfEra - dayOfEra / 1460 + dayOfEra / 36524 - dayOfEra / 146096) / 365

/-- The date of a day of a year that begins in March. -/
def ofMarchDay (year dayOfYear : Int) : CivilDate :=
  let marchMonth := (5 * dayOfYear + 2) / 153
  let day := dayOfYear - daysBeforeMonth marchMonth + 1
  let month := if marchMonth < 10 then marchMonth + 3 else marchMonth - 9
  ⟨year + (if month ≤ 2 then 1 else 0), month, day⟩

def ofDayCount (n : Int) : CivilDate :=
  let z := n + 719468
  let era := z / 146097
  let dayOfEra := z - era * 146097
  let year := yearOfEra dayOfEra
  ofMarchDay (year + era * 400) (dayOfEra - daysBeforeYear year)

/-- The number of the day in its year, counted from one. -/
def dayOfYear (d : CivilDate) : Int :=
  d.dayCount - dayCount ⟨d.year, 1, 1⟩ + 1

end CivilDate

/-- The day of the week of a day count; 0 is Sunday, and the epoch was a Thursday. -/
def weekday (n : Int) : Int := (n + 4) % 7

end DatePattern
