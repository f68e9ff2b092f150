import DatePattern.Calendar.Civil

/-! Weeks numbered by a rule: the weekday that begins a week and the day of January that week 1
contains. -/
namespace DatePattern

/-- The days a week may begin on; 0 is Sunday. -/
def IsWeekday (n : Int) : Prop := 0 ≤ n ∧ n ≤ 6

instance (n : Int) : Decidable (IsWeekday n) :=
  inferInstanceAs (Decidable (_ ∧ _))

/-- The days of January that week 1 may be required to contain. -/
def IsFirstWeekDay (n : Int) : Prop := 1 ≤ n ∧ n ≤ 7

instance (n : Int) : Decidable (IsFirstWeekDay n) :=
  inferInstanceAs (Decidable (_ ∧ _))

/-- A week begins on `startsOn` (0 is Sunday), and week 1 of a year contains day `januaryDay` of
January. -/
structure WeekRule where
  startsOn : Int
  januaryDay : Int
deriving DecidableEq, Repr

namespace WeekRule

/-- Weeks begin on Monday and week 1 contains the fourth of January. -/
def iso : WeekRule := ⟨1, 4⟩

/-- The rules a calendar may use: a weekday, and a day in the first seven of January. -/
def IsValid (r : WeekRule) : Prop := IsWeekday r.startsOn ∧ IsFirstWeekDay r.januaryDay

instance (r : WeekRule) : Decidable r.IsValid :=
  inferInstanceAs (Decidable (_ ∧ _))

def weekStart (r : WeekRule) (n : Int) : Int :=
  n - (weekday n - r.startsOn) % 7

def yearStart (r : WeekRule) (year : Int) : Int :=
  r.weekStart (CivilDate.dayCount ⟨year, 1, r.januaryDay⟩)

end WeekRule

namespace CivilDate

/-- The year whose weeks contain the date: its own, the next when week 1 of the next has begun, or
the one before when its own has not. -/
def weekYear (d : CivilDate) (r : WeekRule) : Int :=
  if r.yearStart (d.year + 1) ≤ d.dayCount then d.year + 1
  else if r.yearStart d.year ≤ d.dayCount then d.year
  else d.year - 1

/-- The number of the date's week in its week year, counted from one. -/
def week (d : CivilDate) (r : WeekRule) : Int :=
  (d.dayCount - r.yearStart (d.weekYear r)) / 7 + 1

end CivilDate

end DatePattern
