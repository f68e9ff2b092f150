import DatePattern.Argument.Item
import DatePattern.Calendar.Week

/-! The calendar on years, months and days of any kind. On integers it is that of civil dates. -/
namespace DatePattern

/-- A year, a month and a day of the month of any kind, the last two counted from one. -/
structure DateRecord where
  year : Argument
  month : Argument
  day : Argument

/-- A rule of weeks of any kind: the weekday that begins a week and the day of January that week 1
contains. -/
structure WeekRuleRecord where
  startsOn : Argument
  januaryDay : Argument

def CivilDate.record (d : CivilDate) : DateRecord := ⟨.int d.year, .int d.month, .int d.day⟩

def WeekRule.record (r : WeekRule) : WeekRuleRecord := ⟨.int r.startsOn, .int r.januaryDay⟩

namespace DateRecord

/-- Leap years, as for integers. -/
def isLeapYear (year : Argument) : Except ArgumentFault Bool := do
  if ← (← year.mod 4).equalsInt 0 then
    if ← (← year.mod 100).equalsInt 0 then (← year.mod 400).equalsInt 0 else return true
  else return false

/-- The length of a month. Months other than the February of a leap year are looked up by their
number. -/
def monthLength (year month : Argument) : Except ArgumentFault Int := do
  let isLeapFebruary ← if ← month.equalsInt 2 then isLeapYear year else pure false
  if isLeapFebruary then return 29
  else
    match monthLength? 1 ((← (← month.sub (.int 1)).place) + 1) with
    | some n => return n
    | none => throw .tupleIndex

/-- The year by which days are counted, which begins in March. -/
def marchYear (d : DateRecord) : Computed := do
  if ← d.month.compares .atMost 2 then d.year.sub 1 else return d.year

/-- The month, counted from March as zero. -/
def marchMonth (d : DateRecord) : Computed := do
  if ← d.month.compares .above 2 then d.month.sub 3 else d.month.add 9

def daysBeforeYear (yearOfEra : Argument) : Computed := do
  let days ← (← yearOfEra.times 365).add (← yearOfEra.floorDiv 4)
  days.sub (← yearOfEra.floorDiv 100)

def daysBeforeMonth (marchMonth : Argument) : Computed := do
  (← (← marchMonth.times 153).add 2).floorDiv 5

def dayCount (d : DateRecord) : Computed := do
  let year ← d.marchYear
  let era ← year.floorDiv 400
  let yearOfEra ← year.sub (← era.times 400)
  let dayOfYear ← (← (← daysBeforeMonth (← d.marchMonth)).add d.day).sub 1
  let dayOfEra ← (← daysBeforeYear yearOfEra).add dayOfYear
  (← (← era.times 146097).add dayOfEra).sub 719468

/-- The month, counted from January as one, of a month that is counted from March as zero. -/
def monthOfMarch (marchMonth : Argument) : Computed := do
  if ← marchMonth.compares .below 10 then marchMonth.add 3 else marchMonth.sub 9

/-- The number of years by which a month is ahead of the year that begins in March. -/
def yearsAhead (month : Argument) : Computed := do
  if ← month.compares .atMost 2 then return 1 else return 0

def yearOfEra (dayOfEra : Argument) : Computed := do
  let days ← (← dayOfEra.sub (← dayOfEra.floorDiv 1460)).add (← dayOfEra.floorDiv 36524)
  (← days.sub (← dayOfEra.floorDiv 146096)).floorDiv 365

def ofMarchDay (year dayOfYear : Argument) : Except ArgumentFault DateRecord := do
  let marchMonth ← (← (← dayOfYear.times 5).add 2).floorDiv 153
  let day ← (← dayOfYear.sub (← daysBeforeMonth marchMonth)).add 1
  let month ← monthOfMarch marchMonth
  return ⟨← year.add (← yearsAhead month), month, day⟩

def ofDayCount (n : Argument) : Except ArgumentFault DateRecord := do
  let z ← n.add 719468
  let era ← z.floorDiv 146097
  let dayOfEra ← z.sub (← era.times 146097)
  let year ← yearOfEra dayOfEra
  ofMarchDay (← year.add (← era.times 400)) (← dayOfEra.sub (← daysBeforeYear year))

def weekday (n : Argument) : Computed := do (← n.add 4).mod 7

def dayOfYear (d : DateRecord) : Computed := do
  (← (← d.dayCount).sub (← dayCount ⟨d.year, 1, 1⟩)).add 1

def yearStart (r : WeekRuleRecord) (year : Argument) : Computed := do
  let day ← dayCount ⟨year, 1, r.januaryDay⟩
  day.sub (← (← (← weekday day).sub r.startsOn).mod 7)

def weekYear (d : DateRecord) (r : WeekRuleRecord) : Computed := do
  let days ← d.dayCount
  if ← days.compares .atLeast (← yearStart r (← d.year.add 1)) then d.year.add 1
  else if ← days.compares .atLeast (← yearStart r d.year) then return d.year
  else d.year.sub 1

def week (d : DateRecord) (r : WeekRuleRecord) : Computed := do
  let days ← d.dayCount
  let start ← yearStart r (← d.weekYear r)
  (← (← days.sub start).floorDiv 7).add 1

section Integers

variable (r : WeekRule) (y m d n : Int)

theorem marchYear_int :
    marchYear ⟨.int y, .int m, .int d⟩ = .ok (.int (if m ≤ 2 then y - 1 else y)) := by
  by_cases h : m ≤ 2 <;> simp [marchYear, Comparison.holdsInt, h]; rfl

theorem marchMonth_int :
    marchMonth ⟨.int y, .int m, .int d⟩ = .ok (.int (if 2 < m then m - 3 else m + 9)) := by
  by_cases h : 2 < m <;> simp [marchMonth, Comparison.holdsInt, h]

theorem daysBeforeYear_int : daysBeforeYear (.int y) = .ok (.int (CivilDate.daysBeforeYear y)) := by
  simp [daysBeforeYear, CivilDate.daysBeforeYear]

theorem daysBeforeMonth_int :
    daysBeforeMonth (.int m) = .ok (.int (CivilDate.daysBeforeMonth m)) := by
  simp [daysBeforeMonth, CivilDate.daysBeforeMonth, Int.mul_comm]

theorem dayCount_int :
    dayCount ⟨.int y, .int m, .int d⟩ = .ok (.int (CivilDate.dayCount ⟨y, m, d⟩)) := by
  simp [dayCount, marchYear_int, marchMonth_int, daysBeforeYear_int, daysBeforeMonth_int,
    CivilDate.dayCount]

theorem weekday_int : weekday (.int n) = .ok (.int (DatePattern.weekday n)) := by
  simp [weekday, DatePattern.weekday]

theorem dayOfYear_int :
    dayOfYear ⟨.int y, .int m, .int d⟩ = .ok (.int (CivilDate.dayOfYear ⟨y, m, d⟩)) := by
  simp [dayOfYear, dayCount_int, CivilDate.dayOfYear]

theorem yearStart_int : yearStart r.record (.int y) = .ok (.int (r.yearStart y)) := by
  simp [yearStart, WeekRule.record, dayCount_int, weekday_int, WeekRule.yearStart,
    WeekRule.weekStart]

theorem weekYear_int :
    weekYear ⟨.int y, .int m, .int d⟩ r.record = .ok (.int (CivilDate.weekYear ⟨y, m, d⟩ r)) := by
  by_cases h : r.yearStart (y + 1) ≤ CivilDate.dayCount ⟨y, m, d⟩
  · simp [weekYear, dayCount_int, yearStart_int, Comparison.holdsInt, CivilDate.weekYear, h]
  · by_cases k : r.yearStart y ≤ CivilDate.dayCount ⟨y, m, d⟩ <;>
      simp [weekYear, dayCount_int, yearStart_int, Comparison.holdsInt, CivilDate.weekYear, h, k]
    rfl

theorem week_int :
    week ⟨.int y, .int m, .int d⟩ r.record = .ok (.int (CivilDate.week ⟨y, m, d⟩ r)) := by
  simp [week, dayCount_int, weekYear_int, yearStart_int, CivilDate.week]

end Integers

end DateRecord

end DatePattern
