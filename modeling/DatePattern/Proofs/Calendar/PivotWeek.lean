import DatePattern.Proofs.Calendar.DayCount
import Mathlib.Order.Monotone.Basic

/-! Weeks belong to the year of their pivot day. The pivot is the day of the week that is in week 1
when it is one of the first seven days of January; under the international rule it is Thursday. -/
namespace DatePattern

namespace CivilDate

def januaryStart (year : Int) : Int := dayCount ⟨year, 1, 1⟩

/-- The days of January follow each other, as far as the formula goes. -/
theorem dayCount_january (year day : Int) :
    dayCount ⟨year, 1, day⟩ = januaryStart year + day - 1 := by
  simp only [januaryStart, dayCount]
  omega

theorem januaryStart_eq_marchStart_add (year : Int) :
    januaryStart year = marchStart (year - 1) + 306 := by
  rw [januaryStart, dayCount_eq_marchStart_add]
  rfl

theorem januaryStart_succ (year : Int) :
    januaryStart (year + 1) = januaryStart year + marchYearLength (year - 1) := by
  have h := marchStart_succ (year - 1)
  rw [Int.sub_add_cancel] at h
  rw [januaryStart_eq_marchStart_add, januaryStart_eq_marchStart_add, Int.add_sub_cancel]
  omega

theorem januaryStart_lt_iff {a b : Int} : januaryStart a < januaryStart b ↔ a < b := by
  have hmono : StrictMono januaryStart := by
    refine strictMono_int_of_lt_succ fun year => ?_
    have := marchYearLength_mem (year - 1)
    rw [januaryStart_succ]
    omega
  exact hmono.lt_iff_lt

/-- A date lies between the first days of its year and of the next. -/
theorem januaryStart_le_dayCount {d : CivilDate} (hd : d.IsValid) :
    januaryStart d.year ≤ d.dayCount ∧ d.dayCount < januaryStart (d.year + 1) := by
  obtain ⟨h0, hlo, hhi, hl⟩ := marchDay_mem hd
  have hs := marchStart_succ (d.year - 1)
  rw [Int.sub_add_cancel] at hs
  rw [dayCount_eq_marchStart_add, januaryStart_eq_marchStart_add, januaryStart_eq_marchStart_add,
    Int.add_sub_cancel]
  have hm := hd.1
  have hm' := hd.2.1
  by_cases h : d.month ≤ 2
  · have hyear : d.marchYear = d.year - 1 := if_pos h
    have hmonth : 10 ≤ d.marchMonth := by
      unfold marchMonth
      omega
    have : 306 ≤ daysBeforeMonth d.marchMonth := by
      unfold daysBeforeMonth
      omega
    rw [hyear] at hl ⊢
    omega
  · have hyear : d.marchYear = d.year := if_neg h
    have hmonth : d.marchMonth ≤ 9 := by
      unfold marchMonth
      omega
    have : daysBeforeMonth (d.marchMonth + 1) ≤ 306 := by
      unfold daysBeforeMonth
      omega
    have : 0 ≤ daysBeforeMonth d.marchMonth := by
      unfold daysBeforeMonth
      omega
    have := marchYearLength_mem (d.year - 1)
    rw [hyear]
    omega

/-- The year of a day is the one whose first day is the last at or before it. -/
theorem year_ofDayCount {n year : Int} (hlo : januaryStart year ≤ n)
    (hhi : n < januaryStart (year + 1)) : (ofDayCount n).year = year := by
  have h := januaryStart_le_dayCount (ofDayCount_isValid n)
  rw [dayCount_ofDayCount] at h
  have hle := januaryStart_lt_iff.mp (h.1.trans_lt hhi)
  have hge := januaryStart_lt_iff.mp (hlo.trans_lt h.2)
  omega

end CivilDate

namespace WeekRule

open CivilDate

variable {r : WeekRule} {s n : Int}

/-- Day `s` begins a week under the rule, and day `n` is one of its seven days. -/
def BeginsWeekOf (r : WeekRule) (s n : Int) : Prop :=
  weekday s = r.startsOn ∧ s ≤ n ∧ n < s + 7

/-- The day by which the week that begins on day `s` is given its year. -/
def pivotDay (r : WeekRule) (s : Int) : Int := s + 7 - r.januaryDay

def pivot (r : WeekRule) (s : Int) : CivilDate := ofDayCount (r.pivotDay s)

theorem beginsWeekOf_iff (hr : r.IsValid) : r.BeginsWeekOf s n ↔ s = r.weekStart n := by
  obtain ⟨⟨h0, h6⟩, -⟩ := hr
  unfold BeginsWeekOf weekStart weekday
  omega

/-- The weeks of a year have begun by a day when the pivot of the day's week is in the year or
later. -/
theorem yearStart_le_iff (hr : r.IsValid) (h : r.BeginsWeekOf s n) (year : Int) :
    r.yearStart year ≤ n ↔ januaryStart year ≤ r.pivotDay s := by
  obtain ⟨⟨h0, h6⟩, h1, h7⟩ := hr
  unfold BeginsWeekOf weekday at h
  unfold yearStart weekStart weekday pivotDay
  rw [dayCount_january]
  omega

/-- Counted from the first day of week 1, a day is in the week that its pivot is in when counted from
the first of January. -/
theorem week_eq_pivot_week (hr : r.IsValid) (h : r.BeginsWeekOf s n) (year : Int) :
    (n - r.yearStart year) / 7 = (r.pivotDay s - januaryStart year) / 7 := by
  obtain ⟨⟨h0, h6⟩, h1, h7⟩ := hr
  unfold BeginsWeekOf weekday at h
  unfold yearStart weekStart weekday pivotDay
  rw [dayCount_january]
  omega

end WeekRule

namespace CivilDate

open WeekRule

variable {r : WeekRule} {d : CivilDate} {s : Int}

/-- The pivot of a date's week is less than a week away, and so at most one year. -/
theorem year_pivot_mem (hr : r.IsValid) (hd : d.IsValid) (h : r.BeginsWeekOf s d.dayCount) :
    januaryStart (d.year - 1) ≤ r.pivotDay s ∧ r.pivotDay s < januaryStart (d.year + 1 + 1) := by
  obtain ⟨-, h1, h7⟩ := hr
  obtain ⟨-, hlo, hhi⟩ := h
  have hday := januaryStart_le_dayCount hd
  have hprev := januaryStart_succ (d.year - 1)
  rw [Int.sub_add_cancel] at hprev
  have hnext := januaryStart_succ (d.year + 1)
  have := marchYearLength_mem (d.year - 1 - 1)
  have := marchYearLength_mem (d.year + 1 - 1)
  unfold pivotDay
  omega

theorem weekYear_eq_pivot_year (hr : r.IsValid) (hd : d.IsValid)
    (h : r.BeginsWeekOf s d.dayCount) : d.weekYear r = (r.pivot s).year := by
  obtain ⟨hlo, hhi⟩ := year_pivot_mem hr hd h
  have hown := yearStart_le_iff hr h d.year
  have hnext := yearStart_le_iff hr h (d.year + 1)
  unfold weekYear pivot
  split
  case isTrue hn => exact (year_ofDayCount (hnext.mp hn) hhi).symm
  case isFalse hn =>
    have hbefore := Int.not_le.mp (hnext.not.mp hn)
    split
    case isTrue ho => exact (year_ofDayCount (hown.mp ho) hbefore).symm
    case isFalse ho =>
      have hend := Int.not_le.mp (hown.not.mp ho)
      exact (year_ofDayCount hlo (by rwa [Int.sub_add_cancel])).symm

theorem dayOfYear_ofDayCount (n : Int) :
    (ofDayCount n).dayOfYear = n - januaryStart (ofDayCount n).year + 1 := by
  rw [dayOfYear, dayCount_ofDayCount, januaryStart]

theorem week_eq_week_of_pivot (hr : r.IsValid) (hd : d.IsValid)
    (h : r.BeginsWeekOf s d.dayCount) : d.week r = ((r.pivot s).dayOfYear - 1) / 7 + 1 := by
  rw [week, weekYear_eq_pivot_year hr hd h, week_eq_pivot_week hr h, pivot, dayOfYear_ofDayCount,
    Int.add_sub_cancel]

theorem dayOfYear_mem (hd : d.IsValid) : 1 ≤ d.dayOfYear ∧ d.dayOfYear ≤ 366 := by
  have hday := januaryStart_le_dayCount hd
  have hlong := marchYearLength_mem (d.year - 1)
  rw [januaryStart_succ] at hday
  rw [dayOfYear, ← januaryStart]
  omega

theorem week_mem (hr : r.IsValid) (hd : d.IsValid) : 1 ≤ d.week r ∧ d.week r ≤ 53 := by
  have hpivot := dayOfYear_mem (ofDayCount_isValid (r.pivotDay (r.weekStart d.dayCount)))
  rw [week_eq_week_of_pivot hr hd ((beginsWeekOf_iff hr).mpr rfl), pivot]
  omega

/-- The week year and the week of a date, under any rule and in any year, are the calendar year of
its week's pivot and the number of sevens of days from the first of January to the pivot. So the week
year is at most one year off, and there are at most 53 weeks. -/
theorem week_by_pivot (r : WeekRule) (hr : r.IsValid) (d : CivilDate) (hd : d.IsValid) :
    (∃! s, r.BeginsWeekOf s d.dayCount) ∧ ∀ s, r.BeginsWeekOf s d.dayCount →
      d.weekYear r = (r.pivot s).year ∧
      d.week r = ((r.pivot s).dayOfYear - 1) / 7 + 1 ∧
      (d.year - 1 ≤ d.weekYear r ∧ d.weekYear r ≤ d.year + 1) ∧
      (1 ≤ d.week r ∧ d.week r ≤ 53) := by
  refine ⟨⟨r.weekStart d.dayCount, (beginsWeekOf_iff hr).mpr rfl, fun s h =>
    (beginsWeekOf_iff hr).mp h⟩, fun s h => ?_⟩
  have hyear := weekYear_eq_pivot_year hr hd h
  have hweek := week_eq_week_of_pivot hr hd h
  refine ⟨hyear, hweek, ?_, ?_⟩
  · unfold weekYear
    split_ifs <;> omega
  · have hday := januaryStart_le_dayCount (ofDayCount_isValid (r.pivotDay s))
    have hlong := marchYearLength_mem ((r.pivot s).year - 1)
    rw [dayCount_ofDayCount, januaryStart_succ] at hday
    rw [hweek]
    unfold pivot at *
    rw [dayOfYear_ofDayCount]
    omega

/-- By the international rule the first of January of the year 0 ends a week of the year -1. -/
theorem week_by_pivot_newYear :
    WeekRule.iso.IsValid ∧ IsValid ⟨0, 1, 1⟩ ∧
      WeekRule.iso.BeginsWeekOf (-719533) (dayCount ⟨0, 1, 1⟩) ∧
      weekYear ⟨0, 1, 1⟩ .iso = (WeekRule.iso.pivot (-719533)).year ∧
      week ⟨0, 1, 1⟩ .iso = ((WeekRule.iso.pivot (-719533)).dayOfYear - 1) / 7 + 1 := by
  have hr : WeekRule.iso.IsValid := by decide
  have hd : IsValid ⟨0, 1, 1⟩ := by decide
  have hs : WeekRule.iso.BeginsWeekOf (-719533) (dayCount ⟨0, 1, 1⟩) :=
    ⟨by decide, by decide, by decide⟩
  obtain ⟨hyear, hweek, -⟩ := (week_by_pivot .iso hr ⟨0, 1, 1⟩ hd).2 (-719533) hs
  exact ⟨hr, hd, hs, hyear, hweek⟩

end CivilDate

end DatePattern
