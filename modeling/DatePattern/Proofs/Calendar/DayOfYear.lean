import DatePattern.Proofs.Calendar.NextDay
import DatePattern.Proofs.Calendar.PivotWeek
import DatePattern.Proofs.Moment.Instant
import DatePattern.Proofs.Record.IntegerFields
import Mathlib.Algebra.Order.BigOperators.Group.LocallyFinite
import Mathlib.Data.Int.ConditionallyCompleteOrder
import Mathlib.Data.Int.Interval
import Mathlib.Data.Int.SuccPred

/-! The number of a day in its year is told by the lengths of the months. It comes from a count that
begins its years in March, so January and February are counted from another year than the other ten
months. -/
namespace DatePattern

namespace CivilDate

/-- The days of a year. -/
def yearLength (year : Int) : Int := if isLeapYear year then 366 else 365

variable {d e : CivilDate} {year month : Int}

/-- The leap day of a year is in the year from March on that ends with its February. -/
theorem marchYearLength_sub_one (year : Int) : marchYearLength (year - 1) = yearLength year := by
  rw [marchYearLength, yearLength, Int.sub_add_cancel]

theorem dayCount_eq_first_add (year month day : Int) :
    dayCount ⟨year, month, day⟩ = dayCount ⟨year, month, 1⟩ + day - 1 := by
  simp only [dayCount]
  omega

theorem dayCount_first_succ (h1 : 1 ≤ month) (h12 : month < 12) :
    dayCount ⟨year, month + 1, 1⟩ = dayCount ⟨year, month, 1⟩ + monthLength year month := by
  have hlast := dayCount_eq_first_add year month (monthLength year month)
  rw [dayCount_month_succ year h1 h12]
  omega

/-- The first day of a month comes behind all days of the months before it. -/
theorem dayCount_first_eq_sum (h1 : 1 ≤ month) (h12 : month ≤ 12) :
    dayCount ⟨year, month, 1⟩ =
      januaryStart year + ∑ j ∈ Finset.Ico 1 month, monthLength year j := by
  induction month, h1 using Int.leInduction with
  | base =>
    rw [Finset.Ico_self, Finset.sum_empty, Int.add_zero, januaryStart]
  | succ month h1 ih =>
    rw [dayCount_first_succ h1 (by omega), ih (by omega), Int.add_assoc,
      Finset.sum_Ico_add_eq_sum_Ico_add_one h1]

theorem dayOfYear_eq_sum_add (hd : d.IsValid) :
    d.dayOfYear = (∑ j ∈ Finset.Ico 1 d.month, monthLength d.year j) + d.day := by
  obtain ⟨h1, h12, -⟩ := hd
  have hfirst : dayCount ⟨d.year, d.month, 1⟩ = _ := dayCount_first_eq_sum h1 h12
  have hday : d.dayCount = _ := dayCount_eq_first_add d.year d.month d.day
  rw [dayOfYear, ← januaryStart]
  omega

theorem dayOfYear_le_yearLength (hd : d.IsValid) :
    1 ≤ d.dayOfYear ∧ d.dayOfYear ≤ yearLength d.year := by
  obtain ⟨hfirst, hnext⟩ := januaryStart_le_dayCount hd
  rw [januaryStart_succ, marchYearLength_sub_one] at hnext
  rw [dayOfYear, ← januaryStart]
  omega

/-- The year and the number in it determine the count, and so the date. -/
theorem eq_of_dayOfYear_eq (hd : d.IsValid) (he : e.IsValid) (hyear : d.year = e.year)
    (h : d.dayOfYear = e.dayOfYear) : d = e := by
  apply eq_of_dayCount_eq hd he
  rw [dayOfYear, dayOfYear, hyear] at h
  omega

theorem dayOfYear_december (year : Int) : dayOfYear ⟨year, 12, 31⟩ = yearLength year := by
  have hturn := dayCount_year_succ year
  have hnext := januaryStart_succ year
  rw [marchYearLength_sub_one] at hnext
  change dayCount ⟨year, 12, 31⟩ - januaryStart year + 1 = yearLength year
  rw [januaryStart] at hnext
  omega

theorem dayOfYear_eq_yearLength_iff (hd : d.IsValid) :
    d.dayOfYear = yearLength d.year ↔ d.month = 12 ∧ d.day = 31 := by
  have hlast : IsValid ⟨d.year, 12, 31⟩ := ⟨by simp, by simp, by simp, Int.le_refl 31⟩
  constructor
  · intro h
    rw [← dayOfYear_december] at h
    have hsame := eq_of_dayOfYear_eq hd hlast rfl h
    rw [hsame]
    exact ⟨rfl, rfl⟩
  · rintro ⟨hmonth, hday⟩
    obtain ⟨year, month, day⟩ := d
    simp only at hmonth hday
    subst hmonth hday
    exact dayOfYear_december year

/-- The number of a day in its year is the day of its month behind the lengths of the months before, in
leap years and others, before the era too. So it is at most the length of the year and reaches it on
the last of December alone, and with the year it tells the date. It is what a moment with an instant
has as its number, and a record that shows the moment as well. -/
theorem dayOfYear_by_months :
    (∀ d : CivilDate, d.IsValid →
      d.dayOfYear = (∑ j ∈ Finset.Ico 1 d.month, monthLength d.year j) + d.day ∧
      (1 ≤ d.dayOfYear ∧ d.dayOfYear ≤ yearLength d.year) ∧
      (d.dayOfYear = yearLength d.year ↔ d.month = 12 ∧ d.day = 31)) ∧
    (∀ d e : CivilDate, d.IsValid → e.IsValid → d.year = e.year → d.dayOfYear = e.dayOfYear →
      d = e) ∧
    ∀ m : Moment, m.isValid = true →
      let number := (∑ j ∈ Finset.Ico 1 (m.wall.month + 1), monthLength m.wall.year j) + m.wall.day
      m.dayOfYear = .ok number ∧
      ∀ r : MomentFields Argument, r.Shows m → r.dayOfYear = .ok (.int number) := by
  refine ⟨fun d hd => ⟨dayOfYear_eq_sum_add hd, dayOfYear_le_yearLength hd,
    dayOfYear_eq_yearLength_iff hd⟩, fun d e hd he => eq_of_dayOfYear_eq hd he, ?_⟩
  intro m hvalid number
  have hdate : m.date.IsValid := WallClock.date_isValid (m.inRange hvalid)
  have hnumber : m.date.dayOfYear = number := dayOfYear_eq_sum_add hdate
  rw [← hnumber]
  refine ⟨if_pos hvalid, ?_⟩
  intro r hr
  exact hr.dayOfYear_eq

/-- The leap day and the last day of a leap year before the era, and a moment on the leap day. -/
theorem dayOfYear_by_months_leapYear :
    let m : Moment := ⟨⟨-400, 1, 29, 12, 0, 0, 0⟩, some (-74784859200000), 0, fun _ => by decide⟩
    IsValid ⟨-400, 2, 29⟩ ∧ dayOfYear ⟨-400, 2, 29⟩ = 31 + 29 ∧
    IsValid ⟨-400, 12, 31⟩ ∧ dayOfYear ⟨-400, 12, 31⟩ = 366 ∧
    m.isValid = true ∧ m.dayOfYear = .ok (31 + 29) := by
  intro m
  have hleap : IsValid ⟨-400, 2, 29⟩ := by decide
  have hlast : IsValid ⟨-400, 12, 31⟩ := by decide
  obtain ⟨hsum, -, -⟩ := dayOfYear_by_months.1 _ hleap
  obtain ⟨-, -, hmax⟩ := dayOfYear_by_months.1 _ hlast
  obtain ⟨hmoment, -⟩ := dayOfYear_by_months.2.2 m rfl
  exact ⟨hleap, hsum, hlast, hmax.mpr ⟨rfl, rfl⟩, rfl, hmoment⟩

end CivilDate

end DatePattern
