import DatePattern.Calendar.Week
import Mathlib.Data.Int.Init
import Mathlib.Tactic.IntervalCases

/-! Civil dates and day counts determine each other. A date is first placed in the year that begins
on the first of March, where the leap day comes last. -/
namespace DatePattern

theorem isLeapYear_iff (year : Int) :
    isLeapYear year = true ↔ year % 4 = 0 ∧ (year % 100 ≠ 0 ∨ year % 400 = 0) := by
  simp [isLeapYear]

theorem monthLength_le (year month : Int) : monthLength year month ≤ 31 := by
  unfold monthLength
  split
  · split <;> omega
  · split <;> omega

/-- Every month is longest in a leap year. -/
theorem monthLength_le_leap (year month : Int) : monthLength year month ≤ monthLength 2000 month := by
  have hleap : isLeapYear 2000 = true := rfl
  simp only [monthLength, hleap, if_true]
  split
  · split <;> decide
  · exact Int.le_refl _

namespace CivilDate

/-- The day count of the first of March of a year, for every signed year. -/
def marchStart (year : Int) : Int :=
  365 * year + year / 4 - year / 100 + year / 400 - 719468

def marchYearLength (year : Int) : Int := if isLeapYear (year + 1) then 366 else 365

def marchYear (d : CivilDate) : Int := if d.month ≤ 2 then d.year - 1 else d.year

/-- The month, counted from March as zero. -/
def marchMonth (d : CivilDate) : Int := if 2 < d.month then d.month - 3 else d.month + 9

/-- The days from the first of March to the date. -/
def marchDay (d : CivilDate) : Int := daysBeforeMonth d.marchMonth + d.day - 1

theorem marchStart_succ (year : Int) :
    marchStart (year + 1) = marchStart year + marchYearLength year := by
  unfold marchYearLength marchStart
  split <;> rename_i h <;> rw [isLeapYear_iff] at h <;> omega

theorem marchYearLength_mem (year : Int) :
    365 ≤ marchYearLength year ∧ marchYearLength year ≤ 366 := by
  unfold marchYearLength
  split <;> decide

/-- Every day lies in some year: walking a day forward or back leaves a year only for the one
beside it. -/
theorem exists_marchDay (n : Int) :
    ∃ year k, 0 ≤ k ∧ k < marchYearLength year ∧ marchStart year + k = n := by
  induction n with
  | zero => exact ⟨1969, 306, by decide⟩
  | succ n ih =>
    obtain ⟨year, k, hk, hl, hn⟩ := ih
    by_cases h : k + 1 < marchYearLength year
    · exact ⟨year, k + 1, by omega, h, by omega⟩
    · have := marchStart_succ year
      have := marchYearLength_mem (year + 1)
      exact ⟨year + 1, 0, by omega, by omega, by omega⟩
  | pred n ih =>
    obtain ⟨year, k, hk, hl, hn⟩ := ih
    by_cases h : 0 < k
    · exact ⟨year, k - 1, by omega, by omega, by omega⟩
    · have hs := marchStart_succ (year - 1)
      rw [Int.sub_add_cancel] at hs
      have := marchYearLength_mem (year - 1)
      exact ⟨year - 1, marchYearLength (year - 1) - 1, by omega, by omega, by omega⟩

/-- The formula by eras of four hundred years is the one by the year alone. -/
theorem marchStart_eq_era (year : Int) :
    marchStart year = year / 400 * 146097 + daysBeforeYear (year - year / 400 * 400) - 719468 := by
  unfold marchStart daysBeforeYear
  omega

theorem dayCount_eq_marchStart_add (d : CivilDate) :
    d.dayCount = marchStart d.marchYear + d.marchDay := by
  rw [marchStart_eq_era]
  simp only [dayCount, marchYear, marchDay, marchMonth]
  omega

/-- The centuries of an era that are complete on a day of it. The last day of an era would begin a
fifth century, which the last correction takes back. -/
private theorem centuries_of_era {y k : Int} (hy : 0 ≤ y ∧ y < 400) (hk : 0 ≤ k)
    (hl : k < marchYearLength y) :
    (daysBeforeYear y + k) / 36524 - (daysBeforeYear y + k) / 146096 = y / 100 := by
  generalize hn : daysBeforeYear y + k = n
  have hday : n = 146096 ∧ y / 100 = 3 ∨
      36524 * (y / 100) ≤ n ∧ n < 36524 * (y / 100 + 1) ∧ n < 146096 := by
    subst hn
    unfold marchYearLength at hl
    unfold daysBeforeYear
    split at hl <;> rename_i h <;> rw [isLeapYear_iff] at h <;> omega
  rcases hday with ⟨rfl, hc⟩ | ⟨hlo, hhi, hlast⟩
  · rw [hc]
    decide
  · have hcentury : n / 36524 = y / 100 := by omega
    have hera : n / 146096 = 0 := by omega
    omega

/-- The corrections find the year of a day of an era, up to the last day of the year. -/
theorem yearOfEra_daysBeforeYear_add {y k : Int} (hy : 0 ≤ y ∧ y < 400) (hk : 0 ≤ k)
    (hl : k < marchYearLength y) : yearOfEra (daysBeforeYear y + k) = y := by
  have hc := centuries_of_era hy hk hl
  have hf : (daysBeforeYear y + k) / 1460 = y / 4 ∨ (daysBeforeYear y + k) / 1460 = y / 4 + 1 := by
    have := marchYearLength_mem y
    unfold daysBeforeYear
    omega
  unfold yearOfEra marchYearLength daysBeforeYear at *
  split at hl <;> rename_i h <;> rw [isLeapYear_iff] at h <;> omega

/-- The era, and the year in it, of a day that is given by its year and its place in the year. -/
theorem ofDayCount_marchStart_add {year k : Int} (hk : 0 ≤ k) (hl : k < marchYearLength year) :
    ofDayCount (marchStart year + k) = ofMarchDay year k := by
  have hy : 0 ≤ year - year / 400 * 400 ∧ year - year / 400 * 400 < 400 := by omega
  have hleap : marchYearLength (year - year / 400 * 400) = marchYearLength year := by
    have hiff : isLeapYear (year - year / 400 * 400 + 1) = isLeapYear (year + 1) := by
      rw [Bool.eq_iff_iff, isLeapYear_iff, isLeapYear_iff]
      omega
    unfold marchYearLength
    rw [hiff]
  have hyear := yearOfEra_daysBeforeYear_add hy hk (hleap ▸ hl)
  have hera : (marchStart year + k + 719468) / 146097 = year / 400 := by
    rw [← hleap] at hl
    unfold marchYearLength at hl
    unfold marchStart
    split at hl <;> rename_i h <;> rw [isLeapYear_iff] at h <;> omega
  have hday : marchStart year + k + 719468 - year / 400 * 146097 =
      daysBeforeYear (year - year / 400 * 400) + k := by
    rw [marchStart_eq_era]
    omega
  simp only [ofDayCount, hera, hday, hyear]
  congr 1 <;> omega

/-- The months before February have their length in every year. -/
theorem daysBeforeMonth_succ {m : Int} (year : Int) (h0 : 0 ≤ m) (h1 : m < 11) :
    daysBeforeMonth (m + 1) =
      daysBeforeMonth m + monthLength year (if m < 10 then m + 3 else m - 9) := by
  interval_cases m <;> rfl

/-- February takes the days that are left of a year that begins in March. -/
theorem monthLength_february (year : Int) :
    monthLength (year + 1) 2 = marchYearLength year - 337 := by
  unfold marchYearLength
  rw [monthLength, if_pos rfl]
  split <;> rfl

/-- The first days of the months bound the days of a month, so that division finds the month. -/
private theorem marchMonth_of_day {m k : Int} :
    (5 * k + 2) / 153 = m ↔ daysBeforeMonth m ≤ k ∧ k < daysBeforeMonth (m + 1) := by
  unfold daysBeforeMonth
  omega

theorem ofMarchDay_isValid {year k : Int} (hk : 0 ≤ k) (hl : k < marchYearLength year) :
    (ofMarchDay year k).IsValid := by
  have hlong := marchYearLength_mem year
  have hm : 0 ≤ (5 * k + 2) / 153 ∧ (5 * k + 2) / 153 ≤ 11 := by omega
  obtain ⟨hlo, hhi⟩ := marchMonth_of_day.mp (rfl : (5 * k + 2) / 153 = _)
  simp only [IsValid, ofMarchDay]
  generalize (5 * k + 2) / 153 = m at *
  refine ⟨by omega, by omega, by omega, ?_⟩
  by_cases hfeb : m < 11
  · rw [daysBeforeMonth_succ (year + if (if m < 10 then m + 3 else m - 9) ≤ 2 then 1 else 0)
      hm.1 hfeb] at hhi
    omega
  · obtain rfl : m = 11 := by omega
    have hfebruary := monthLength_february year
    have hbefore : daysBeforeMonth 11 = 337 := rfl
    simp only [Int.reduceLT, if_false, Int.reduceSub, Int.reduceLE, if_true]
    omega

theorem marchDay_ofMarchDay {year k : Int} (hk : 0 ≤ k) (hl : k < marchYearLength year) :
    (ofMarchDay year k).marchYear = year ∧ (ofMarchDay year k).marchDay = k := by
  have hlong := marchYearLength_mem year
  have hm : 0 ≤ (5 * k + 2) / 153 ∧ (5 * k + 2) / 153 ≤ 11 := by omega
  have hmonth : (ofMarchDay year k).marchMonth = (5 * k + 2) / 153 := by
    simp only [ofMarchDay, marchMonth]
    omega
  constructor
  · simp only [ofMarchDay, marchYear]
    omega
  · rw [marchDay, hmonth]
    simp only [ofMarchDay]
    omega

/-- Where a day of the calendar stands in its year from March on. -/
theorem marchDay_mem {d : CivilDate} (hd : d.IsValid) :
    0 ≤ d.marchMonth ∧ daysBeforeMonth d.marchMonth ≤ d.marchDay ∧
      d.marchDay < daysBeforeMonth (d.marchMonth + 1) ∧
      d.marchDay < marchYearLength d.marchYear := by
  obtain ⟨hm, hm', hday, hday'⟩ := hd
  have hlong := marchYearLength_mem d.marchYear
  have hmarch : 0 ≤ d.marchMonth ∧ d.marchMonth ≤ 11 := by
    unfold marchMonth
    omega
  have hmonth : (if d.marchMonth < 10 then d.marchMonth + 3 else d.marchMonth - 9) = d.month := by
    unfold marchMonth
    omega
  unfold marchDay
  by_cases hfeb : d.marchMonth < 11
  · have hnext := daysBeforeMonth_succ d.year hmarch.1 hfeb
    have hend : daysBeforeMonth (d.marchMonth + 1) ≤ 337 := by
      unfold daysBeforeMonth
      omega
    rw [hmonth] at hnext
    omega
  · have hbefore : d.marchMonth = 11 := by omega
    have htwo : d.month = 2 := by omega
    have hyear : d.year = d.marchYear + 1 := by
      unfold marchYear
      omega
    have hfebruary := monthLength_february d.marchYear
    rw [htwo, hyear] at hday'
    have hnumber : daysBeforeMonth 11 = 337 ∧ daysBeforeMonth (11 + 1) = 367 := ⟨rfl, rfl⟩
    rw [hbefore]
    omega

theorem ofMarchDay_marchDay {d : CivilDate} (hd : d.IsValid) :
    ofMarchDay d.marchYear d.marchDay = d := by
  obtain ⟨-, hlo, hhi, -⟩ := marchDay_mem hd
  have hm := marchMonth_of_day.mpr ⟨hlo, hhi⟩
  obtain ⟨y, m, day⟩ := d
  obtain ⟨hm1, hm12, -⟩ := hd
  simp only [ofMarchDay, hm]
  simp only [marchYear, marchDay, marchMonth, CivilDate.mk.injEq] at *
  refine ⟨?_, ?_, ?_⟩ <;> omega

theorem dayCount_ofDayCount (n : Int) : (ofDayCount n).dayCount = n := by
  obtain ⟨year, k, hk, hl, rfl⟩ := exists_marchDay n
  obtain ⟨hyear, hday⟩ := marchDay_ofMarchDay hk hl
  rw [ofDayCount_marchStart_add hk hl, dayCount_eq_marchStart_add, hyear, hday]

theorem ofDayCount_isValid (n : Int) : (ofDayCount n).IsValid := by
  obtain ⟨year, k, hk, hl, rfl⟩ := exists_marchDay n
  rw [ofDayCount_marchStart_add hk hl]
  exact ofMarchDay_isValid hk hl

theorem ofDayCount_dayCount {d : CivilDate} (hd : d.IsValid) : ofDayCount d.dayCount = d := by
  obtain ⟨hm, hlo, -, hl⟩ := marchDay_mem hd
  have hk : 0 ≤ d.marchDay := by
    unfold daysBeforeMonth at hlo
    omega
  rw [dayCount_eq_marchStart_add, ofDayCount_marchStart_add hk hl, ofMarchDay_marchDay hd]

/-- The dates of the calendar and the integers correspond one to one, before the epoch and after
it. No bound on the year or on the count is assumed. -/
theorem dayCount_correspondence :
    (∀ n : Int, (ofDayCount n).IsValid ∧ (ofDayCount n).dayCount = n) ∧
      ∀ d : CivilDate, d.IsValid → ofDayCount d.dayCount = d :=
  ⟨fun n => ⟨ofDayCount_isValid n, dayCount_ofDayCount n⟩, fun _ hd => ofDayCount_dayCount hd⟩

/-- A leap day before the era, the last day of its cycle of four hundred years. -/
theorem dayCount_correspondence_leapDay :
    IsValid ⟨-400, 2, 29⟩ ∧ ofDayCount (dayCount ⟨-400, 2, 29⟩) = ⟨-400, 2, 29⟩ :=
  ⟨by decide, dayCount_correspondence.2 ⟨-400, 2, 29⟩ (by decide)⟩

end CivilDate

end DatePattern
