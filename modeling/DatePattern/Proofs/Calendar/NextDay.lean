import DatePattern.Proofs.Calendar.DayCount
import Mathlib.Logic.Function.Iterate

/-! Day counts go through the calendar day by day, so that dates are ordered as their counts are. -/
namespace DatePattern

namespace CivilDate

/-- The day after a date. The last day of a month is followed by the first of the next, and the last
day of December by the first of January. -/
def next (d : CivilDate) : CivilDate :=
  if d.day < monthLength d.year d.month then ⟨d.year, d.month, d.day + 1⟩
  else if d.month < 12 then ⟨d.year, d.month + 1, 1⟩
  else ⟨d.year + 1, 1, 1⟩

/-- The order of dates by year, then by month, then by day. -/
def Precedes (d e : CivilDate) : Prop :=
  d.year < e.year ∨
    d.year = e.year ∧ (d.month < e.month ∨ d.month = e.month ∧ d.day < e.day)

instance (d e : CivilDate) : Decidable (d.Precedes e) :=
  inferInstanceAs (Decidable (_ ∨ _ ∧ (_ ∨ _ ∧ _)))

variable {d e f : CivilDate}

theorem monthLength_pos (year month : Int) : 1 ≤ monthLength year month := by
  unfold monthLength
  split
  · split <;> omega
  · split <;> omega

theorem next_isValid (hd : d.IsValid) : d.next.IsValid := by
  obtain ⟨hm1, hm12, hd1, -⟩ := hd
  unfold next
  split
  case isTrue hday => exact ⟨hm1, hm12, by simp only; omega, hday⟩
  case isFalse =>
    split
    case isTrue hmonth => exact ⟨by simp only; omega, hmonth, Int.le_refl 1, monthLength_pos _ _⟩
    case isFalse => exact ⟨Int.le_refl 1, by simp only; omega, Int.le_refl 1, monthLength_pos _ _⟩

/-- Within a month the formula counts one by one, beyond its last day too. -/
theorem dayCount_day_succ (year month day : Int) :
    dayCount ⟨year, month, day + 1⟩ = dayCount ⟨year, month, day⟩ + 1 := by
  simp only [dayCount]
  omega

/-- The month after February begins the year by which days are counted. -/
theorem dayCount_march (year : Int) :
    dayCount ⟨year, 3, 1⟩ = dayCount ⟨year, 2, monthLength year 2⟩ + 1 := by
  have hlong := monthLength_february (year - 1)
  have hstart := marchStart_succ (year - 1)
  rw [Int.sub_add_cancel] at hlong hstart
  have hmarch : daysBeforeMonth 0 = 0 := rfl
  have hfebruary : daysBeforeMonth 11 = 337 := rfl
  rw [dayCount_eq_marchStart_add, dayCount_eq_marchStart_add]
  simp only [marchYear, marchDay, marchMonth, Int.reduceLE, Int.reduceLT, if_true, if_false,
    Int.reduceSub, Int.reduceAdd, hmarch, hfebruary]
  omega

/-- The first of a month is the day after the last of the month before. -/
theorem dayCount_month_succ {month : Int} (year : Int) (h1 : 1 ≤ month) (h12 : month < 12) :
    dayCount ⟨year, month + 1, 1⟩ = dayCount ⟨year, month, monthLength year month⟩ + 1 := by
  by_cases hfebruary : month = 2
  · subst hfebruary
    exact dayCount_march year
  · -- Both months are in one year from March on, where they follow each other.
    let last : CivilDate := ⟨year, month, monthLength year month⟩
    let first : CivilDate := ⟨year, month + 1, 1⟩
    have hyear : first.marchYear = last.marchYear := by
      simp only [first, last, marchYear]
      omega
    have hnext : first.marchMonth = last.marchMonth + 1 := by
      simp only [first, last, marchMonth]
      omega
    have hplace : 0 ≤ last.marchMonth ∧ last.marchMonth < 11 := by
      simp only [last, marchMonth]
      omega
    have hnumber : (if last.marchMonth < 10 then last.marchMonth + 3 else last.marchMonth - 9) =
        month := by
      simp only [last, marchMonth]
      omega
    have hlong := daysBeforeMonth_succ year hplace.1 hplace.2
    rw [hnumber] at hlong
    have hday : first.marchDay = last.marchDay + 1 := by
      rw [marchDay, marchDay, hnext, hlong]
      simp only [first, last]
      omega
    change first.dayCount = last.dayCount + 1
    rw [dayCount_eq_marchStart_add, dayCount_eq_marchStart_add, hyear, hday, Int.add_assoc]

theorem dayCount_year_succ (year : Int) :
    dayCount ⟨year + 1, 1, 1⟩ = dayCount ⟨year, 12, 31⟩ + 1 := by
  have hdecember : daysBeforeMonth 9 = 275 := rfl
  have hjanuary : daysBeforeMonth 10 = 306 := rfl
  simp only [dayCount, Int.reduceLE, Int.reduceLT, if_true, if_false, Int.reduceSub, Int.reduceAdd,
    Int.add_sub_cancel, hdecember, hjanuary]
  omega

theorem dayCount_next (hd : d.IsValid) : d.next.dayCount = d.dayCount + 1 := by
  obtain ⟨year, month, day⟩ := d
  obtain ⟨hm1, hm12, -, hday⟩ := hd
  simp only at hm1 hm12 hday
  simp only [next]
  split
  case isTrue => exact dayCount_day_succ year month day
  case isFalse hlast =>
    obtain rfl : day = monthLength year month := by omega
    split
    case isTrue hmonth => exact dayCount_month_succ year hm1 hmonth
    case isFalse hmonth =>
      obtain rfl : month = 12 := by omega
      exact dayCount_year_succ year

/-- A date that is walked on for some days is a date, with as many days more before it. -/
theorem iterate_next (hd : d.IsValid) (n : Nat) :
    (next^[n] d).IsValid ∧ (next^[n] d).dayCount = d.dayCount + n := by
  induction n with
  | zero => exact ⟨hd, (Int.add_zero _).symm⟩
  | succ n ih =>
    obtain ⟨hvalid, hcount⟩ := ih
    rw [Function.iterate_succ_apply']
    refine ⟨next_isValid hvalid, ?_⟩
    rw [dayCount_next hvalid, hcount]
    omega

/-- No two dates have one count. -/
theorem eq_of_dayCount_eq (hd : d.IsValid) (he : e.IsValid) (h : d.dayCount = e.dayCount) :
    d = e := by
  rw [← ofDayCount_dayCount hd, h, ofDayCount_dayCount he]

/-- Walking on from a date comes to every date with a larger count. -/
theorem exists_iterate_next (hd : d.IsValid) (he : e.IsValid) (h : d.dayCount < e.dayCount) :
    ∃ n, next^[n + 1] d = e := by
  obtain ⟨n, hn⟩ := Int.exists_add_of_le (Int.add_one_le_of_lt h)
  obtain ⟨hvalid, hcount⟩ := iterate_next hd (n + 1)
  refine ⟨n, eq_of_dayCount_eq hvalid he ?_⟩
  rw [hcount, hn]
  omega

theorem Precedes.irrefl (d : CivilDate) : ¬ d.Precedes d := by
  unfold Precedes
  omega

theorem Precedes.trans (hde : d.Precedes e) (hef : e.Precedes f) : d.Precedes f := by
  unfold Precedes at *
  omega

theorem precedes_next (d : CivilDate) : d.Precedes d.next := by
  unfold next
  split
  case isTrue => exact .inr ⟨rfl, .inr ⟨rfl, Int.lt_succ d.day⟩⟩
  case isFalse =>
    split
    case isTrue => exact .inr ⟨rfl, .inl (Int.lt_succ d.month)⟩
    case isFalse => exact .inl (Int.lt_succ d.year)

theorem precedes_iterate_next (d : CivilDate) (n : Nat) : d.Precedes (next^[n + 1] d) := by
  induction n with
  | zero => exact precedes_next d
  | succ n ih =>
    rw [Function.iterate_succ_apply']
    exact ih.trans (precedes_next _)

theorem precedes_of_dayCount_lt (hd : d.IsValid) (he : e.IsValid) (h : d.dayCount < e.dayCount) :
    d.Precedes e := by
  obtain ⟨n, rfl⟩ := exists_iterate_next hd he h
  exact precedes_iterate_next d n

/-- The count is zero at the start of 1970 and grows by one from a date to the next, over the ends of
months, leap days and the turn of years, before the era too. So the earlier of two dates is the one
with the smaller count. -/
theorem dayCount_by_days :
    dayCount ⟨1970, 1, 1⟩ = 0 ∧
      (∀ d : CivilDate, d.IsValid → d.next.IsValid ∧ d.next.dayCount = d.dayCount + 1) ∧
      ∀ d e : CivilDate, d.IsValid → e.IsValid → (d.Precedes e ↔ d.dayCount < e.dayCount) := by
  refine ⟨by decide, fun d hd => ⟨next_isValid hd, dayCount_next hd⟩, fun d e hd he => ?_⟩
  constructor
  · intro h
    rcases Int.lt_trichotomy d.dayCount e.dayCount with hlt | heq | hgt
    · exact hlt
    · obtain rfl := eq_of_dayCount_eq hd he heq
      exact absurd h (Precedes.irrefl d)
    · exact absurd (h.trans (precedes_of_dayCount_lt he hd hgt)) (Precedes.irrefl d)
  · exact precedes_of_dayCount_lt hd he

/-- The end of February in a common century year before the era, and the turn to the year 0. -/
theorem dayCount_by_days_centuryYear :
    IsValid ⟨-100, 2, 28⟩ ∧ next ⟨-100, 2, 28⟩ = ⟨-100, 3, 1⟩ ∧
      dayCount (next ⟨-100, 2, 28⟩) = dayCount ⟨-100, 2, 28⟩ + 1 ∧
      IsValid ⟨-1, 12, 31⟩ ∧ IsValid ⟨0, 1, 1⟩ ∧ Precedes ⟨-1, 12, 31⟩ ⟨0, 1, 1⟩ ∧
      dayCount ⟨-1, 12, 31⟩ < dayCount ⟨0, 1, 1⟩ := by
  have hfebruary : IsValid ⟨-100, 2, 28⟩ := by decide
  have hdecember : IsValid ⟨-1, 12, 31⟩ := by decide
  have hjanuary : IsValid ⟨0, 1, 1⟩ := by decide
  have hturn : Precedes ⟨-1, 12, 31⟩ ⟨0, 1, 1⟩ := by decide
  obtain ⟨-, hnext, horder⟩ := dayCount_by_days
  exact ⟨hfebruary, by decide, (hnext _ hfebruary).2, hdecember, hjanuary, hturn,
    (horder _ _ hdecember hjanuary).mp hturn⟩

end CivilDate

end DatePattern
