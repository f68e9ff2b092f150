import DatePattern.Proofs.Calendar.PivotWeek

/-! Weeks follow each other without gaps. Each week has seven days and each week year 52 or 53 weeks,
so that a day is told by its week year, its week and its weekday. -/
namespace DatePattern

namespace WeekRule

open CivilDate

variable {r : WeekRule} {m n year week : Int}

/-- The week year of a day, and the number of its week in that year. -/
def weekOf (r : WeekRule) (n : Int) : Int × Int :=
  ((ofDayCount n).weekYear r, (ofDayCount n).week r)

/-- A week year begins with a week, less than a week before the day of January that week 1 has to
contain. -/
theorem beginsWeekOf_yearStart (hr : r.IsValid) (year : Int) :
    r.BeginsWeekOf (r.yearStart year) (januaryStart year + r.januaryDay - 1) := by
  rw [← dayCount_january]
  exact (beginsWeekOf_iff hr).mpr rfl

/-- From one week year to the next it is a whole number of weeks, and the first days of January are
no more than 366 days apart. -/
theorem yearStart_succ (hr : r.IsValid) (year : Int) :
    r.yearStart (year + 1) = r.yearStart year + 7 * 52 ∨
      r.yearStart (year + 1) = r.yearStart year + 7 * 53 := by
  obtain ⟨hday, hlo, hhi⟩ := beginsWeekOf_yearStart hr year
  obtain ⟨hday', hlo', hhi'⟩ := beginsWeekOf_yearStart hr (year + 1)
  have hjanuary := januaryStart_succ year
  have hlong := marchYearLength_mem (year - 1)
  unfold weekday at hday hday'
  omega

/-- The days of a week year are those from its start to the start of the next. -/
theorem weekYear_ofDayCount_iff (hr : r.IsValid) :
    (ofDayCount n).weekYear r = year ↔ r.yearStart year ≤ n ∧ n < r.yearStart (year + 1) := by
  have hs : r.BeginsWeekOf (r.weekStart n) n := (beginsWeekOf_iff hr).mpr rfl
  have hpivot := januaryStart_le_dayCount (ofDayCount_isValid (r.pivotDay (r.weekStart n)))
  rw [dayCount_ofDayCount] at hpivot
  rw [weekYear_eq_pivot_year hr (ofDayCount_isValid n) (by rwa [dayCount_ofDayCount]),
    yearStart_le_iff hr hs, ← Int.not_le, yearStart_le_iff hr hs, Int.not_le]
  constructor
  · rintro rfl
    exact hpivot
  · rintro ⟨hlo, hhi⟩
    exact year_ofDayCount hlo hhi

theorem weekOf_eq_iff (hr : r.IsValid) :
    r.weekOf n = (year, week) ↔
      (r.yearStart year ≤ n ∧ n < r.yearStart (year + 1)) ∧
        week = (n - r.yearStart year) / 7 + 1 := by
  rw [weekOf, Prod.mk.injEq, CivilDate.week, dayCount_ofDayCount, ← weekYear_ofDayCount_iff hr]
  constructor
  · rintro ⟨rfl, rfl⟩
    exact ⟨rfl, rfl⟩
  · rintro ⟨rfl, rfl⟩
    exact ⟨rfl, rfl⟩

/-- A day is as far into its week as its weekday is from the one that begins weeks. -/
theorem weekday_sub_startsOn (hr : r.IsValid) (year n : Int) :
    (weekday n - r.startsOn) % 7 = (n - r.yearStart year) % 7 := by
  have hday := (beginsWeekOf_yearStart hr year).1
  unfold weekday at *
  omega

/-- The day of a given week year, week and weekday. -/
theorem eq_yearStart_add (hr : r.IsValid) (h : r.weekOf n = (year, week)) :
    n = r.yearStart year + 7 * (week - 1) + (weekday n - r.startsOn) % 7 := by
  obtain ⟨-, rfl⟩ := (weekOf_eq_iff hr).mp h
  rw [weekday_sub_startsOn hr year]
  omega

theorem weekOf_succ_of_weekday_ne (hr : r.IsValid) (h : r.weekOf n = (year, week))
    (hday : weekday (n + 1) ≠ r.startsOn) : r.weekOf (n + 1) = (year, week) := by
  obtain ⟨⟨hlo, hhi⟩, rfl⟩ := (weekOf_eq_iff hr).mp h
  have hstart := (beginsWeekOf_yearStart hr year).1
  have hnext := (beginsWeekOf_yearStart hr (year + 1)).1
  refine (weekOf_eq_iff hr).mpr ⟨⟨by omega, ?_⟩, ?_⟩
  · rcases Int.lt_or_eq_of_le (Int.add_one_le_of_lt hhi) with hlt | heq
    · exact hlt
    · rw [heq] at hday
      exact absurd hnext hday
  · unfold weekday at *
    obtain ⟨⟨h0, h6⟩, -⟩ := hr
    omega

/-- The day after the last of a week is in the next week of the year, or in the first week of the
next year. -/
theorem weekOf_succ_of_weekday_eq (hr : r.IsValid) (h : r.weekOf n = (year, week))
    (hday : weekday (n + 1) = r.startsOn) :
    r.weekOf (n + 1) = (year, week + 1) ∨
      (week = 52 ∨ week = 53) ∧ r.weekOf (n + 1) = (year + 1, 1) := by
  obtain ⟨⟨hlo, hhi⟩, rfl⟩ := (weekOf_eq_iff hr).mp h
  have hstart := (beginsWeekOf_yearStart hr year).1
  rcases Int.lt_or_eq_of_le (Int.add_one_le_of_lt hhi) with hlt | heq
  · refine .inl ((weekOf_eq_iff hr).mpr ⟨⟨by omega, hlt⟩, ?_⟩)
    unfold weekday at *
    omega
  · have hlong := yearStart_succ hr year
    have hlong' := yearStart_succ hr (year + 1)
    refine .inr ⟨by omega, (weekOf_eq_iff hr).mpr ⟨⟨by omega, by omega⟩, ?_⟩⟩
    rw [heq, Int.sub_self]
    rfl

/-- The numbers of weeks that fit into a year are those of its weeks, and each week has a day of every
weekday. -/
theorem exists_weekOf_iff (hr : r.IsValid) {weeks day : Int}
    (hlong : r.yearStart (year + 1) = r.yearStart year + 7 * weeks) (hday : IsWeekday day) :
    (1 ≤ week ∧ week ≤ weeks) ↔ ∃ n, r.weekOf n = (year, week) ∧ weekday n = day := by
  constructor
  · rintro ⟨hlo, hhi⟩
    have hstart := (beginsWeekOf_yearStart hr year).1
    obtain ⟨h0, h6⟩ := hday
    refine ⟨r.yearStart year + 7 * (week - 1) + (day - r.startsOn) % 7,
      (weekOf_eq_iff hr).mpr ⟨⟨by omega, by omega⟩, by omega⟩, ?_⟩
    unfold weekday at *
    omega
  · rintro ⟨n, hn, -⟩
    obtain ⟨⟨hlo, hhi⟩, rfl⟩ := (weekOf_eq_iff hr).mp hn
    omega

/-- Under every rule the days of all years fall into whole weeks. A day is so many weeks, and so many
days of its week, behind the start of its week year. The next day is in the same week unless it is
the weekday that begins one; then it is in the next week of the year, or in the first of the next
year behind week 52 or 53. So a year has 52 or 53 weeks, each with all seven weekdays, and no two
days agree in week year, week and weekday. -/
theorem weeks_whole (r : WeekRule) (hr : r.IsValid) :
    (∀ n year week : Int, r.weekOf n = (year, week) →
      n = r.yearStart year + 7 * (week - 1) + (weekday n - r.startsOn) % 7 ∧
      (weekday (n + 1) ≠ r.startsOn → r.weekOf (n + 1) = (year, week)) ∧
      (weekday (n + 1) = r.startsOn →
        r.weekOf (n + 1) = (year, week + 1) ∨
          (week = 52 ∨ week = 53) ∧ r.weekOf (n + 1) = (year + 1, 1))) ∧
    (∀ year : Int, ∃ weeks : Int, (weeks = 52 ∨ weeks = 53) ∧
      ∀ week day : Int, IsWeekday day →
        ((1 ≤ week ∧ week ≤ weeks) ↔ ∃ n, r.weekOf n = (year, week) ∧ weekday n = day)) ∧
    ∀ m n : Int, r.weekOf m = r.weekOf n → weekday m = weekday n → m = n := by
  refine ⟨fun n year week h => ?_, fun year => ?_, fun m n hweek hday => ?_⟩
  · exact ⟨eq_yearStart_add hr h, weekOf_succ_of_weekday_ne hr h, weekOf_succ_of_weekday_eq hr h⟩
  · rcases yearStart_succ hr year with hlong | hlong
    · exact ⟨52, .inl rfl, fun _ _ => exists_weekOf_iff hr hlong⟩
    · exact ⟨53, .inr rfl, fun _ _ => exists_weekOf_iff hr hlong⟩
  · have hm := eq_yearStart_add hr (rfl : r.weekOf m = _)
    have hn := eq_yearStart_add hr hweek.symm
    rw [hm, hn, hday]

/-- By the international rule the third of January of the year -379 ends week 53 of the year
before. -/
theorem weeks_whole_longYear :
    WeekRule.iso.IsValid ∧ WeekRule.iso.weekOf (dayCount ⟨-379, 1, 3⟩) = (-380, 53) ∧
      dayCount ⟨-379, 1, 3⟩ = WeekRule.iso.yearStart (-380) + 7 * (53 - 1) + 6 ∧
      weekday (dayCount ⟨-379, 1, 3⟩ + 1) = 1 ∧
      WeekRule.iso.weekOf (dayCount ⟨-379, 1, 3⟩ + 1) = (-379, 1) := by
  have hr : WeekRule.iso.IsValid := by decide
  have hweek : WeekRule.iso.weekOf (dayCount ⟨-379, 1, 3⟩) = (-380, 53) := by decide
  have hday : weekday (dayCount ⟨-379, 1, 3⟩ + 1) = 1 := by decide
  obtain ⟨hplace, -, hnext⟩ := (weeks_whole .iso hr).1 _ _ _ hweek
  refine ⟨hr, hweek, hplace, hday, ?_⟩
  rcases hnext hday with h | ⟨-, h⟩
  · exact absurd h (by decide)
  · exact h

end WeekRule

end DatePattern
