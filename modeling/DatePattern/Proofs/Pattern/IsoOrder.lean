import DatePattern.Proofs.Calendar.NextDay
import DatePattern.Proofs.Numeral.DigitOrder
import DatePattern.Proofs.Pattern.IsoRoundTrip

/-! ISO texts sort by time. The day count grows with the date and the milliseconds with the time of
day, and every field is written in a width of its own; so of two readings on one clock the earlier
has the text that comes first. -/
namespace DatePattern

/-- Of two numbers in units with rests the smaller has fewer units, or as many and the smaller rest. -/
theorem units_lt_or_of_lt {unit a b rest rest' : Int} (hunit : 0 ≤ unit) (hrest : 0 ≤ rest)
    (hrest' : rest' < unit) (h : a * unit + rest < b * unit + rest') :
    a < b ∨ a = b ∧ rest < rest' := by
  rcases Int.lt_trichotomy a b with hlt | rfl | hgt
  · exact .inl hlt
  · exact .inr ⟨rfl, by omega⟩
  · have hunits : (b + 1) * unit ≤ a * unit := Int.mul_le_mul_of_nonneg_right hgt hunit
    rw [Int.add_mul, Int.one_mul] at hunits
    omega

namespace WallClock

variable {v w : WallClock}

/-- The numbers of the time of day and of the reading as they are written, the largest unit first. -/
def timeNumbers (w : WallClock) : List Nat :=
  [w.hour.natAbs, w.minute.natAbs, w.second.natAbs, w.millisecond.natAbs]

@[inherit_doc timeNumbers]
def numbers (w : WallClock) : List Nat :=
  w.year.natAbs :: (w.month + 1).natAbs :: w.day.natAbs :: w.timeNumbers

/-- The reading exists, in a year of at most four digits and without a sign. -/
def IsSortable (w : WallClock) : Prop := w.InRange ∧ 0 ≤ w.year ∧ w.year ≤ 9999

/-- Milliseconds since the start of the day. -/
def timeOfDay (w : WallClock) : Int :=
  w.hour * msPerHour + (w.minute * msPerMinute + (w.second * 1000 + w.millisecond))

theorem toMs_eq (w : WallClock) : w.toMs = w.date.dayCount * msPerDay + w.timeOfDay := by
  unfold toMs timeOfDay
  omega

theorem timeOfDay_mem (hw : w.InRange) : 0 ≤ w.timeOfDay ∧ w.timeOfDay < msPerDay := by
  obtain ⟨-, -, hhour, hminute, hsecond, hms⟩ := hw
  simp only [timeOfDay, msPerDay, msPerHour, msPerMinute]
  omega

/-- The time of day is a number in mixed radix, and its digits count in their order. -/
theorem lex_of_timeOfDay_lt (hv : v.InRange) (hw : w.InRange) (h : v.timeOfDay < w.timeOfDay) :
    List.Lex (· < ·) v.timeNumbers w.timeNumbers := by
  obtain ⟨-, -, hhour, hminute, hsecond, hms⟩ := hv
  obtain ⟨-, -, hhour', hminute', hsecond', hms'⟩ := hw
  unfold timeNumbers
  simp only [timeOfDay, msPerHour, msPerMinute] at h
  rcases units_lt_or_of_lt (by decide) (by omega) (by omega) h with h | ⟨heq, h⟩
  · exact .rel (by omega)
  rw [heq]
  refine .cons ?_
  rcases units_lt_or_of_lt (by decide) (by omega) (by omega) h with h | ⟨heq, h⟩
  · exact .rel (by omega)
  rw [heq]
  refine .cons ?_
  rcases units_lt_or_of_lt (by decide) (by omega) (by omega) h with h | ⟨heq, h⟩
  · exact .rel (by omega)
  rw [heq]
  exact .cons (.rel (by omega))

/-- The earlier of two readings is on an earlier day, or on the same day at an earlier time. -/
theorem lex_numbers (hv : v.IsSortable) (hw : w.IsSortable) (h : v.toMs < w.toMs) :
    List.Lex (· < ·) v.numbers w.numbers := by
  obtain ⟨hrange, hyear, -⟩ := hv
  obtain ⟨hrange', hyear', -⟩ := hw
  have hdate := date_isValid hrange
  have hdate' := date_isValid hrange'
  rw [toMs_eq, toMs_eq] at h
  have hlast := (timeOfDay_mem hrange').2
  rcases units_lt_or_of_lt (by decide) (timeOfDay_mem hrange).1 hlast h with hday | ⟨hday, htime⟩
  · have hprecedes := CivilDate.precedes_of_dayCount_lt hdate hdate' hday
    obtain ⟨⟨hmonth, -⟩, ⟨hfirst, -⟩, -⟩ := hrange
    obtain ⟨⟨hmonth', -⟩, ⟨hfirst', -⟩, -⟩ := hrange'
    simp only [CivilDate.Precedes, date] at hprecedes
    simp only [numbers, List.cons_lex_cons_iff]
    omega
  · have hsame := CivilDate.eq_of_dayCount_eq hdate hdate' hday
    obtain ⟨hy, hm, hd⟩ := CivilDate.mk.inj hsame
    rw [numbers, numbers, hy, hm, hd]
    exact .cons (.cons (.cons (lex_of_timeOfDay_lt hrange hrange' htime)))

/-- The form of an ISO text without offset. -/
def isoForm : List NumberSlot :=
  [⟨[], 4⟩, ⟨['-'], 2⟩, ⟨['-'], 2⟩, ⟨['T'], 2⟩, ⟨[':'], 2⟩, ⟨[':'], 2⟩, ⟨['.'], 3⟩]

def isoWallText (w : WallClock) : List Char := filledSlots isoForm w.numbers

theorem fits_numbers (hw : w.IsSortable) : List.Forall₂ NumberSlot.Fits isoForm w.numbers := by
  obtain ⟨hrange, hyear⟩ := hw
  obtain ⟨hmonth, hday⟩ := natAbs_monthDay_le hrange
  obtain ⟨-, -, hhour, hminute, hsecond, hms⟩ := hrange
  have htwo {before : List Char} {n : Nat} (hn : n ≤ 99) : NumberSlot.Fits ⟨before, 2⟩ n :=
    ⟨(by decide : 1 ≤ 2), show n < 100 by omega⟩
  have hfour : NumberSlot.Fits ⟨[], 4⟩ w.year.natAbs :=
    ⟨by decide, show w.year.natAbs < 10000 by omega⟩
  have hthree : NumberSlot.Fits ⟨['.'], 3⟩ w.millisecond.natAbs :=
    ⟨by decide, show w.millisecond.natAbs < 1000 by omega⟩
  exact .cons hfour (.cons (htwo (by omega)) (.cons (htwo (by omega)) (.cons (htwo (by omega))
    (.cons (htwo (by omega)) (.cons (htwo (by omega)) (.cons hthree .nil))))))

theorem sortsBefore_isoWallText (hv : v.IsSortable) (hw : w.IsSortable) (h : v.toMs < w.toMs) :
    SortsBefore v.isoWallText w.isoWallText :=
  sortsBefore_filledSlots (fits_numbers hv) (fits_numbers hw) (lex_numbers hv hw h)

/-- The same milliseconds are those of one reading. -/
theorem eq_of_toMs_eq (hv : v.InRange) (hw : w.InRange) (h : v.toMs = w.toMs) : v = w := by
  rw [← ofMs_toMs hv, h, ofMs_toMs hw]

theorem sortsBefore_isoWallText_iff (hv : v.IsSortable) (hw : w.IsSortable) :
    SortsBefore v.isoWallText w.isoWallText ↔ v.toMs < w.toMs := by
  constructor
  · intro h
    rcases Int.lt_trichotomy v.toMs w.toMs with hlt | heq | hgt
    · exact hlt
    · obtain rfl := eq_of_toMs_eq hv.1 hw.1 heq
      exact absurd h h.asymm
    · exact absurd h (sortsBefore_isoWallText hw hv hgt).asymm
  · exact sortsBefore_isoWallText hv hw

theorem isoWallText_eq_iff (hv : v.IsSortable) (hw : w.IsSortable) :
    v.isoWallText = w.isoWallText ↔ v.toMs = w.toMs := by
  constructor
  · intro h
    rcases Int.lt_trichotomy v.toMs w.toMs with hlt | heq | hgt
    · have hbefore := sortsBefore_isoWallText hv hw hlt
      rw [h] at hbefore
      exact absurd hbefore hbefore.asymm
    · exact heq
    · have hbefore := sortsBefore_isoWallText hw hv hgt
      rw [h] at hbefore
      exact absurd hbefore hbefore.asymm
  · intro h
    rw [eq_of_toMs_eq hv.1 hw.1 h]

end WallClock

variable {a b m : Moment} {v w : WallClock} {offset : Int}

private theorem ofPattern_isoWall :
    Plan.ofPattern "uuuu-MM-dd'T'HH:mm:ss.SSS" =
      ⟨.field .signedYear ⟨'u', 4, 0⟩ false :: isoWallSteps 4, none⟩ := by
  have hchars : "uuuu-MM-dd'T'HH:mm:ss.SSS".toList =
      ['u', 'u', 'u', 'u', '-', 'M', 'M', '-', 'd', 'd', quote, 'T', quote, 'H', 'H', ':', 'm', 'm',
        ':', 's', 's', '.', 'S', 'S', 'S'] := rfl
  rw [Plan.ofPattern, Token.scan, hchars]
  rfl

theorem flatten_isoWallParts (w : WallClock) :
    (fixedWidth 4 w.year.natAbs :: isoWallParts w).flatten = w.isoWallText := by
  simp only [isoWallParts, WallClock.isoWallText, WallClock.isoForm, WallClock.numbers,
    WallClock.timeNumbers, filledSlots, List.flatten_cons, List.flatten_nil, List.append_nil,
    List.cons_append, List.nil_append]

theorem yields_isoWallText (hm : Moment.ofWallClock w offset = .ok m) (hw : w.IsSortable)
    (registry : LocaleRegistry) :
    (format (some (.atom (.moment m))) (some (.text "uuuu-MM-dd'T'HH:mm:ss.SSS")) .absent none
      registry).Yields (· = String.ofList w.isoWallText) := by
  have hvalid := Moment.isValid_of_ofWallClock hm
  obtain ⟨-, -, rfl, -⟩ := Moment.ofWallClock_eq_ok_iff.mp hm
  obtain ⟨hrange, hyear, hlast⟩ := hw
  have hsigned : (Step.field .signedYear ⟨'u', 4, 0⟩ false).Writes m .unset
      ((if m.wall.year < 0 then ['-'] else []) ++ fixedWidth 4 m.wall.year.natAbs) :=
    Step.writes_signedNumber rfl (show 0 < 4 by decide) (show 4 ≤ digitLimit by decide)
      (show m.wall.year.natAbs < 10000 by omega) rfl
  rw [if_neg (by omega), List.nil_append] at hsigned
  rw [← flatten_isoWallParts]
  exact yields_format hvalid ofPattern_isoWall (.cons hsigned (writes_isoWallSteps hrange 4)) registry

/-- The ISO texts of two moments on clocks at one offset, of any size, in the years from 0 to 9999
sort as the moments follow each other. -/
theorem format_iso_sorted (ha : Moment.ofWallClock v offset = .ok a)
    (hb : Moment.ofWallClock w offset = .ok b) (hv : 0 ≤ v.year ∧ v.year ≤ 9999)
    (hw : 0 ≤ w.year ∧ w.year ≤ 9999) (registry : LocaleRegistry) (s s' : Session) :
    ∃ text text' ms ms',
      ((format (some (.atom (.moment a))) (some (.text "uuuu-MM-dd'T'HH:mm:ss.SSS")) .absent
        none registry).run.run s).1 = .ok text ∧
      ((format (some (.atom (.moment b))) (some (.text "uuuu-MM-dd'T'HH:mm:ss.SSS")) .absent
        none registry).run.run s').1 = .ok text' ∧
      a.instant = some ms ∧ b.instant = some ms' ∧
      (SortsBefore text.toList text'.toList ↔ ms < ms') ∧ (text = text' ↔ ms = ms') ∧
      (SortsBefore text'.toList text.toList ↔ ms' < ms) := by
  obtain ⟨-, hrange, -, hinstant, -⟩ := Moment.ofWallClock_eq_ok_iff.mp ha
  obtain ⟨-, hrange', -, hinstant', -⟩ := Moment.ofWallClock_eq_ok_iff.mp hb
  have hfirst : v.IsSortable := ⟨hrange, hv⟩
  have hsecond : w.IsSortable := ⟨hrange', hw⟩
  obtain ⟨_, t, hrun, rfl⟩ := yields_isoWallText ha hfirst registry s
  obtain ⟨_, t', hrun', rfl⟩ := yields_isoWallText hb hsecond registry s'
  refine ⟨_, _, _, _, congrArg Prod.fst hrun, congrArg Prod.fst hrun', hinstant, hinstant', ?_⟩
  rw [String.toList_ofList, String.toList_ofList, String.ofList_inj,
    WallClock.sortsBefore_isoWallText_iff hfirst hsecond,
    WallClock.isoWallText_eq_iff hfirst hsecond, WallClock.sortsBefore_isoWallText_iff hsecond hfirst]
  omega

/-- The last millisecond of the leap day of the year 0 sorts before the first of March. -/
theorem format_iso_sorted_leapDay :
    let last : Moment := ⟨⟨0, 1, 29, 23, 59, 59, 999⟩, some (-62162029800001), -90, fun _ => by decide⟩
    let next : Moment := ⟨⟨0, 2, 1, 0, 0, 0, 0⟩, some (-62162029800000), -90, fun _ => by decide⟩
    Moment.ofWallClock ⟨0, 1, 29, 23, 59, 59, 999⟩ (-90) = .ok last ∧
    Moment.ofWallClock ⟨0, 2, 1, 0, 0, 0, 0⟩ (-90) = .ok next ∧
    ∃ text text',
      ((format (some (.atom (.moment last))) (some (.text "uuuu-MM-dd'T'HH:mm:ss.SSS")) .absent
        none).run.run .start).1 = .ok text ∧
      ((format (some (.atom (.moment next))) (some (.text "uuuu-MM-dd'T'HH:mm:ss.SSS")) .absent
        none).run.run .start).1 = .ok text' ∧
      SortsBefore text.toList text'.toList := by
  intro last next
  have hlast : Moment.ofWallClock ⟨0, 1, 29, 23, 59, 59, 999⟩ (-90) = .ok last :=
    Moment.ofWallClock_eq_ok_iff.mpr ⟨by decide +kernel, by decide, rfl, by decide, rfl⟩
  have hnext : Moment.ofWallClock ⟨0, 2, 1, 0, 0, 0, 0⟩ (-90) = .ok next :=
    Moment.ofWallClock_eq_ok_iff.mpr ⟨by decide +kernel, by decide, rfl, by decide, rfl⟩
  obtain ⟨text, text', ms, ms', htext, htext', hms, hms', hbefore, -, -⟩ :=
    format_iso_sorted hlast hnext ⟨by decide, by decide⟩ ⟨by decide, by decide⟩ .known .start
      .start
  obtain rfl := Option.some.inj hms
  obtain rfl := Option.some.inj hms'
  exact ⟨hlast, hnext, text, text', htext, htext', hbefore.mpr (by decide)⟩

end DatePattern
