import DatePattern.Proofs.Moment.BehindYear
import DatePattern.Proofs.Moment.Instant

/-! The moment that the ISO text of a reading denotes, behind a year of four digits and behind an
expanded one. -/
namespace DatePattern

namespace CivilDate

variable {d : CivilDate}

theorem natAbs_dayCount_le (hd : d.IsValid) (hy : d.HasFourDigitYear) :
    d.dayCount.natAbs ≤ 10000000 := by
  obtain ⟨hm0, hm1, hd0, hd1⟩ := hd
  obtain ⟨hy0, hy1⟩ := hy
  have := monthLength_le d.year d.month
  simp only [dayCount, daysBeforeYear, daysBeforeMonth]
  split <;> split <;> omega

theorem natAbs_year_lt (hd : d.IsValid) (h : d.dayCount.natAbs ≤ 100000002) :
    d.year.natAbs < 1000000 := by
  obtain ⟨hm0, hm1, hd0, hd1⟩ := hd
  have := monthLength_le d.year d.month
  simp only [dayCount, daysBeforeYear, daysBeforeMonth] at h
  split at h <;> split at h <;> omega

end CivilDate

/-- The text of a reading behind its year in four digits, or behind a sign and six. -/
def isoText (w : WallClock) (offset : Int) : List Char :=
  fixedWidth 4 w.year.natAbs ++ isoRest w offset

@[inherit_doc isoText]
def expandedIsoText (w : WallClock) (offset : Int) : List Char :=
  isoSign w.year :: (fixedWidth 6 w.year.natAbs ++ isoRest w offset)

theorem signed_isoSign (n : Int) : signed (decide (isoSign n = '-')) n.natAbs = n := by
  unfold isoSign
  split
  case isTrue h => exact Int.natAbs_of_nonneg h
  case isFalse h =>
    change -(n.natAbs : Int) = n
    omega

namespace Moment

variable {w : WallClock} {m : Moment} {offset : Int}

/-- In the years of four digits no reading is near the bound of instants. -/
theorem natAbs_toMs_le (hw : w.InRange) (hy : w.date.HasFourDigitYear) :
    w.toMs.natAbs ≤ maxEpochMs := by
  have hdays := CivilDate.natAbs_dayCount_le (WallClock.date_isValid hw) hy
  obtain ⟨-, -, hhour, hminute, hsecond, hms⟩ := hw
  simp only [WallClock.toMs, msPerDay, msPerHour, msPerMinute, maxEpochMs]
  omega

/-- A reading whose instant is within the bound has a year of six digits. -/
theorem natAbs_year_lt (hw : w.InRange) (h : w.toMs.natAbs ≤ maxEpochMs + msPerDay) :
    w.year.natAbs < 1000000 := by
  have hdate := WallClock.date_isValid hw
  obtain ⟨-, -, hhour, hminute, hsecond, hms⟩ := hw
  refine CivilDate.natAbs_year_lt hdate ?_
  simp only [WallClock.toMs, msPerDay, msPerHour, msPerMinute, maxEpochMs] at h
  omega

theorem natAbs_toMs_sub_le {ms bound : Int} (ho : offset.natAbs ≤ 1439)
    (h : (ms - offset * msPerMinute).natAbs ≤ bound) : ms.natAbs ≤ bound + msPerDay := by
  simp only [msPerDay, msPerMinute] at *
  omega

/-- A date-time that shows a reading in some year and its offset gives back the moment. -/
theorem ofStampInYear_eq_ok {stamp : Stamp} (hm : ofWallClock w offset = .ok m)
    (hbound : w.toMs.natAbs ≤ 2 * maxEpochMs) (hmonth : stamp.date.month = w.month + 1)
    (hday : stamp.date.day = w.day)
    (htime : stamp.time = ⟨w.hour, w.minute, w.second, w.millisecond * 1000⟩)
    (hoffset : stamp.offset = some (offset * usPerMinute)) :
    ofStampInYear w.year stamp = .ok m := by
  obtain ⟨hheld, hw, hparts⟩ := ofWallClock_eq_ok_iff.mp hm
  have hclock : ofWallClock w 0 = .ok ⟨w, some (w.toMs - 0 * msPerMinute), 0, fun _ => hw⟩ :=
    ofWallClock_eq_ok_iff.mpr ⟨holdsInt_of_le_maxEpochMs (by omega), hw, rfl, rfl, rfl⟩
  have hwall : (⟨w.year, w.month + 1 - 1, w.day, w.hour, w.minute, w.second,
      w.millisecond * 1000 / 1000⟩ : WallClock) = w := by
    rw [Int.add_sub_cancel, Int.mul_ediv_cancel _ (by decide)]
  -- Offsets in whole minutes lose nothing when they are brought from microseconds to smaller units.
  have hms : offset * usPerMinute / 1000 = offset * msPerMinute := by
    simp only [usPerMinute, msPerMinute]
    omega
  have hminutes : (offset * usPerMinute).tdiv usPerMinute = offset :=
    Int.mul_tdiv_cancel _ (by decide)
  have hmake : make w (w.toMs - offset * msPerMinute) offset = .ok m :=
    make_eq_ok_iff.mpr ⟨hheld, hw, hparts⟩
  simp only [ofStampInYear, hmonth, hday, htime, hoffset, hwall, hclock, Option.getD_some, hms,
    hminutes, ok_bind]
  exact hmake

/-- A text that denotes a moment is that date. -/
theorem ofArgument_text {s : String} {extraDigits : Argument} (h : ofText s extraDigits = .ok m) :
    Dated.ofArgument (.text s) extraDigits = .ok (.moment m) :=
  congrArg (Except.map Dated.moment) h

theorem ofText_isoText (hm : ofWallClock w offset = .ok m) (ho : offset.natAbs ≤ 1439)
    (hy : w.date.HasFourDigitYear) (extraDigits : Argument) :
    ofText (String.ofList (isoText w offset)) extraDigits = .ok m := by
  obtain ⟨hheld, hw, hparts⟩ := ofWallClock_eq_ok_iff.mp hm
  have hbounds : 1 ≤ w.year ∧ w.year ≤ 9999 := hy
  have hyear : (w.year.natAbs : Int) = w.year := Int.natAbs_of_nonneg (by omega)
  have hdigits : WritesNumber (fixedWidth 4 w.year.natAbs) 4 w.year.natAbs :=
    writesNumber_fixedWidth (by decide) (show w.year.natAbs < 10000 by omega)
  have hd : CivilDate.HasFourDigitYear ⟨(w.year.natAbs : Nat), w.month + 1, w.day⟩ ∧
      CivilDate.IsValid ⟨(w.year.natAbs : Nat), w.month + 1, w.day⟩ := by
    rw [hyear]
    exact ⟨hy, WallClock.date_isValid hw⟩
  obtain ⟨stamp, hread, hdate, htime, hoffset⟩ := IsoText.read?_iso hw ho hdigits hd
  have hstamp : ofStamp stamp = .ok m := by
    rw [ofStamp, hdate]
    simp only [hyear]
    refine ofStampInYear_eq_ok hm ?_ ?_ ?_ htime hoffset
    · have := natAbs_toMs_le hw hy
      omega
    · rw [hdate]
    · rw [hdate]
  have hplain := ofText_plainYear hdigits (behindYear_isoRest hw offset) extraDigits
  rw [hread, Option.map_some, hstamp] at hplain
  exact hplain

/-- Behind an expanded year the rest is read in a leap year, and the year put in its place. -/
theorem ofExpandedYear_isoRest {digits : List Char} {k n : Nat} {negative : Bool}
    (hm : ofWallClock w offset = .ok m) (ho : offset.natAbs ≤ 1439)
    (hbound : w.toMs.natAbs ≤ 2 * maxEpochMs) (hd : WritesNumber digits k n) (hk : k ≤ digitLimit)
    (hyear : signed negative n = w.year) :
    ofExpandedYear negative digits (isoRest w offset) = .ok m := by
  obtain ⟨hheld, hw, hparts⟩ := ofWallClock_eq_ok_iff.mp hm
  obtain ⟨stamp, hread, hdate, htime, hoffset⟩ :=
    IsoText.read?_iso hw ho writesNumber_standIn (WallClock.date_isValid hw).standIn
  rw [ofExpandedYear_eq hd hk (behindYear_isoRest hw offset), hread, hyear]
  exact ofStampInYear_eq_ok hm hbound (by rw [hdate]) (by rw [hdate]) htime hoffset

theorem ofText_expandedIsoText (hm : ofWallClock w offset = .ok m) (ho : offset.natAbs ≤ 1439)
    {ms : Int} (hi : m.instant = some ms) (hms : ms.natAbs ≤ maxEpochMs) :
    ofText (String.ofList (expandedIsoText w offset)) (.int 2) = .ok m := by
  obtain ⟨hheld, hw, hwall, hinstant, hoff⟩ := ofWallClock_eq_ok_iff.mp hm
  have hval : w.toMs - offset * msPerMinute = ms := Option.some.inj (hinstant.symm.trans hi)
  have hnear : w.toMs.natAbs ≤ maxEpochMs + msPerDay := natAbs_toMs_sub_le ho (by omega)
  have hbound : w.toMs.natAbs ≤ 2 * maxEpochMs := by
    have : msPerDay ≤ maxEpochMs := by decide
    omega
  have hdigits : WritesNumber (fixedWidth 6 w.year.natAbs) 6 w.year.natAbs :=
    writesNumber_fixedWidth (by decide) (natAbs_year_lt hw hnear)
  have hmoment := ofExpandedYear_isoRest hm ho hbound hdigits (by decide) (signed_isoSign w.year)
  have hkept : m.bounded = m := by
    rw [bounded, hi]
    exact if_neg (by omega)
  have hsigned := ofText_signedYear (k := 2) (isoSign_mem w.year) hdigits (behindYear_isoRest hw offset)
  rw [hmoment] at hsigned
  exact hsigned.trans (congrArg Except.ok hkept)

end Moment

end DatePattern
