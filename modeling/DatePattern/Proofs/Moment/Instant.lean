import DatePattern.Moment.Basic
import DatePattern.Proofs.Calendar.DayCount

/-! The fields of a moment and its instant determine each other, at any offset of the clock. -/
namespace DatePattern

theorem ok_bind {ε α β : Type} (x : α) (f : α → Except ε β) : (Except.ok x >>= f) = f x := rfl

namespace WallClock

variable {w : WallClock}

/-- The date of an existing reading is a day of the calendar. -/
theorem date_isValid (hw : w.InRange) : w.date.IsValid := by
  obtain ⟨⟨h0, h11⟩, hday, -⟩ := hw
  exact ⟨by simp only [date]; omega, by simp only [date]; omega, hday⟩

/-- Every number of milliseconds, before the epoch too, is shown by an existing reading. -/
theorem ofMs_inRange (ms : Int) : (ofMs ms).InRange := by
  obtain ⟨h1, h12, hday⟩ := CivilDate.ofDayCount_isValid (ms / msPerDay)
  have hm : (ofMs ms).month + 1 = (CivilDate.ofDayCount (ms / msPerDay)).month :=
    Int.sub_add_cancel _ _
  refine ⟨⟨by omega, by omega⟩, by rw [hm]; exact hday, ?_⟩
  simp only [ofMs, msPerDay, msPerHour, msPerMinute]
  omega

theorem date_ofMs (ms : Int) : (ofMs ms).date = CivilDate.ofDayCount (ms / msPerDay) := by
  simp only [date, ofMs, Int.sub_add_cancel]

theorem toMs_ofMs (ms : Int) : (ofMs ms).toMs = ms := by
  rw [toMs, date_ofMs, CivilDate.dayCount_ofDayCount]
  simp only [ofMs, msPerDay, msPerHour, msPerMinute]
  omega

/-- The day and the time of day of an existing reading are found again by division. -/
theorem ofMs_toMs (hw : w.InRange) : ofMs w.toMs = w := by
  have hdate := CivilDate.ofDayCount_dayCount (date_isValid hw)
  obtain ⟨-, -, hhour, hminute, hsecond, hms⟩ := hw
  have hday : w.toMs / msPerDay = w.date.dayCount := by
    simp only [toMs, msPerDay, msPerHour, msPerMinute]
    omega
  have htime : w.toMs % msPerDay =
      w.hour * msPerHour + w.minute * msPerMinute + w.second * 1000 + w.millisecond := by
    simp only [toMs, msPerDay, msPerHour, msPerMinute]
    omega
  obtain ⟨year, month, day, hour, minute, second, millisecond⟩ := w
  simp only [ofMs, hday, htime, hdate]
  simp only [date, msPerHour, msPerMinute, WallClock.mk.injEq, true_and] at *
  refine ⟨?_, ?_, ?_, ?_, ?_⟩ <;> omega

end WallClock

namespace Moment

variable {m : Moment} {w : WallClock} {ms offset : Int}

/-- A moment is its reading, its instant and its offset. -/
theorem eq_of_fields {a b : Moment} (hw : a.wall = b.wall) (hi : a.instant = b.instant)
    (ho : a.offset = b.offset) : a = b := by
  cases a
  cases b
  cases hw
  cases hi
  cases ho
  rfl

theorem make_eq_ok_iff :
    make w ms offset = .ok m ↔
      Binary64.holdsInt ms = true ∧ w.InRange ∧
        m.wall = w ∧ m.instant = some ms ∧ m.offset = offset := by
  unfold make
  split
  case isTrue hlarge => simp [hlarge]
  case isFalse hlarge =>
    split
    case isTrue hw =>
      rw [Except.ok.injEq]
      constructor
      · rintro rfl
        exact ⟨by simpa using hlarge, hw, rfl, rfl, rfl⟩
      · rintro ⟨-, -, rfl, hi, rfl⟩
        exact eq_of_fields rfl hi.symm rfl
    case isFalse hw => simp [hw]

/-- Readings of a clock that give a moment: the existing ones whose instant is no larger than the
doubles. -/
theorem ofWallClock_eq_ok_iff :
    ofWallClock w offset = .ok m ↔
      Binary64.holdsInt (w.toMs - offset * msPerMinute) = true ∧ w.InRange ∧
        m.wall = w ∧ m.instant = some (w.toMs - offset * msPerMinute) ∧ m.offset = offset := by
  unfold ofWallClock
  split
  case isTrue => exact make_eq_ok_iff
  case isFalse hmonth =>
    constructor
    · intro h
      cases h
    · rintro ⟨-, hw, -⟩
      exact absurd hw.1 hmonth

theorem isValid_of_ofWallClock (hm : ofWallClock w offset = .ok m) : m.isValid = true := by
  obtain ⟨-, -, -, hinstant, -⟩ := ofWallClock_eq_ok_iff.mp hm
  rw [isValid, hinstant]
  rfl

/-- The instants within the bound, and well beyond it, are far below the largest double. -/
theorem holdsInt_of_le_maxEpochMs (h : ms.natAbs ≤ 8 * maxEpochMs) : Binary64.holdsInt ms = true := by
  have hbound : 8 * maxEpochMs < Binary64.overflowBound := by decide +kernel
  rw [Binary64.holdsInt, decide_eq_true_eq]
  omega

/-- Within the bound every instant has a moment at every offset. -/
theorem ofEpochMs_eq_ok_iff (h : ms.natAbs ≤ maxEpochMs) :
    ofEpochMs ms offset = .ok m ↔
      m.wall = .ofMs (ms + offset * msPerMinute) ∧ m.instant = some ms ∧ m.offset = offset := by
  rw [ofEpochMs, if_neg (by omega), make_eq_ok_iff]
  exact ⟨fun hm => hm.2.2, fun hm => ⟨holdsInt_of_le_maxEpochMs (by omega), WallClock.ofMs_inRange _, hm⟩⟩

private theorem abs_integer (n : Int) : (Number.integer n).abs = .ok (.integer n.natAbs) := rfl

private theorem order?_integer (a b : Int) :
    (Number.integer a).order? (.integer b) = .ok (some (compare a b)) := rfl

/-- An integer is its own whole part, so that only its size is looked at. -/
theorem ofEpoch_integer (ms offset : Int) : ofEpoch (.integer ms) offset = ofEpochMs ms offset := by
  -- Each step is rewritten by name: unfolding the comparison would count the bound down by ones.
  rw [ofEpoch, epochMs?, abs_integer, ok_bind, order?_integer, ok_bind]
  cases hc : compare (ms.natAbs : Int) maxEpochMs with
  | gt =>
    rw [ofEpochMs, if_pos (Int.compare_eq_gt.mp hc)]
    rfl
  | lt => rfl
  | eq => rfl

/-- A moment is given by its instant as well as by its fields. Within the bound every instant has a
moment, whose fields give it again; and from fields whose instant is within the bound that instant
gives the same moment again. Offsets are of any size. -/
theorem ofEpoch_ofWallClock_inverse :
    (∀ ms offset : Int, ms.natAbs ≤ maxEpochMs →
      ∃ m, ofEpoch (.integer ms) offset = .ok m ∧
        m.isValid = true ∧ m.wall.InRange ∧ m.instant = some ms ∧ m.offset = offset ∧
        ofWallClock m.wall offset = .ok m) ∧
    ∀ (w : WallClock) (offset ms : Int) (m : Moment),
      ofWallClock w offset = .ok m → m.instant = some ms → ms.natAbs ≤ maxEpochMs →
        ofEpoch (.integer ms) offset = .ok m := by
  constructor
  · intro ms offset h
    have hw := WallClock.ofMs_inRange (ms + offset * msPerMinute)
    let m : Moment := ⟨.ofMs (ms + offset * msPerMinute), some ms, offset, fun _ => hw⟩
    have hback : (WallClock.ofMs (ms + offset * msPerMinute)).toMs - offset * msPerMinute = ms := by
      rw [WallClock.toMs_ofMs, Int.add_sub_cancel]
    refine ⟨m, ?_, rfl, hw, rfl, rfl, ?_⟩
    · rw [ofEpoch_integer, ofEpochMs_eq_ok_iff h]
      exact ⟨rfl, rfl, rfl⟩
    · rw [ofWallClock_eq_ok_iff]
      change Binary64.holdsInt ((WallClock.ofMs _).toMs - _) = true ∧ _ ∧ _ ∧
        _ = some ((WallClock.ofMs _).toMs - _) ∧ _
      rw [hback]
      exact ⟨holdsInt_of_le_maxEpochMs (by omega), hw, rfl, rfl, rfl⟩
  · intro w offset ms m hm hms h
    obtain ⟨-, hw, hwall, hinstant, hoffset⟩ := ofWallClock_eq_ok_iff.mp hm
    have hval : w.toMs - offset * msPerMinute = ms := Option.some.inj (hinstant.symm.trans hms)
    have hshown : ms + offset * msPerMinute = w.toMs := by omega
    rw [ofEpoch_integer, ofEpochMs_eq_ok_iff h, hshown, WallClock.ofMs_toMs hw]
    exact ⟨hwall, hms, hoffset⟩

/-- The last millisecond before the epoch, and the end of a leap day before the era, on clocks west
and east of universal time. -/
theorem ofEpoch_ofWallClock_inverse_leapDay :
    (-1 : Int).natAbs ≤ maxEpochMs ∧
    (∃ m, ofEpoch (.integer (-1)) (-90) = .ok m ∧ m.isValid = true ∧
      ofWallClock m.wall (-90) = .ok m) ∧
    ∃ m, ofWallClock ⟨-4, 1, 29, 23, 59, 59, 999⟩ 90 = .ok m ∧
      m.instant = some (-62288271000001) ∧ (-62288271000001 : Int).natAbs ≤ maxEpochMs ∧
      ofEpoch (.integer (-62288271000001)) 90 = .ok m := by
  have h : (-1 : Int).natAbs ≤ maxEpochMs := by decide
  have h' : (-62288271000001 : Int).natAbs ≤ maxEpochMs := by decide
  obtain ⟨m, hm, hvalid, -, -, -, hback⟩ := ofEpoch_ofWallClock_inverse.1 (-1) (-90) h
  let m' : Moment := ⟨⟨-4, 1, 29, 23, 59, 59, 999⟩, some (-62288271000001), 90, fun _ => by decide⟩
  have hm' : ofWallClock ⟨-4, 1, 29, 23, 59, 59, 999⟩ 90 = .ok m' :=
    ofWallClock_eq_ok_iff.mpr ⟨by decide +kernel, by decide, rfl, by decide, rfl⟩
  exact ⟨h, ⟨m, hm, hvalid, hback⟩, m', hm', rfl, h',
    ofEpoch_ofWallClock_inverse.2 _ 90 _ m' hm' rfl h'⟩

end Moment

end DatePattern
