import DatePattern.Proofs.Moment.Totality

/-! The moment of a date-time. Its reading and its offset are brought to milliseconds one by one, each
rounded down, which may lose the borrow between their microseconds. -/
namespace DatePattern

/-- A difference rounded down as a whole, against the difference of its parts rounded down. -/
theorem ediv_sub_ediv_thousand (a b : Int) :
    a / 1000 - b / 1000 =
      if a % 1000 < b % 1000 then (a - b) / 1000 + 1 else (a - b) / 1000 := by
  split <;> omega

namespace Stamp

variable {s : Stamp}

/-- Microseconds from the start of 1970 in universal time to the instant of a date-time, which is
read as universal time without an offset. -/
def instantUs (s : Stamp) : Int := s.localUs - s.offset.getD 0

theorem date_wallIn (s : Stamp) : (s.wallIn s.date.year).date = s.date := by
  simp only [wallIn, WallClock.date, Int.sub_add_cancel]

/-- Wall clocks leave out the microseconds behind the last millisecond. -/
theorem toMs_wallIn (s : Stamp) : (s.wallIn s.date.year).toMs = s.localUs / 1000 := by
  rw [WallClock.toMs, date_wallIn]
  simp only [wallIn, localUs, msPerDay, msPerHour, msPerMinute, usPerDay, usPerSecond]
  omega

end Stamp

namespace Moment

variable {s : Stamp} {m : Moment} {year : Int}

/-- What a date-time is read as in some year, where it is read at all. -/
theorem parts_of_ofStampInYear (h : ofStampInYear year s = .ok m) :
    m.wall = s.wallIn year ∧
      m.instant = some ((s.wallIn year).toMs - s.offset.getD 0 / 1000) ∧
      m.offset = (s.offset.getD 0).tdiv usPerMinute := by
  rw [ofStampInYear_eq_bind] at h
  cases hclock : ofWallClock (s.wallIn year) 0 with
  | error f =>
    rw [hclock] at h
    cases h
  | ok clock =>
    obtain ⟨-, -, hwall, -⟩ := ofWallClock_eq_ok_iff.mp hclock
    rw [hclock, ok_bind, hwall] at h
    exact (make_eq_ok_iff.mp h).2.2

end Moment

/-- Every date-time is read as a moment, which shows its reading without the microseconds behind the
last millisecond, and its offset in whole minutes, cut toward zero. The instant is the true one
rounded down to milliseconds, unless the offset has more microseconds behind its last millisecond
than the reading has; then it is one millisecond late. -/
theorem ofArgument_stamp (s : Stamp) (extraDigits : Argument) :
    ∃ m : Moment, Dated.ofArgument (.atom (.stamp s)) extraDigits = .ok (.moment m) ∧
      m.wall = ⟨s.date.year, s.date.month - 1, s.date.day, s.time.hour, s.time.minute,
        s.time.second, s.time.microsecond / 1000⟩ ∧
      m.offset = (s.offset.getD 0).tdiv usPerMinute ∧
      m.instant = some (if s.localUs % 1000 < s.offset.getD 0 % 1000 then s.instantUs / 1000 + 1
        else s.instantUs / 1000) := by
  obtain ⟨m, hm, -⟩ := Moment.ofStamp_isRead s
  obtain ⟨hwall, hinstant, hoffset⟩ := Moment.parts_of_ofStampInYear hm
  refine ⟨m, ?_, hwall, hoffset, ?_⟩
  · change ((Moment.ofStamp s).mapError Fault.moment).map Dated.moment = .ok (.moment m)
    rw [hm]
    rfl
  · rw [hinstant, Stamp.toMs_wallIn, ediv_sub_ediv_thousand, Stamp.instantUs]

/-- When a clock that is one microsecond ahead shows noon, it is still the millisecond before. -/
theorem ofArgument_stamp_late :
    let s : Stamp := ⟨⟨2020, 1, 1⟩, ⟨12, 0, 0, 0⟩, some 1, by decide, by decide, by decide⟩
    (s.localUs - 1) / 1000 = 1577879999999 ∧
      ∃ m : Moment, Dated.ofArgument (.atom (.stamp s)) (.int 2) = .ok (.moment m) ∧
        m.instant = some 1577880000000 := by
  intro s
  obtain ⟨m, hm, -⟩ := Moment.ofStamp_isRead s
  obtain ⟨-, hinstant, -⟩ := Moment.parts_of_ofStampInYear hm
  refine ⟨by decide, m, ?_, hinstant.trans (by decide)⟩
  change ((Moment.ofStamp s).mapError Fault.moment).map Dated.moment = .ok (.moment m)
  rw [hm]
  rfl

end DatePattern
