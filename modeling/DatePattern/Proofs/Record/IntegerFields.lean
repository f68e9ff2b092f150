import DatePattern.Moment.Coercion
import DatePattern.Record.Field
import Mathlib.Tactic.SplitIfs

/-! Records of integers. The fields of a pattern ask of them what they ask of the moment that shows
the same integers; so a moment may be read as the record of its fields. -/
namespace DatePattern

/-- The record holds the integers that the moment shows on its wall clock and as its offset, and a
finite number whose whole part is the instant of the moment. -/
structure MomentFields.Shows (r : MomentFields Argument) (m : Moment) : Prop where
  year : r.year = .int m.wall.year
  month : r.month = .int m.wall.month
  day : r.day = .int m.wall.day
  hour : r.hour = .int m.wall.hour
  minute : r.minute = .int m.wall.minute
  second : r.second = .int m.wall.second
  millisecond : r.millisecond = .int m.wall.millisecond
  offset : r.offset = .int m.offset
  isValid : r.isValid = .ok true
  instant : ∃ ms, r.instant.wholePart = .ok ms ∧ m.instant = some ms

theorem Argument.orElse_int (n other : Int) :
    (int n).orElse (int other) = int (if n = 0 then other else n) := by
  have htruthy : (int n).isTruthy = !(n == 0) := rfl
  rw [orElse, htruthy]
  by_cases h : n = 0 <;> simp [h]

namespace Request

variable (n length : Int) (o : Options) (unit : Option CountedUnit)

theorem magnitude_int : magnitude (.int n) length o unit = .ok (number n length o unit) := rfl

theorem signedMagnitude_int :
    signedMagnitude (.int n) length o unit = .ok (signedNumber n length o unit) := rfl

theorem yearOfRecord_int : yearOfRecord (.int n) length o = .ok (year (yearOfEra n) length o) := by
  have hmod (y : Int) : (Argument.int y).mod 100 = .ok (.int (y % 100)) := Argument.mod_int y 100
  rw [yearOfRecord, yearOfEra, year]
  by_cases h : 0 < n <;> by_cases htwo : length = 2 <;>
    simp [Comparison.holdsInt, h, htwo, hmod, magnitude_int]

end Request

theorem MomentFields.ofValid_of_valid {r : MomentFields Argument} (hvalid : r.isValid = .ok true)
    (operation : String) (x : Computed) :
    r.ofValid operation x = x.mapError Fault.argument := by
  rw [ofValid, hvalid]
  rfl

namespace MomentFields.Shows

variable {r : MomentFields Argument} {m : Moment}

theorem moment_isValid (h : r.Shows m) : m.isValid = true := by
  obtain ⟨ms, -, hms⟩ := h.instant
  rw [Moment.isValid, hms]
  rfl

theorem date_eq (h : r.Shows m) : r.date = .ok m.date.record := by
  rw [date, h.year, h.month, h.day]
  rfl

theorem ofValid_eq (h : r.Shows m) (operation : String) {x : Computed} {n : Int}
    (hx : x = .ok (.int n)) : r.ofValid operation x = .ok (.int n) := by
  rw [ofValid_of_valid h.isValid, hx]
  rfl

theorem moment_ofValid_eq (h : r.Shows m) (operation : String) (n : Int) :
    m.ofValid operation n = .ok n :=
  if_pos h.moment_isValid

theorem weekYear_eq (h : r.Shows m) (rule : WeekRule) :
    r.weekYear rule = .ok (.int (m.date.weekYear rule)) := by
  refine h.ofValid_eq "iso_week_year" ?_
  rw [h.date_eq, Argument.ok_bind]
  exact DateRecord.weekYear_int rule _ _ _

theorem week_eq (h : r.Shows m) (rule : WeekRule) :
    r.week rule = .ok (.int (m.date.week rule)) := by
  refine h.ofValid_eq "iso_week" ?_
  rw [h.date_eq, Argument.ok_bind]
  exact DateRecord.week_int rule _ _ _

theorem dayOfYear_eq (h : r.Shows m) : r.dayOfYear = .ok (.int m.date.dayOfYear) := by
  refine h.ofValid_eq "day_of_year" ?_
  rw [h.date_eq, Argument.ok_bind]
  exact DateRecord.dayOfYear_int _ _ _

theorem epochMs_eq (h : r.Shows m) : r.epochMs.mapError Fault.argument = m.epochMs := by
  obtain ⟨ms, hwhole, hms⟩ := h.instant
  rw [epochMs, hwhole, Moment.epochMs, hms]
  rfl

theorem era_eq (h : r.Shows m) : r.era = .ok (.int (if 0 < m.wall.year then 1 else -1)) := by
  rw [era, h.year]
  by_cases hpos : 0 < m.wall.year <;> simp [Comparison.holdsInt, hpos, pure, Except.pure]

theorem weekday_eq (h : r.Shows m) : r.weekday = .ok (.int m.weekday) := by
  have hcount : m.date.record.dayCount = .ok (.int m.dayCount) := DateRecord.dayCount_int _ _ _
  rw [weekday, dayCount, h.date_eq, Argument.ok_bind, hcount]
  exact DateRecord.weekday_int m.dayCount

theorem dialHour_eq (h : r.Shows m) :
    r.dialHour = .ok (.int (if m.wall.hour % 12 = 0 then 12 else m.wall.hour % 12)) := by
  have hmod : (Argument.int m.wall.hour).mod 12 = .ok (.int (m.wall.hour % 12)) :=
    Argument.mod_int m.wall.hour 12
  rw [dialHour, h.hour, hmod, Argument.ok_bind]
  exact congrArg Except.ok (Argument.orElse_int _ 12)

section

variable (h : r.Shows m)
include h

theorem offsetSign_eq : r.offsetSign = .ok (DatePattern.offsetSign m.offset) := by
  rw [offsetSign, h.offset, DatePattern.offsetSign]
  by_cases hsign : 0 ≤ m.offset <;> simp [Comparison.holdsInt, hsign, pure, Except.pure]

theorem hours_eq :
    r.hours.mapError Fault.argument =
      match paddedNumeral? (m.offset.natAbs / 60) 2 with
      | some hours => .ok (DatePattern.offsetSign m.offset ++ hours)
      | none => .error (.argument .numeralTooLong) := by
  have hdiv : (Argument.int m.offset.natAbs).floorDiv 60 = .ok (.int (m.offset.natAbs / 60)) :=
    Argument.floorDiv_int m.offset.natAbs 60
  rw [hours, h.offsetSign_eq, h.offset, Argument.magnitude_int]
  simp only [Argument.ok_bind, hdiv, Argument.paddedText_int]
  cases paddedNumeral? (m.offset.natAbs / 60) 2 <;> rfl

theorem hoursAndMinutes_eq (between : String) :
    (r.hoursAndMinutes between).mapError Fault.argument =
      DatePattern.hoursAndMinutes m.offset between := by
  have hdiv : (Argument.int m.offset.natAbs).floorDiv 60 = .ok (.int (m.offset.natAbs / 60)) :=
    Argument.floorDiv_int m.offset.natAbs 60
  have hmod : (Argument.int m.offset.natAbs).mod 60 = .ok (.int (m.offset.natAbs % 60)) :=
    Argument.mod_int m.offset.natAbs 60
  rw [hoursAndMinutes, h.offsetSign_eq, h.offset, Argument.magnitude_int,
    DatePattern.hoursAndMinutes]
  simp only [Argument.ok_bind, hdiv, hmod, Argument.paddedText_int]
  cases paddedNumeral? (m.offset.natAbs / 60) 2 <;>
    cases paddedNumeral? (m.offset.natAbs % 60) 2 <;> rfl

theorem offsetText_eq (zulu : Bool) (length : Int) :
    (r.offsetText zulu length).mapError Fault.argument = offsetRequest zulu length m.offset := by
  have hmod : (Argument.int m.offset).mod 60 = .ok (.int (m.offset % 60)) :=
    Argument.mod_int m.offset 60
  rw [offsetText, h.offset, offsetRequest]
  simp only [hmod, Argument.ok_bind, Argument.equalsInt_int, pure_bind, beq_iff_eq]
  cases zulu with
  | false =>
    simp only [Bool.false_eq_true, if_false, false_and]
    split_ifs
    · exact h.hours_eq
    · exact h.hoursAndMinutes_eq ""
    · exact h.hoursAndMinutes_eq ""
    · exact h.hoursAndMinutes_eq ":"
  | true =>
    simp only [if_true, true_and]
    split_ifs
    · rfl
    · exact h.hours_eq
    · exact h.hoursAndMinutes_eq ""
    · exact h.hoursAndMinutes_eq ""
    · exact h.hoursAndMinutes_eq ":"

end

/-- What a field asks for of the record is what it asks for of the moment. -/
theorem request_eq (h : r.Shows m) (f : Field) (length : Int) (o : Options) :
    request f length r o = f.request length m o := by
  cases f with
  | era =>
    rw [request, h.era_eq]
    rfl
  | year =>
    rw [request, h.year, Request.yearOfRecord_int]
    rfl
  | weekYear =>
    rw [request, h.weekYear_eq, Field.request, Moment.weekYear, h.moment_ofValid_eq]
    change ((Request.yearOfRecord (.int (m.date.weekYear o.weekRule)) length o).mapError _) = _
    rw [Request.yearOfRecord_int]
    rfl
  | signedYear =>
    rw [request, h.year, Request.signedMagnitude_int]
    rfl
  | quarter context =>
    have hdiv : (Argument.int m.wall.month).floorDiv 3 = .ok (.int (m.wall.month / 3)) :=
      Argument.floorDiv_int m.wall.month 3
    have hadd : (Argument.int (m.wall.month / 3)).add 1 = .ok (.int (m.wall.month / 3 + 1)) :=
      Argument.add_int (m.wall.month / 3) 1
    rw [request, quarter, h.month, hdiv, Argument.ok_bind, hadd, Field.request]
    by_cases hlength : length ≤ 2
    · rw [if_pos hlength]
      exact if_pos hlength
    · rw [if_neg hlength]
      exact if_neg hlength
  | month context =>
    have hadd : (Argument.int m.wall.month).add 1 = .ok (.int (m.wall.month + 1)) :=
      Argument.add_int m.wall.month 1
    rw [request, h.month, hadd, Field.request]
    by_cases hlength : length ≤ 2
    · rw [if_pos hlength, if_pos hlength]
      rfl
    · rw [if_neg hlength, if_neg hlength]
      rfl
  | week =>
    rw [request, h.week_eq, Field.request, Moment.week, h.moment_ofValid_eq]
    rfl
  | dayOfMonth =>
    rw [request, h.day, Request.magnitude_int]
    rfl
  | dayOfYear =>
    rw [request, h.dayOfYear_eq, Field.request, Moment.dayOfYear, h.moment_ofValid_eq]
    rfl
  | weekday context =>
    rw [request, h.weekday_eq]
    rfl
  | halfDay =>
    rw [request, h.hour]
    rfl
  | hourTo12 =>
    rw [request, h.dialHour_eq]
    rfl
  | hourTo23 =>
    rw [request, h.hour]
    rfl
  | hourTo11 =>
    rw [request, h.hour]
    rfl
  | hourTo24 =>
    have hhour : (Argument.int m.wall.hour).orElse 24 =
        .int (if m.wall.hour = 0 then 24 else m.wall.hour) := Argument.orElse_int m.wall.hour 24
    rw [request, h.hour, hhour]
    rfl
  | minute =>
    rw [request, h.minute]
    rfl
  | second =>
    rw [request, h.second]
    rfl
  | fraction =>
    rw [request, MomentFields.fraction, h.millisecond, Argument.floorDiv_int, Argument.times_int,
      Field.request, fractionDigits]
    by_cases hlength : length ≤ 3
    · rw [if_pos hlength, if_pos hlength]
      rfl
    · rw [if_neg hlength, if_neg hlength]
      rfl
  | offset zulu =>
    rw [Field.request, ← h.offsetText_eq]
    rfl
  | secondStamp =>
    rw [Field.request, ← h.epochMs_eq]
    rfl
  | millisecondStamp =>
    rw [Field.request, ← h.epochMs_eq]
    rfl

theorem reading_eq (h : r.Shows m) : r.reading = m.reading := by
  funext f length o
  exact h.request_eq f length o

end MomentFields.Shows

namespace Dated

/-- The fields of a date. The instant of a moment without one is no number. -/
def fields : Dated → MomentFields Argument
  | moment m =>
    { MomentFields.ofIntegers m.wall 0 m.offset with
      instant := match m.instant with
        | some ms => .int ms
        | none => .number (.binary .nan) }
  | record r => r

/-- The date is the moment, which denotes an instant, or a record of the integers that it shows. -/
def Shows : Dated → Moment → Prop
  | moment n, m => n = m ∧ m.isValid = true
  | record r, m => r.Shows m

theorem Shows.reading_eq {d : Dated} {m : Moment} (h : d.Shows m) : d.reading = m.reading := by
  cases d with
  | moment n =>
    obtain ⟨rfl, -⟩ := h
    rfl
  | record r => exact MomentFields.Shows.reading_eq h

theorem Shows.isValid {d : Dated} {m : Moment} (h : d.Shows m) : d.isValid = .ok true := by
  cases d with
  | moment n =>
    obtain ⟨rfl, hvalid⟩ := h
    exact congrArg Except.ok hvalid
  | record r => exact MomentFields.Shows.isValid h

theorem Shows.exists_instant {d : Dated} {m : Moment} (h : d.Shows m) :
    ∃ ms, m.instant = some ms := by
  cases d with
  | moment n =>
    obtain ⟨rfl, hvalid⟩ := h
    exact Option.isSome_iff_exists.mp hvalid
  | record r =>
    obtain ⟨ms, -, hms⟩ := MomentFields.Shows.instant h
    exact ⟨ms, hms⟩

theorem ofArgument_argument (d : Dated) (extraDigits : Argument) :
    ofArgument d.argument extraDigits = .ok d := by
  cases d <;> rfl

/-- The record of the fields of a moment that denotes an instant shows the moment. -/
theorem shows_fields {m : Moment} (hvalid : (moment m).fields.isValid = .ok true) :
    (moment m).fields.Shows m := by
  have hinstant : ∃ ms, (moment m).fields.instant.wholePart = .ok ms ∧ m.instant = some ms := by
    rw [fields]
    cases hms : m.instant with
    | none =>
      rw [MomentFields.isValid, fields, hms] at hvalid
      cases hvalid
    | some ms => exact ⟨ms, rfl, rfl⟩
  exact ⟨rfl, rfl, rfl, rfl, rfl, rfl, rfl, rfl, hvalid, hinstant⟩

/-- A date that denotes an instant is read as the record of its fields. -/
theorem reading_fields {d : Dated} (hvalid : d.fields.isValid = .ok true) :
    d.fields.reading = d.reading := by
  cases d with
  | moment m => exact (shows_fields hvalid).reading_eq
  | record r => rfl

theorem isValid_of_fields {d : Dated} (hvalid : d.fields.isValid = .ok true) :
    d.isValid = .ok true := by
  cases d with
  | moment m => exact congrArg Except.ok (shows_fields hvalid).moment_isValid
  | record r => exact hvalid

end Dated

end DatePattern
