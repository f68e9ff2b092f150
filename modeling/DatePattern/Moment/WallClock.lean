import DatePattern.Calendar.Civil
import DatePattern.Numeral.Decimal

/-! Wall-clock readings: a civil date and a time of day, to the millisecond. -/
namespace DatePattern

/-- What a clock and a calendar on the wall show. Months are counted from zero, days of the month
from one. The fields are unchecked: `WallClock.InRange` says which readings exist. -/
structure WallClock where
  year : Int
  month : Int
  day : Int
  hour : Int
  minute : Int
  second : Int
  millisecond : Int
deriving DecidableEq, Repr

/-- A field of a reading that is outside its range, with the text of its value, which an integer
of too many digits does not have. -/
structure FieldFault where
  field : String
  low : Int
  high : Int
  got : Option String
deriving DecidableEq, Repr

/-- What is wrong with the field, or with the text that should say so. -/
def FieldFault.message (f : FieldFault) : String :=
  match f.got with
  | some got =>
    "CalendarValue." ++ f.field ++ " must be in [" ++ toString f.low ++ ", " ++ toString f.high ++
      "], got " ++ got
  | none => digitLimitMessage

/-- Milliseconds in a minute, an hour and a day. -/
def msPerMinute : Int := 60000

@[inherit_doc msPerMinute]
def msPerHour : Int := 3600000

@[inherit_doc msPerMinute]
def msPerDay : Int := 86400000

namespace WallClock

/-- The date, with the month counted from one. -/
def date (w : WallClock) : CivilDate := ⟨w.year, w.month + 1, w.day⟩

def MonthInRange (w : WallClock) : Prop := 0 ≤ w.month ∧ w.month ≤ 11

instance (w : WallClock) : Decidable w.MonthInRange :=
  inferInstanceAs (Decidable (_ ∧ _))

/-- The readings that exist. -/
def InRange (w : WallClock) : Prop :=
  w.MonthInRange ∧
  (1 ≤ w.day ∧ w.day ≤ monthLength w.year (w.month + 1)) ∧
  (0 ≤ w.hour ∧ w.hour ≤ 23) ∧ (0 ≤ w.minute ∧ w.minute ≤ 59) ∧
  (0 ≤ w.second ∧ w.second ≤ 59) ∧ (0 ≤ w.millisecond ∧ w.millisecond ≤ 999)

instance (w : WallClock) : Decidable w.InRange :=
  inferInstanceAs (Decidable (_ ∧ _ ∧ _ ∧ _ ∧ _ ∧ _))

def monthFault (w : WallClock) : FieldFault := ⟨"month", 0, 11, numeral? w.month⟩

/-- The first field outside its range, in the order of the fields. -/
def firstFault (w : WallClock) : FieldFault :=
  let longest := monthLength w.year (w.month + 1)
  if ¬ w.MonthInRange then w.monthFault
  else if ¬ (1 ≤ w.day ∧ w.day ≤ longest) then ⟨"day", 1, longest, numeral? w.day⟩
  else if ¬ (0 ≤ w.hour ∧ w.hour ≤ 23) then ⟨"hour", 0, 23, numeral? w.hour⟩
  else if ¬ (0 ≤ w.minute ∧ w.minute ≤ 59) then ⟨"minute", 0, 59, numeral? w.minute⟩
  else if ¬ (0 ≤ w.second ∧ w.second ≤ 59) then ⟨"second", 0, 59, numeral? w.second⟩
  else ⟨"millisecond", 0, 999, numeral? w.millisecond⟩

/-- Milliseconds from the start of 1970 to the reading, on the same clock. -/
def toMs (w : WallClock) : Int :=
  w.date.dayCount * msPerDay + w.hour * msPerHour + w.minute * msPerMinute + w.second * 1000 +
    w.millisecond

/-- The reading a number of milliseconds after the start of 1970, on the same clock. -/
def ofMs (ms : Int) : WallClock :=
  let date := CivilDate.ofDayCount (ms / msPerDay)
  let time := ms % msPerDay
  let hourRest := time % msPerHour
  let minuteRest := hourRest % msPerMinute
  ⟨date.year, date.month - 1, date.day, time / msPerHour, hourRest / msPerMinute,
    minuteRest / 1000, minuteRest % 1000⟩

end WallClock

end DatePattern
