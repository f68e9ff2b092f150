import DatePattern.Calendar.Civil
import DatePattern.Numeral.Decimal
import DatePattern.Numeral.Power

/-! Days and date-times of the years 1 to 9999, the latter to the microsecond. -/
namespace DatePattern

/-- The years that are written with four digits. -/
def CivilDate.HasFourDigitYear (d : CivilDate) : Prop := 1 ≤ d.year ∧ d.year ≤ 9999

instance (d : CivilDate) : Decidable d.HasFourDigitYear :=
  inferInstanceAs (Decidable (_ ∧ _))

/-- A day of the calendar in the years 1 to 9999. -/
structure Day where
  date : CivilDate
  inRange : date.HasFourDigitYear ∧ date.IsValid
deriving DecidableEq

/-- A time of day. The fields are unchecked: `ClockTime.InRange` says which times exist. -/
structure ClockTime where
  hour : Int
  minute : Int
  second : Int
  microsecond : Int
deriving DecidableEq, Repr

/-- The times of a day without leap seconds. -/
def ClockTime.InRange (t : ClockTime) : Prop :=
  (0 ≤ t.hour ∧ t.hour ≤ 23) ∧ (0 ≤ t.minute ∧ t.minute ≤ 59) ∧
  (0 ≤ t.second ∧ t.second ≤ 59) ∧ (0 ≤ t.microsecond ∧ t.microsecond ≤ 999999)

instance (t : ClockTime) : Decidable t.InRange :=
  inferInstanceAs (Decidable (_ ∧ _ ∧ _ ∧ _))

/-- Microseconds in a second, a minute and a day. -/
def usPerSecond : Int := 1000000

@[inherit_doc usPerSecond]
def usPerMinute : Int := 60000000

@[inherit_doc usPerSecond]
def usPerDay : Int := 86400000000

/-- The offsets a clock may have from universal time, in microseconds: less than a day. -/
def IsOffset (us : Int) : Prop := -usPerDay < us ∧ us < usPerDay

instance (us : Int) : Decidable (IsOffset us) :=
  inferInstanceAs (Decidable (_ ∧ _))

/-- A date-time whose offset is known. With an offset (in microseconds, east of universal time) it
denotes an instant; without one it is a reading of some clock. -/
structure Stamp where
  date : CivilDate
  time : ClockTime
  offset : Option Int
  date_inRange : date.HasFourDigitYear ∧ date.IsValid
  time_inRange : time.InRange
  offset_inRange : ∀ us ∈ offset, IsOffset us
deriving DecidableEq

inductive StampFault
  | year (got : Int)
  | month
  | day
  | hour
  | minute
  | second
  | microsecond
  | offset (us : Int)
  | aboveWord
  | belowWord
  | beyondLongWord
  | spanDays (days : Int)
  | spanBeyondWord
deriving DecidableEq, Repr

/-- A signed number of microseconds as days, seconds and microseconds, of which only the days may
be negative. Parts that are zero are left out. -/
def spanText (us : Int) : String :=
  let days := us / usPerDay
  let seconds := us % usPerDay / usPerSecond
  let rest := us % usPerSecond
  let part (name : String) (n : Int) := if n = 0 then [] else [name ++ "=" ++ toString n]
  let parts := part "days" days ++ part "seconds" seconds ++ part "microseconds" rest
  "datetime.timedelta(" ++ (if parts.isEmpty then "0" else ", ".intercalate parts) ++ ")"

def StampFault.message : StampFault → String
  | year got => "year " ++ toString got ++ " is out of range"
  | month => "month must be in 1..12"
  | day => "day is out of range for month"
  | hour => "hour must be in 0..23"
  | minute => "minute must be in 0..59"
  | second => "second must be in 0..59"
  | microsecond => "microsecond must be in 0..999999"
  | offset us =>
    "offset must be a timedelta strictly between -timedelta(hours=24) and " ++
      "timedelta(hours=24), not " ++ spanText us ++ "."
  | aboveWord => "signed integer is greater than maximum"
  | belowWord => "signed integer is less than minimum"
  | beyondLongWord => "Python int too large to convert to C long"
  | spanDays days => "days=" ++ toString days ++ "; must have magnitude <= 999999999"
  | spanBeyondWord => "Python int too large to convert to C int"

/-- The fault of the first number that does not fit a signed word of 32 bits. -/
def wordFault? (fields : List Int) : Option StampFault :=
  fields.findSome? fun n =>
    if n < -(twoTo 63 : Int) ∨ twoTo 63 ≤ n then some .beyondLongWord
    else if twoTo 31 ≤ n then some .aboveWord
    else if n < -(twoTo 31 : Int) then some .belowWord
    else none

/-- The fault of a date that is not a day of the years 1 to 9999. -/
def dateFault (d : CivilDate) : StampFault :=
  if ¬ d.HasFourDigitYear then .year d.year
  else if ¬ (1 ≤ d.month ∧ d.month ≤ 12) then .month
  else .day

/-- The first field of a time that is outside its range. -/
def timeFault (t : ClockTime) : StampFault :=
  if ¬ (0 ≤ t.hour ∧ t.hour ≤ 23) then .hour
  else if ¬ (0 ≤ t.minute ∧ t.minute ≤ 59) then .minute
  else if ¬ (0 ≤ t.second ∧ t.second ≤ 59) then .second
  else .microsecond

/-- The fault of a span that is no offset. Spans of over 999999999 days do not exist. -/
def offsetFault (us : Int) : StampFault :=
  let days := us / usPerDay
  if days < -(twoTo 31 : Int) ∨ twoTo 31 ≤ days then .spanBeyondWord
  else if 999999999 < days.natAbs then .spanDays days
  else .offset us

def Day.make (date : CivilDate) : Except StampFault Day :=
  match wordFault? [date.year, date.month, date.day] with
  | some fault => .error fault
  | none =>
    if h : date.HasFourDigitYear ∧ date.IsValid then .ok ⟨date, h⟩ else .error (dateFault date)

namespace Stamp

def make (date : CivilDate) (time : ClockTime) (offset : Option Int) : Except StampFault Stamp :=
  if ho : ∀ us ∈ offset, IsOffset us then
    match wordFault?
        [date.year, date.month, date.day, time.hour, time.minute, time.second, time.microsecond] with
    | some fault => .error fault
    | none =>
      if hd : date.HasFourDigitYear ∧ date.IsValid then
        if ht : time.InRange then .ok ⟨date, time, offset, hd, ht, ho⟩
        else .error (timeFault time)
      else .error (dateFault date)
  else .error (offsetFault (offset.getD 0))

/-- Microseconds from the start of 1970 to the reading, on the same clock. -/
def localUs (s : Stamp) : Int :=
  s.date.dayCount * usPerDay + (s.time.hour * 3600 + s.time.minute * 60 + s.time.second) * usPerSecond +
    s.time.microsecond

/-- Two readings without offset are equal by their fields, two with an offset by the instants they
denote. -/
def same (a b : Stamp) : Bool :=
  match a.offset, b.offset with
  | none, none => a.localUs == b.localUs
  | some p, some q => a.localUs - p == b.localUs - q
  | _, _ => false

end Stamp

/-- A natural number in decimal, padded to a width. -/
def paddedDigits (width : Nat) (n : Int) : String :=
  String.ofList (padZeros width (Nat.toDigits 10 n.natAbs))

/-- Year, month and day, with hyphens between them. -/
def CivilDate.text (d : CivilDate) : String :=
  paddedDigits 4 d.year ++ "-" ++ paddedDigits 2 d.month ++ "-" ++ paddedDigits 2 d.day

/-- A fraction of a second, left out when it is zero. -/
def fractionText (us : Int) : String :=
  if us = 0 then "" else "." ++ paddedDigits 6 us

/-- A signed offset in hours and minutes, with seconds and their fraction only where needed. -/
def offsetText (us : Int) : String :=
  let size : Int := us.natAbs
  let seconds := size / usPerSecond
  let rest := size % usPerSecond
  (if us < 0 then "-" else "+") ++ paddedDigits 2 (seconds / 3600) ++ ":" ++
    paddedDigits 2 (seconds % 3600 / 60) ++
    (if seconds % 60 = 0 ∧ rest = 0 then ""
     else ":" ++ paddedDigits 2 (seconds % 60) ++ fractionText rest)

/-- Date and time with a space between them, then the offset. -/
def Stamp.text (s : Stamp) : String :=
  s.date.text ++ " " ++ paddedDigits 2 s.time.hour ++ ":" ++ paddedDigits 2 s.time.minute ++ ":" ++
    paddedDigits 2 s.time.second ++ fractionText s.time.microsecond ++
    (s.offset.map offsetText).getD ""

def offsetLiteral (us : Int) : String :=
  if us = 0 then "datetime.timezone.utc" else "datetime.timezone(" ++ spanText us ++ ")"

/-- The literal of a date-time with the literal of its zone. Seconds and microseconds that are zero
at the end are left out. -/
def stampLiteral (date : CivilDate) (time : ClockTime) (zone : Option String) : String :=
  let fields := [date.year, date.month, date.day, time.hour, time.minute] ++
    (if time.microsecond ≠ 0 then [time.second, time.microsecond]
     else if time.second ≠ 0 then [time.second] else [])
  let zone := (zone.map fun s => ["tzinfo=" ++ s]).getD []
  "datetime.datetime(" ++ ", ".intercalate (fields.map toString ++ zone) ++ ")"

def Stamp.literal (s : Stamp) : String := stampLiteral s.date s.time (s.offset.map offsetLiteral)

def Day.literal (d : Day) : String :=
  "datetime.date(" ++ toString d.date.year ++ ", " ++ toString d.date.month ++ ", " ++
    toString d.date.day ++ ")"

end DatePattern
