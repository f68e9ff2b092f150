import DatePattern.Pattern.Field
import DatePattern.Record.Moment

/-! What the fields of a date pattern ask for of a record, whose fields are of any kind. -/
namespace DatePattern

namespace Request

/-- A number of any kind without its sign, padded to a length. -/
def magnitude (x : Argument) (length : Int) (o : Options) (unit : Option CountedUnit) :
    Except ArgumentFault Request := do
  return .plain (.number (← x.magnitude) length o.ordinal unit)

/-- A number of any kind with a sign below zero. -/
def signedMagnitude (x : Argument) (length : Int) (o : Options) (unit : Option CountedUnit) :
    Except ArgumentFault Request := do
  return .call (some x) (.number (← x.magnitude) length o.ordinal unit)

def yearOfRecord (year : Argument) (length : Int) (o : Options) : Except ArgumentFault Request := do
  let year ← if ← year.compares .above 0 then pure year else (1 : Argument).sub year
  if length = 2 then magnitude (← year.mod 100) 2 o (some .year)
  else magnitude year length o (some .year)

end Request

namespace MomentFields

/-- The era of the year. -/
def era (r : MomentFields Argument) : Computed := do
  if ← r.year.compares .above 0 then return 1 else return .int (-1)

/-- The quarter of the month, counted from one. -/
def quarter (r : MomentFields Argument) : Computed := do (← r.month.floorDiv 3).add 1

/-- The hour on a dial from one to twelve. -/
def dialHour (r : MomentFields Argument) : Computed := do return (← r.hour.mod 12).orElse 12

/-- The leading digits of the fraction of a second, with zeros past the third. -/
def fraction (r : MomentFields Argument) (length : Int) : Computed :=
  if length ≤ 3 then r.millisecond.floorDiv (tenTo (3 - length).toNat)
  else r.millisecond.times (tenTo (length - 3).toNat)

def epochMs (r : MomentFields Argument) : Except ArgumentFault Int := r.instant.wholePart

def offsetSign (r : MomentFields Argument) : Except ArgumentFault String := do
  if ← r.offset.compares .atLeast 0 then return "+" else return "-"

/-- The offset in whole hours of two digits. -/
def hours (r : MomentFields Argument) : Except ArgumentFault String := do
  let sign ← r.offsetSign
  return sign ++ (← (← (← r.offset.magnitude).floorDiv 60).paddedText 2)

/-- The offset in hours and minutes of two digits, with a text between them. -/
def hoursAndMinutes (r : MomentFields Argument) (between : String) :
    Except ArgumentFault String := do
  let sign ← r.offsetSign
  let size ← r.offset.magnitude
  let hours ← size.floorDiv 60
  let minutes ← size.mod 60
  return sign ++ (← hours.paddedText 2) ++ between ++ (← minutes.paddedText 2)

/-- The offset in minutes, in the form of a length. -/
def offsetText (r : MomentFields Argument) (zulu : Bool) (length : Int) :
    Except ArgumentFault String := do
  let isZero ← if zulu then r.offset.equalsInt 0 else pure false
  if isZero then return "Z"
  else if length = 1 then
    if ← (← r.offset.mod 60).equalsInt 0 then r.hours else r.hoursAndMinutes ""
  else if length = 2 ∨ length = 4 then r.hoursAndMinutes ""
  else r.hoursAndMinutes ":"

/-- What a field asks for of a record, at a length of its run. -/
def request (f : Field) (length : Int) (r : MomentFields Argument) (o : Options) :
    Except Fault Request := do
  match f with
  | .era => return .plain (.era (← r.era) (eraWidth length))
  | .year => Request.yearOfRecord r.year length o
  | .weekYear => Request.yearOfRecord (← r.weekYear o.weekRule) length o
  | .signedYear => Request.signedMagnitude r.year length o (some .year)
  | .quarter context =>
    let quarter ← r.quarter
    if length ≤ 2 then Request.magnitude quarter length o (some .quarter)
    else return .plain (.quarter quarter (quarterWidth length) context)
  | .month context =>
    if length ≤ 2 then Request.magnitude (← r.month.add 1) length o (some .month)
    else return .plain (.month r.month (monthWidth length) context)
  | .week => Request.magnitude (← r.week o.weekRule) length o (some .week)
  | .dayOfMonth => Request.magnitude r.day length o (some .date)
  | .dayOfYear => Request.magnitude (← r.dayOfYear) length o (some .dayOfYear)
  | .weekday context => return .plain (.weekday (← r.weekday) (weekdayWidth length) context)
  | .halfDay => return .plain (.timeOfDay r.hour .narrow)
  | .hourTo12 => Request.magnitude (← r.dialHour) length o (some .hour)
  | .hourTo23 => Request.magnitude r.hour length o (some .hour)
  | .hourTo11 => Request.magnitude (← r.hour.mod 12) length o (some .hour)
  | .hourTo24 => Request.magnitude (r.hour.orElse 24) length o (some .hour)
  | .minute => Request.magnitude r.minute length o (some .minute)
  | .second => Request.magnitude r.second length o (some .second)
  | .fraction => Request.magnitude (← r.fraction length) length o none
  | .offset zulu => return .text (← r.offsetText zulu length)
  | .secondStamp => return .number ((← r.epochMs) / 1000) length o (some .timestamp)
  | .millisecondStamp => return .number (← r.epochMs) length o (some .timestamp)

def reading (r : MomentFields Argument) : Reading := fun f length o => request f length r o

end MomentFields

/-- The part of a date that a field looks at first. -/
def Field.part : Field → String
  | .era | .year | .signedYear => "year"
  | .quarter _ | .month _ => "month"
  | .weekYear | .week | .dayOfYear => "is_valid"
  | .dayOfMonth => "day"
  | .weekday _ => "weekday"
  | .halfDay | .hourTo12 | .hourTo23 | .hourTo11 | .hourTo24 => "hour"
  | .minute => "minute"
  | .second => "second"
  | .fraction => "millisecond"
  | .offset _ => "utc_offset_minutes"
  | .secondStamp | .millisecondStamp => "epoch_ms"

/-- What the fields ask for of a value that is no date: nothing, for it does not have their part. -/
def Argument.noReading (x : Argument) : Reading := fun f _ _ =>
  .error (.argument (.noAttribute x.fullKindName f.part))

def Argument.dated? : Argument → Option Dated
  | .atom (.moment m) => some (.moment m)
  | .record r => some (.record r)
  | _ => none

def Dated.reading : Dated → Reading
  | moment m => m.reading
  | record r => r.reading

end DatePattern
