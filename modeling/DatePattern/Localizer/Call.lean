import DatePattern.Argument.Arithmetic
import DatePattern.Fault

/-! What a pattern asks of a localizer, and what a localizer answers. -/
namespace DatePattern

/-- The width of a name. Only weekdays have a short form of their own. -/
inductive Width
  | narrow
  | short
  | abbreviated
  | wide
deriving DecidableEq, Repr

def Width.name : Width → String
  | narrow => "narrow"
  | short => "short"
  | abbreviated => "abbreviated"
  | wide => "wide"

def Width.all : List Width := [narrow, short, abbreviated, wide]

/-- Whether a name stands within a date or on its own. -/
inductive NameContext
  | formatting
  | standalone
deriving DecidableEq, Repr

def NameContext.name : NameContext → String
  | formatting => "formatting"
  | standalone => "standalone"

/-- What a number counts. -/
inductive CountedUnit
  | year
  | quarter
  | month
  | week
  | date
  | dayOfYear
  | day
  | hour
  | minute
  | second
  | timestamp
deriving DecidableEq, Repr

namespace CountedUnit

def name : CountedUnit → String
  | year => "year"
  | quarter => "quarter"
  | month => "month"
  | week => "week"
  | date => "date"
  | dayOfYear => "dayOfYear"
  | day => "day"
  | hour => "hour"
  | minute => "minute"
  | second => "second"
  | timestamp => "timestamp"

def all : List CountedUnit :=
  [year, quarter, month, week, date, dayOfYear, day, hour, minute, second, timestamp]

end CountedUnit

/-- A question to a localizer. The era is 1 or -1, a quarter is counted from one, a month from
zero, a weekday from Sunday as zero; a number is to be padded with zeros to a length. A moment asks
with integers; a caller may ask with values of any kind. -/
inductive Call
  | era (era : Argument) (width : Width)
  | quarter (quarter : Argument) (width : Width) (context : NameContext)
  | month (month : Argument) (width : Width) (context : NameContext)
  | weekday (weekday : Argument) (width : Width) (context : NameContext)
  | timeOfDay (hour : Argument) (width : Width)
  | number (value : Argument) (leadingZeros : Int) (ordinal : Bool) (unit : Option CountedUnit)
deriving DecidableEq

def Call.name : Call → String
  | era _ _ => "era"
  | quarter _ _ _ => "quarter"
  | month _ _ _ => "month"
  | weekday _ _ _ => "weekday"
  | timeOfDay _ _ => "time_of_day"
  | number _ _ _ _ => "number"

/-- An answer: a text or a fault, and the remarks made on the way. -/
structure Answer where
  remarks : List String
  result : Except Fault String

/-- The place of an era among the two, of which the earlier one is first. -/
def Call.eraPlace (era : Argument) : Computed := do
  if ← era.compares .above 0 then return 1 else return 0

/-- What keeps a call from being answered, whoever is asked: a length that no text has. The number
is looked at before the length. -/
def Call.widthFault? : Call → Option ArgumentFault
  | .number value leadingZeros _ _ =>
    match value.paddedText 0, Argument.checkWidth leadingZeros with
    | .ok _, .error f => some f
    | _, _ => none
  | _ => none

/-- A source of names and numerals. It answers a call in the light of the calls before it, of which
the newest is first. -/
structure Localizer where
  answer : List Call → Call → Answer

namespace Answer

def plain (result : Except ArgumentFault String) : Answer :=
  ⟨[], result.mapError Fault.argument⟩

end Answer

namespace Localizer

def ofFunction (f : Call → Answer) : Localizer := ⟨fun _ call => f call⟩

/-- The answers do not depend on earlier calls. -/
def IsStateless (l : Localizer) : Prop :=
  ∀ before after call, l.answer before call = l.answer after call

theorem isStateless_ofFunction (f : Call → Answer) : (ofFunction f).IsStateless :=
  fun _ _ _ => rfl

/-- No localizer, which has no answer to any call. -/
def absent : Localizer :=
  ofFunction fun call => .plain (.error (.noAttribute Argument.absent.kindName call.name))

/-- The localizer that refuses lengths that no text has, which a caller may ask for. -/
def bounded (l : Localizer) : Localizer where
  answer history call :=
    match call.widthFault? with
    | some f => .plain (.error f)
    | none => l.answer history call

end Localizer

end DatePattern
