import DatePattern.Fault
import DatePattern.Record.Date

/-! Moments that are given by fields of any kind. Where all fields are integers the moment is an
ordinary one; a record stands for the others, and keeps the kinds of its fields. -/
namespace DatePattern

namespace MomentFields

def names : List String :=
  ["year", "month", "day", "hour", "minute", "second", "millisecond", "epoch_ms",
    "utc_offset_minutes"]

/-- The fields of keywords. Those of the date have to be given, the others are zero if not. -/
def ofKeywords (entries : List (String × Argument)) : Except Fault (MomentFields Argument) :=
  let field (name : String) : Argument := (entries.lookup name).getD 0
  let missing := (names.take 3).filter fun name => (entries.lookup name).isNone
  match entries.find? fun (name, _) => !names.contains name, missing with
  | some (name, _), _ => .error (.keyword "CalendarValue" name)
  | none, [] =>
    .ok ⟨field "year", field "month", field "day", field "hour", field "minute", field "second",
      field "millisecond", field "epoch_ms", field "utc_offset_minutes"⟩
  | none, missing => .error (.missingKeywords "CalendarValue" missing)

/-- The fields as integers, where all of them are. -/
def integers? (f : MomentFields Argument) : Option (MomentFields Int) := do
  return ⟨← f.year.plainInteger?, ← f.month.plainInteger?, ← f.day.plainInteger?,
    ← f.hour.plainInteger?, ← f.minute.plainInteger?, ← f.second.plainInteger?,
    ← f.millisecond.plainInteger?, ← f.instant.plainInteger?, ← f.offset.plainInteger?⟩

def wall (f : MomentFields Int) : WallClock :=
  ⟨f.year, f.month, f.day, f.hour, f.minute, f.second, f.millisecond⟩

/-- The fields denote an instant when theirs is a finite number. -/
def isValid (f : MomentFields Argument) : Except ArgumentFault Bool := f.instant.isFinite

def date (f : MomentFields Argument) : Except ArgumentFault DateRecord := do
  return ⟨f.year, ← f.month.add 1, f.day⟩

def dayCount (f : MomentFields Argument) : Computed := do (← f.date).dayCount

def weekday (f : MomentFields Argument) : Computed := do DateRecord.weekday (← f.dayCount)

/-- A field lies between two bounds, of which the lower one is compared first. -/
def checkField (field : String) (low high : Int) (x : Argument) : Except Fault Unit := do
  let reaches ← (Argument.int low).compares .atMost x
  let fits ← if reaches then x.compares .atMost (.int high) else pure false
  if fits then return () else throw (.moment (.field ⟨field, low, high, some (← x.display)⟩))

def checkMonth (f : MomentFields Argument) : Except Fault Unit := checkField "month" 0 11 f.month

/-- Fields that denote an instant show an existing reading. -/
def check (f : MomentFields Argument) : Except Fault Unit := do
  if ← f.isValid then
    f.checkMonth
    checkField "day" 1 (← DateRecord.monthLength f.year (← f.month.add 1)) f.day
    checkField "hour" 0 23 f.hour
    checkField "minute" 0 59 f.minute
    checkField "second" 0 59 f.second
    checkField "millisecond" 0 999 f.millisecond

/-- Milliseconds from the start of 1970 to the reading, on the same clock. -/
def clockMs (f : MomentFields Argument) : Computed := do
  let days ← (← f.dayCount).times msPerDay
  let hours ← days.add (← f.hour.times msPerHour)
  let minutes ← hours.add (← f.minute.times msPerMinute)
  let seconds ← minutes.add (← f.second.times 1000)
  seconds.add f.millisecond

/-- The instant when a clock at the offset shows the reading. -/
def clockInstant (f : MomentFields Argument) : Computed := do
  (← f.clockMs).sub (← f.offset.times msPerMinute)

/-- The fields of an instant, seen on a clock at an offset of any kind. -/
def ofInstant (ms : Int) (offset : Argument) : Except ArgumentFault (MomentFields Argument) := do
  let shown ← (Argument.int ms).add (← offset.times msPerMinute)
  let days ← shown.floorDiv msPerDay.toNat
  let time ← shown.mod msPerDay.toNat
  let date ← DateRecord.ofDayCount days
  let hour ← time.floorDiv msPerHour.toNat
  let hourRest ← time.mod msPerHour.toNat
  let minute ← hourRest.floorDiv msPerMinute.toNat
  let minuteRest ← hourRest.mod msPerMinute.toNat
  let second ← minuteRest.floorDiv 1000
  let millisecond ← minuteRest.mod 1000
  return ⟨date.year, ← date.month.sub 1, date.day, hour, minute, second, millisecond, .int ms,
    offset⟩

/-- A number read off the date, which fields that denote no instant do not have. -/
def ofValid (f : MomentFields Argument) (operation : String) (x : Computed) :
    Except Fault Argument := do
  if ← f.isValid then x else throw (.invalidDate operation)

def dayOfYear (f : MomentFields Argument) : Except Fault Argument :=
  f.ofValid "day_of_year" do (← f.date).dayOfYear

def week (f : MomentFields Argument) (rule : WeekRule) : Except Fault Argument :=
  f.ofValid "iso_week" do (← f.date).week rule.record

def weekYear (f : MomentFields Argument) (rule : WeekRule) : Except Fault Argument :=
  f.ofValid "iso_week_year" do (← f.date).weekYear rule.record

def ofIntegers (w : WallClock) (ms offset : Int) : MomentFields Argument :=
  ⟨.int w.year, .int w.month, .int w.day, .int w.hour, .int w.minute, .int w.second,
    .int w.millisecond, .int ms, .int offset⟩

end MomentFields

/-- What a date is given by: a moment, or a record of fields that are not all integers. -/
inductive Dated
  | moment (m : Moment)
  | record (f : MomentFields Argument)

namespace Dated

def argument : Dated → Argument
  | moment m => .atom (.moment m)
  | record f => .record f

def isValid : Dated → Except ArgumentFault Bool
  | moment m => .ok m.isValid
  | record f => f.isValid

def ofMoment (m : Except MomentFault Moment) : Except Fault Dated :=
  (m.map moment).mapError Fault.moment

def ofFields (f : MomentFields Argument) : Except Fault Dated :=
  match f.integers? with
  | some n => ofMoment (Moment.make n.wall n.instant n.offset)
  | none => f.check.map fun _ => record f

/-- The date when a clock at the offset shows the reading. The instant among the fields is left out
of account. -/
def ofWallClock (f : MomentFields Argument) : Except Fault Dated :=
  match MomentFields.integers? { f with instant := 0 } with
  | some n => ofMoment (Moment.ofWallClock n.wall n.offset)
  | none => do
    f.checkMonth
    ofFields { f with instant := ← f.clockInstant }

/-- The date of an instant of any kind, seen on a clock at an offset of any kind. -/
def ofEpoch (ms offset : Argument) : Except Fault Dated :=
  match ms.number? with
  | none => .error (.argument (.noMagnitude ms.fullKindName))
  | some x =>
    match Moment.epochMs? x, offset.plainInteger? with
    | .error f, _ => .error (.moment (.instant f))
    | .ok none, _ => .ok (moment .invalid)
    | .ok (some n), some minutes => ofMoment (Moment.ofEpochMs n minutes)
    | .ok (some n), none => do ofFields (← MomentFields.ofInstant n offset)

end Dated

end DatePattern
