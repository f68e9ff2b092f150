import DatePattern.Moment.WallClock
import DatePattern.Numeral.Arithmetic

/-! Moments: a wall-clock reading, the instant it denotes and the offset of the clock. -/
namespace DatePattern

/-- A moment. Its instant is in milliseconds since the start of 1970 in universal time; a moment
that has one shows an existing reading on its wall clock, and a moment without is invalid, and its
other fields mean nothing. The offset is in minutes, east of universal time. -/
structure Moment where
  wall : WallClock
  instant : Option Int
  offset : Int
  inRange : instant.isSome = true → wall.InRange
deriving DecidableEq

/-- Why fields do not make a moment: one is outside its range, or the instant is no number that an
instant can be. -/
inductive MomentFault
  | field (f : FieldFault)
  | instant (f : NumberFault)
deriving DecidableEq, Repr

def MomentFault.message : MomentFault → String
  | field f => f.message
  | instant f => f.message

namespace Moment

/-- The largest magnitude of an instant that a moment is made from: a hundred million days. -/
def maxEpochMs : Int := 8640000000000000

def invalid : Moment :=
  ⟨⟨0, 0, 1, 0, 0, 0, 0⟩, none, 0, by decide⟩

/-- The moment denotes an instant. -/
def isValid (m : Moment) : Bool := m.instant.isSome

def date (m : Moment) : CivilDate := m.wall.date

def dayCount (m : Moment) : Int := m.date.dayCount

/-- The weekday of the date on the wall; 0 is Sunday. -/
def weekday (m : Moment) : Int := DatePattern.weekday m.dayCount

/-- A moment of the given parts. The instant is looked at first: it has to lie in the range of the
doubles. Then the fields of the wall clock have to be in range. -/
def make (wall : WallClock) (instant : Int) (offset : Int) : Except MomentFault Moment :=
  if Binary64.holdsInt instant = false then .error (.instant .integerTooLarge)
  else if hw : wall.InRange then .ok ⟨wall, some instant, offset, fun _ => hw⟩
  else .error (.field wall.firstFault)

/-- The moment when a clock at an offset shows a reading. The month is looked at before the
instant is computed, and the other fields after. -/
def ofWallClock (wall : WallClock) (offset : Int) : Except MomentFault Moment :=
  if wall.MonthInRange then make wall (wall.toMs - offset * msPerMinute) offset
  else .error (.field wall.monthFault)

/-- The moment of an instant, seen on a clock at an offset; the invalid moment beyond the largest
magnitude. -/
def ofEpochMs (ms : Int) (offset : Int) : Except MomentFault Moment :=
  if maxEpochMs < ms.natAbs then .ok invalid
  else make (WallClock.ofMs (ms + offset * msPerMinute)) ms offset

/-- The whole milliseconds of an instant given as a number of any kind, with a fraction dropped;
none beyond the largest magnitude, and for what is no number. -/
def epochMs? (ms : Number) : Except NumberFault (Option Int) := do
  match ← (← ms.abs).order? (.integer maxEpochMs) with
  | some .gt => return none
  | some _ => return some (← ms.toInt)
  | none => return none

def ofEpoch (ms : Number) (offset : Int) : Except MomentFault Moment :=
  match epochMs? ms with
  | .ok (some ms) => ofEpochMs ms offset
  | .ok none => .ok invalid
  | .error f => .error (.instant f)

end Moment

end DatePattern
