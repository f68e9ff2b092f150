import DatePattern.Moment.IsoText
import DatePattern.Record.Moment
import DatePattern.Text.Blank
import DatePattern.Text.Digit

/-! Moments from values of any kind. What denotes no instant gives the invalid moment. -/
namespace DatePattern

namespace Moment

/-- The moment when a clock shows the month, day and time of a date-time in some year. A stamp
without offset is read as universal time. Instants are exact to the millisecond, rounded down; the
offset is kept in whole minutes, cut toward zero. -/
def ofStampInYear (year : Int) (s : Stamp) : Except MomentFault Moment := do
  let wall : WallClock :=
    ⟨year, s.date.month - 1, s.date.day, s.time.hour, s.time.minute, s.time.second,
      s.time.microsecond / 1000⟩
  let offset := s.offset.getD 0
  let clock ← ofWallClock wall 0
  make clock.wall (wall.toMs - offset / 1000) (offset.tdiv usPerMinute)

def ofStamp (s : Stamp) : Except MomentFault Moment := ofStampInYear s.date.year s

/-- The moment when a day begins in universal time. -/
def ofDay (d : Day) : Except MomentFault Moment :=
  ofWallClock ⟨d.date.year, d.date.month - 1, d.date.day, 0, 0, 0, 0⟩ 0

/-- The moment, or the invalid one in place of a field outside its range. -/
def orInvalid : Except MomentFault Moment → Except MomentFault Moment
  | .error (.field _) => .ok invalid
  | result => result

/-- The moment, or the invalid one beyond the largest magnitude of an instant. -/
def bounded (m : Moment) : Moment :=
  match m.instant with
  | some ms => if maxEpochMs < ms.natAbs then invalid else m
  | none => m

/-- The text is a month and a day of two digits each, and after them nothing, or a time behind a
letter T or a space. -/
def isMonthDay (cs : List Char) : Bool :=
  match cs with
  | '-' :: a :: b :: '-' :: c :: d :: rest =>
    [a, b, c, d].all (fun c => (digitValue? c).isSome) &&
      (match rest with
        | [] => true
        | e :: _ => e == 'T' || e == ' ')
  | _ => false

/-- An expanded year, with the text behind it: a sign, and at least four digits. The text is empty
or begins with a hyphen, and is on one line. -/
def expandedYear? (cs : List Char) : Option (Bool × List Char × List Char) :=
  match cs with
  | [] => none
  | sign :: more =>
    if sign = '+' ∨ sign = '-' then
      let digits := more.takeWhile fun c => (digitValue? c).isSome
      let rest := more.dropWhile fun c => (digitValue? c).isSome
      if 4 ≤ digits.length ∧ (rest = [] ∨ rest.head? = some '-') ∧ ¬ rest.contains '\n' then
        some (sign = '-', digits, rest)
      else none
    else none

/-- The moment of an expanded year. What follows the year is read with a leap year in its place,
since the years of date-times have four digits; the day then has to exist in the real year. -/
def ofExpandedYear (negative : Bool) (digits rest : List Char) : Except MomentFault Moment :=
  if digitLimit < digits.length then .ok invalid
  else
    let year := signed negative (leadingNumber digits).1
    if rest.isEmpty then ofWallClock ⟨year, 0, 1, 0, 0, 0, 0⟩ 0
    else if isMonthDay rest then
      match IsoText.read? (['2', '0', '0', '0'] ++ rest) with
      | some stamp => ofStampInYear year stamp
      | none => .ok invalid
    else .ok invalid

/-- Four and a number of extra digits are together a count. -/
def countsDigits (extraDigits : Argument) (count : Nat) : Except ArgumentFault Bool := do
  (← (Argument.int 4).add extraDigits).equalsInt count

/-- The moment of a text: a date-time in ISO form, or an expanded year with its number of extra
digits. -/
def ofText (s : String) (extraDigits : Argument) : Except Fault Moment :=
  let cs := trimBlanks s.toList
  match expandedYear? cs with
  | some (negative, digits, rest) => do
    if ← countsDigits extraDigits digits.length then
      let m ← (orInvalid (ofExpandedYear negative digits rest)).mapError Fault.moment
      return m.bounded
    else return invalid
  | none =>
    match IsoText.read? cs with
    | some stamp => (ofStamp stamp).mapError Fault.moment
    | none => .ok invalid

/-- The moment that a value without parts denotes. Numbers are milliseconds since the start of 1970;
flags, exact fractions and decimals are no dates. -/
def ofAtom (a : Atom) (extraDigits : Argument) : Except Fault Moment :=
  match a with
  | .moment m => .ok m
  | .stamp s => (ofStamp s).mapError Fault.moment
  | .zoned z => do (ofStamp (← z.stamp)).mapError Fault.moment
  | .day d => (ofDay d).mapError Fault.moment
  | .number (.integer n) => (ofEpochMs n 0).mapError Fault.moment
  | .number (.binary b) => (ofEpoch (.binary b) 0).mapError Fault.moment
  | .text s => ofText s extraDigits
  | _ => .ok invalid

end Moment

/-- The date that a value denotes. A record is one as it is; lists and mappings are none. -/
def Dated.ofArgument (x : Argument) (extraDigits : Argument) : Except Fault Dated :=
  match x with
  | .record f => .ok (.record f)
  | .atom a => (Moment.ofAtom a extraDigits).map moment
  | _ => .ok (.moment .invalid)

end DatePattern
