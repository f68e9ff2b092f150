import DatePattern.Argument.Foreign
import DatePattern.Moment.Basic
import DatePattern.Moment.Fields
import DatePattern.Options.Basic
import DatePattern.Text.Quoted

/-! Values without parts that a caller may pass: their kinds, texts and equality. -/
namespace DatePattern

/-- A value without parts. -/
inductive Atom
  | absent
  | flag (b : Bool)
  | number (x : Number)
  | text (s : String)
  | bytes (bs : List UInt8)
  | foreign (o : Foreign)
  | moment (m : Moment)
  | stamp (s : Stamp)
  | zoned (z : ZonedStamp)
  | day (d : Day)
  | options (o : Options)
deriving DecidableEq

def flagLiteral (b : Bool) : String := if b then "True" else "False"

def MomentFields.literal (f : MomentFields String) : String :=
  "CalendarValue(year=" ++ f.year ++ ", month=" ++ f.month ++ ", day=" ++ f.day ++ ", hour=" ++
    f.hour ++ ", minute=" ++ f.minute ++ ", second=" ++ f.second ++ ", millisecond=" ++
    f.millisecond ++ ", epoch_ms=" ++ f.instant ++ ", utc_offset_minutes=" ++ f.offset ++ ")"

def Moment.literal? (m : Moment) : Option String := do
  let instant ← match m.instant with
    | some ms => numeral? ms
    | none => some "nan"
  return MomentFields.literal
    ⟨← numeral? m.wall.year, ← numeral? m.wall.month, ← numeral? m.wall.day,
      ← numeral? m.wall.hour, ← numeral? m.wall.minute, ← numeral? m.wall.second,
      ← numeral? m.wall.millisecond, instant, ← numeral? m.offset⟩

def Options.literal? (o : Options) : Option String := do
  let digits ← match o.additionalDigits with
    | some x => x.literal?
    | none => some "None"
  let number (n : Option Int) : String := (n.map toString).getD "None"
  return "FormatOptions(additional_digits=" ++ digits ++ ", week_starts_on=" ++
    number o.weekStartsOn ++ ", first_week_contains_date=" ++ number o.firstWeekContains ++
    ", use_additional_week_year_token=" ++ flagLiteral o.acknowledgesWeekYear ++
    ", use_additional_day_of_year_token=" ++ flagLiteral o.acknowledgesDayOfYear ++
    ", ordinal=" ++ flagLiteral o.ordinal ++ ")"

namespace Atom

def int (n : Int) : Atom := .number (.integer n)

def kindName : Atom → String
  | absent => "NoneType"
  | flag _ => "bool"
  | number x => x.kindName
  | text _ => "str"
  | bytes _ => "bytes"
  | foreign o => o.kindName
  | moment _ => "CalendarValue"
  | stamp _ => "datetime"
  | zoned _ => "datetime"
  | day _ => "date"
  | options _ => "FormatOptions"

/-- The full name of the kind, with that of its module where it has one. -/
def fullKindName : Atom → String
  | number (.decimal _) => "decimal.Decimal"
  | stamp _ => "datetime.datetime"
  | zoned _ => "datetime.datetime"
  | day _ => "datetime.date"
  | a => a.kindName

/-- The text of a value as a literal. -/
def literal : Atom → Except ArgumentFault String
  | absent => .ok "None"
  | flag b => .ok (flagLiteral b)
  | number x => orTooLong x.literal?
  | text s => .ok (quoteText s)
  | bytes bs => .ok (quoteBytes bs)
  | foreign o => o.literal.result
  | moment m => orTooLong m.literal?
  | stamp s => .ok s.literal
  | zoned z => z.literal
  | day d => .ok d.literal
  | options o => orTooLong o.literal?

/-- The text of a value for reading. An object without one of its own has its literal. -/
def display : Atom → Except ArgumentFault String
  | text s => .ok s
  | foreign o => (o.ownText?.getD o.literal).result
  | number x => orTooLong x.display?
  | stamp s => .ok s.text
  | zoned z => z.stamp.map Stamp.text
  | day d => .ok d.date.text
  | a => a.literal

/-- The kinds whose text for reading is their own: texts, bytes, days and date-times, the exact
numbers that are no integers, and the objects whose class has one. -/
def hasOwnText : Atom → Bool
  | text _ => true
  | bytes _ => true
  | foreign o => o.ownText?.isSome
  | number (.ratio _) => true
  | number (.decimal _) => true
  | stamp _ => true
  | zoned _ => true
  | day _ => true
  | _ => false

def isTruthy : Atom → Bool
  | absent => false
  | flag b => b
  | number x => !x.equalsInt 0
  | text s => s != ""
  | bytes bs => !bs.isEmpty
  | _ => true

/-- The number that takes part in arithmetic. A flag counts as zero or one. -/
def number? : Atom → Option Number
  | number x => some x
  | flag b => some (.integer (if b then 1 else 0))
  | _ => none

/-- The date-time that a value is. -/
def stamp? : Atom → Option (Except ArgumentFault Stamp)
  | stamp s => some (.ok s)
  | zoned z => some z.stamp
  | _ => none

/-- Equality by value, which a decimal that signals makes fail, and a date-time whose zone does. Two
objects without value differ. -/
def equals (a b : Atom) : Except ArgumentFault Bool :=
  match a, b with
  | absent, absent => .ok true
  | text s, text t => .ok (s == t)
  | bytes s, bytes t => .ok (s == t)
  | moment a, moment b => .ok (a == b)
  | day a, day b => .ok (a.date == b.date)
  | options a, options b => .ok (a.same b)
  | a, b =>
    match a.number?, b.number? with
    | some x, some y => (x.equals y).mapError ArgumentFault.number
    | _, _ =>
      match a.stamp?, b.stamp? with
      | some s, some t => do return (← s).same (← t)
      | _, _ => .ok false

/-- Whether a value can be a key: no decimal that signals is one, and no date-time whose zone gives
no offset. -/
def checkKey : Atom → Except ArgumentFault Unit
  | number x => if x.isSignaling then .error .signalingKey else .ok ()
  | zoned z => z.stamp.map fun _ => ()
  | _ => .ok ()

end Atom

end DatePattern
