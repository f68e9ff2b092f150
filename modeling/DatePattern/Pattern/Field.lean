import DatePattern.Localizer.Call
import DatePattern.Moment.Calendar

/-! The fields of a date pattern, and what each asks for of a moment. -/
namespace DatePattern

/-- A part of a moment that a pattern letter shows. -/
inductive Field
  | era
  | year
  | weekYear
  | signedYear
  | quarter (context : NameContext)
  | month (context : NameContext)
  | week
  | dayOfMonth
  | dayOfYear
  | weekday (context : NameContext)
  | halfDay
  | hourTo12
  | hourTo23
  | hourTo11
  | hourTo24
  | minute
  | second
  | fraction
  | offset (zulu : Bool)
  | secondStamp
  | millisecondStamp
deriving DecidableEq, Repr

namespace Field

/-- The field of each letter that has one. -/
def letters : List (Char × Field) :=
  [('G', era), ('y', year), ('Y', weekYear), ('u', signedYear), ('Q', quarter .formatting),
    ('q', quarter .standalone), ('M', month .formatting), ('L', month .standalone), ('w', week),
    ('d', dayOfMonth), ('D', dayOfYear), ('E', weekday .formatting), ('e', weekday .formatting),
    ('c', weekday .standalone), ('a', halfDay), ('h', hourTo12), ('H', hourTo23),
    ('K', hourTo11), ('k', hourTo24), ('m', minute), ('s', second), ('S', fraction),
    ('X', offset true), ('x', offset false), ('t', secondStamp), ('T', millisecondStamp)]

def ofLetter? (letter : Char) : Option Field := letters.lookup letter

/-- The letters that have a standard meaning but no field here. -/
def reservedLetters : List Char :=
  ['A', 'B', 'C', 'F', 'J', 'O', 'U', 'V', 'W', 'Z', 'b', 'g', 'j', 'l', 'r', 'v', 'z']

/-- The letter that asks for an ordinal number. -/
def ordinalLetter : Char := 'o'

end Field

/-- What a field comes to: a text, or a call to the localizer. A minus sign goes before the answer
where the call shows the sign of a value below zero. -/
inductive Request
  | text (s : String)
  | call (signOf : Option Argument) (c : Call)
deriving DecidableEq

namespace Request

/-- A call whose answer is shown as it is. -/
def plain (c : Call) : Request := .call none c

/-- A number without its sign, padded to a length. -/
def number (n length : Int) (o : Options) (unit : Option CountedUnit) : Request :=
  .plain (.number (.int n.natAbs) length o.ordinal unit)

def signedNumber (n length : Int) (o : Options) (unit : Option CountedUnit) : Request :=
  .call (some (.int n)) (.number (.int n.natAbs) length o.ordinal unit)

/-- A positive year. Two letters ask for its last two digits, any other number for all. -/
def year (n length : Int) (o : Options) : Request :=
  if length = 2 then number (n % 100) 2 o (some .year) else number n length o (some .year)

end Request

/-- The number of a year within its era: year 0 is the first before the era, -1 the second. -/
def yearOfEra (year : Int) : Int := if 0 < year then year else 1 - year

/-- The width of a month's name: three letters abbreviate, five are narrow. -/
def monthWidth (length : Int) : Width :=
  if length = 3 then .abbreviated else if length = 5 then .narrow else .wide

/-- The width of a quarter's name: three letters abbreviate. -/
def quarterWidth (length : Int) : Width := if length = 3 then .abbreviated else .wide

/-- The width of a weekday's name: up to three letters abbreviate, five are narrow, six short. -/
def weekdayWidth (length : Int) : Width :=
  if length = 1 ∨ length = 2 ∨ length = 3 then .abbreviated
  else if length = 5 then .narrow
  else if length = 6 then .short
  else .wide

/-- The width of an era's name: up to three letters abbreviate, five are narrow. -/
def eraWidth (length : Int) : Width :=
  if length ≤ 3 then .abbreviated else if length = 5 then .narrow else .wide

/-- The leading digits of a fraction of a second that is given in milliseconds. Digits past the
third are zeros. -/
def fractionDigits (ms length : Int) : Int :=
  if length ≤ 3 then ms / tenTo (3 - length).toNat else ms * tenTo (length - 3).toNat

def offsetSign (minutes : Int) : String := if 0 ≤ minutes then "+" else "-"

/-- An offset in hours and minutes of two digits, with a text between them. -/
def hoursAndMinutes (minutes : Int) (between : String) : Except Fault String :=
  match paddedNumeral? (minutes.natAbs / 60) 2, paddedNumeral? (minutes.natAbs % 60) 2 with
  | some hours, some rest => .ok (offsetSign minutes ++ hours ++ between ++ rest)
  | _, _ => .error (.argument .numeralTooLong)

/-- An offset in minutes: whole hours alone where one letter asks for it, with a colon where three
letters or more than four do. -/
def offsetRequest (zulu : Bool) (length minutes : Int) : Except Fault String :=
  if zulu ∧ minutes = 0 then .ok "Z"
  else if length = 1 then
    if minutes % 60 = 0 then
      match paddedNumeral? (minutes.natAbs / 60) 2 with
      | some hours => .ok (offsetSign minutes ++ hours)
      | none => .error (.argument .numeralTooLong)
    else hoursAndMinutes minutes ""
  else if length = 2 ∨ length = 4 then hoursAndMinutes minutes ""
  else hoursAndMinutes minutes ":"

/-- The milliseconds of the instant, which an invalid moment does not have. -/
def Moment.epochMs (m : Moment) : Except Fault Int :=
  match m.instant with
  | some ms => .ok ms
  | none => .error (.argument (.number .noInteger))

/-- What fields ask for, each at a length of its run and with options. -/
abbrev Reading : Type := Field → Int → Options → Except Fault Request

/-- What a field asks for of a moment, at a length of its run. -/
def Field.request (f : Field) (length : Int) (m : Moment) (o : Options) : Except Fault Request :=
  match f with
  | era => .ok (.plain (.era (.int (if 0 < m.wall.year then 1 else -1)) (eraWidth length)))
  | year => .ok (.year (yearOfEra m.wall.year) length o)
  | weekYear => do
    let year ← m.weekYear o.weekRule
    return .year (yearOfEra year) length o
  | signedYear => .ok (.signedNumber m.wall.year length o (some .year))
  | quarter context =>
    let quarter := m.wall.month / 3 + 1
    if length ≤ 2 then .ok (.number quarter length o (some .quarter))
    else .ok (.plain (.quarter (.int quarter) (quarterWidth length) context))
  | month context =>
    if length ≤ 2 then .ok (.number (m.wall.month + 1) length o (some .month))
    else .ok (.plain (.month (.int m.wall.month) (monthWidth length) context))
  | week => do
    let week ← m.week o.weekRule
    return .number week length o (some .week)
  | dayOfMonth => .ok (.number m.wall.day length o (some .date))
  | dayOfYear => do
    let day ← m.dayOfYear
    return .number day length o (some .dayOfYear)
  | weekday context => .ok (.plain (.weekday (.int m.weekday) (weekdayWidth length) context))
  | halfDay => .ok (.plain (.timeOfDay (.int m.wall.hour) .narrow))
  | hourTo12 =>
    .ok (.number (if m.wall.hour % 12 = 0 then 12 else m.wall.hour % 12) length o (some .hour))
  | hourTo23 => .ok (.number m.wall.hour length o (some .hour))
  | hourTo11 => .ok (.number (m.wall.hour % 12) length o (some .hour))
  | hourTo24 => .ok (.number (if m.wall.hour = 0 then 24 else m.wall.hour) length o (some .hour))
  | minute => .ok (.number m.wall.minute length o (some .minute))
  | second => .ok (.number m.wall.second length o (some .second))
  | fraction => .ok (.number (fractionDigits m.wall.millisecond length) length o none)
  | offset zulu => do
    let text ← offsetRequest zulu length m.offset
    return .text text
  | secondStamp => do
    let ms ← m.epochMs
    return .number (ms / 1000) length o (some .timestamp)
  | millisecondStamp => do
    let ms ← m.epochMs
    return .number ms length o (some .timestamp)

def Moment.reading (m : Moment) : Reading := fun f length o => f.request length m o

end DatePattern
