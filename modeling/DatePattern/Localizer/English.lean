import DatePattern.Argument.Item
import DatePattern.Localizer.Call

/-! A localizer with fixed English names. -/
namespace DatePattern

namespace English

/-- Eras, the earlier first. -/
def eras : Width → Option (List String)
  | .narrow => some ["B", "A"]
  | .short => none
  | .abbreviated => some ["BC", "AD"]
  | .wide => some ["Before Christ", "Anno Domini"]

def quarters : Width → Option (List String)
  | .narrow => none
  | .short => none
  | .abbreviated => some ["Q1", "Q2", "Q3", "Q4"]
  | .wide => some ["1st quarter", "2nd quarter", "3rd quarter", "4th quarter"]

def months : Width → Option (List String)
  | .narrow => some ["J", "F", "M", "A", "M", "J", "J", "A", "S", "O", "N", "D"]
  | .short => none
  | .abbreviated =>
    some ["Jan", "Feb", "Mar", "Apr", "May", "Jun", "Jul", "Aug", "Sep", "Oct", "Nov", "Dec"]
  | .wide =>
    some ["January", "February", "March", "April", "May", "June", "July", "August", "September",
      "October", "November", "December"]

/-- Weekdays from Sunday. -/
def weekdays : Width → Option (List String)
  | .narrow => some ["S", "M", "T", "W", "T", "F", "S"]
  | .short => some ["Su", "Mo", "Tu", "We", "Th", "Fr", "Sa"]
  | .abbreviated => some ["Sun", "Mon", "Tue", "Wed", "Thu", "Fri", "Sat"]
  | .wide =>
    some ["Sunday", "Monday", "Tuesday", "Wednesday", "Thursday", "Friday", "Saturday"]

/-- The ordinal suffix of an integer. The last two digits decide, floored below zero. -/
def suffix (n : Int) : String :=
  if n % 100 = 11 ∨ n % 100 = 12 ∨ n % 100 = 13 then "th"
  else if n % 10 = 1 then "st"
  else if n % 10 = 2 then "nd"
  else if n % 10 = 3 then "rd"
  else "th"

def suffixOf (x : Argument) : Except ArgumentFault String := do
  let hundreds ← x.mod 100
  if (← hundreds.equalsInt 11) || (← hundreds.equalsInt 12) || (← hundreds.equalsInt 13) then
    return "th"
  let tens ← x.mod 10
  if ← tens.equalsInt 1 then return "st"
  if ← tens.equalsInt 2 then return "nd"
  if ← tens.equalsInt 3 then return "rd"
  return "th"

theorem suffixOf_int (n : Int) : suffixOf (.int n) = .ok (suffix n) := by
  simp only [suffixOf, suffix, Argument.mod_int, Argument.ok_bind, Argument.equalsInt_int,
    Bool.or_eq_true, beq_iff_eq, or_assoc, apply_ite Except.ok]
  rfl

/-- A width as a key that is missing. -/
def widthFault (width : Width) : ArgumentFault :=
  let shown :=
    match width with
    | .narrow => "NARROW"
    | .short => "SHORT"
    | .abbreviated => "ABBREVIATED"
    | .wide => "WIDE"
  .missingKey ("<Width." ++ shown ++ ": '" ++ width.name ++ "'>")

/-- The name at an index in the list of a width. The width is looked up first. Negative indices
count from the end. -/
def nameOf (table : Width → Option (List String)) (width : Width) (index : Computed) :
    Except ArgumentFault String :=
  match table width with
  | some names => do (← index).itemOf names
  | none => .error (widthFault width)

/-- A number in decimal, with its suffix where an ordinal is asked for. -/
def number (value : Argument) (leadingZeros : Int) (ordinal : Bool) :
    Except ArgumentFault String := do
  let digits ← value.paddedText leadingZeros
  if ordinal then return digits ++ (← suffixOf value) else return digits

def answer : Call → Except ArgumentFault String
  | .era era width => nameOf eras width (Call.eraPlace era)
  | .quarter quarter width _ => nameOf quarters width (quarter.sub 1)
  | .month month width _ => nameOf months width (.ok month)
  | .weekday weekday width _ => nameOf weekdays width (.ok weekday)
  | .timeOfDay hour _ => do if ← hour.compares .below 12 then return "AM" else return "PM"
  | .number value leadingZeros ordinal _ => number value leadingZeros ordinal

end English

def Localizer.english : Localizer := .ofFunction fun call => .plain (English.answer call)

end DatePattern
