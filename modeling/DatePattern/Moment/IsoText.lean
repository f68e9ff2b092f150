import DatePattern.Calendar.Week
import DatePattern.Moment.Stamp

/-! Reading date-times in ISO 8601 form. The reader works on the bytes of a text; behind the last
byte it sees zeros. -/
namespace DatePattern

namespace IsoText

/-- The bytes of a text in UTF-8. -/
def bytesOf (cs : List Char) : List UInt8 := cs.flatMap String.utf8EncodeChar

/-- The next byte, or zero at the end. -/
def peek (bs : List UInt8) : UInt8 := bs.headD 0

/-- The byte is a decimal digit of ASCII. -/
def isDigitByte (b : UInt8) : Bool := 48 ≤ b.toNat && b.toNat ≤ 57

/-- The number of exactly `k` digits, and the bytes behind them. -/
def digits : Nat → List UInt8 → Option (Nat × List UInt8)
  | 0, bs => some (0, bs)
  | _ + 1, [] => none
  | k + 1, b :: bs =>
    if isDigitByte b then
      (digits k bs).map fun (n, rest) => ((b.toNat - 48) * tenTo k + n, rest)
    else none

/-- The bytes behind a given one, if that is the next. -/
def skip? (b : UInt8) : List UInt8 → Option (List UInt8)
  | [] => none
  | c :: bs => if c = b then some bs else none

/-- The byte is a hyphen, the letter that marks weeks, a colon, or a mark before a fraction. -/
def isHyphen (b : UInt8) : Bool := b == 45

@[inherit_doc isHyphen]
def isWeekMark (b : UInt8) : Bool := b == 87

@[inherit_doc isHyphen]
def isColon (b : UInt8) : Bool := b == 58

@[inherit_doc isHyphen]
def isFractionMark (b : UInt8) : Bool := b == 46 || b == 44

/-- The byte begins an offset. -/
def isZoneMark (b : UInt8) : Bool := b == 43 || b == 45 || b == 90

/-- The number of bytes before the separator of date and time. It is found by the form of the date,
from its hyphens and its week mark. Seven bytes are a date alone. -/
def dateLength (bs : List UInt8) : Option Nat :=
  let n := bs.length
  let byteAt (i : Nat) : UInt8 := bs.getD i 0
  if n < 7 then none
  else if n = 7 then some 7
  else if isHyphen (byteAt 4) then
    if isWeekMark (byteAt 5) then
      if 8 < n && isHyphen (byteAt 8) then
        if n = 9 then none
        else if 10 < n && isDigitByte (byteAt 10) then some 8
        else some 10
      else some 8
    else some 10
  else if isWeekMark (byteAt 4) then
    let i := 7 + ((bs.drop 7).takeWhile isDigitByte).length
    if i < 9 then some i
    else if i % 2 = 0 then some 7
    else some 8
  else some 8

/-- The day of a week date, if its year has such a week and the day lies in the years 1 to
9999. -/
def ofWeekDate (year week day : Int) : Option CivilDate :=
  let first := WeekRule.iso.yearStart year
  let weeks := (WeekRule.iso.yearStart (year + 1) - first) / 7
  let date := CivilDate.ofDayCount (first + (week - 1) * 7 + day - 1)
  if 1 ≤ year ∧ year ≤ 9999 ∧ 1 ≤ week ∧ week ≤ weeks ∧ 1 ≤ day ∧ day ≤ 7 ∧
      date.HasFourDigitYear then some date
  else none

/-- The date of a text, of which `length` bytes come before the separator. A week date without a
day begins its week, and may be longer than that. -/
def readDate (bs : List UInt8) (length : Nat) : Option CivilDate := do
  let (year, rest) ← digits 4 bs
  let dashed := isHyphen (peek rest)
  let rest := if dashed then rest.drop 1 else rest
  if isWeekMark (peek rest) then
    let (week, rest) ← digits 2 (rest.drop 1)
    if bs.length - rest.length < length then
      let rest ← if dashed then skip? 45 rest else some rest
      let (day, _) ← digits 1 rest
      ofWeekDate year week day
    else ofWeekDate year week 1
  else
    let (month, rest) ← digits 2 rest
    let rest ← if dashed then skip? 45 rest else some rest
    let (day, rest) ← digits 2 rest
    if bs.length - rest.length = length then some ⟨year, month, day⟩ else none

/-- The bytes behind one character. -/
def dropChar (bs : List UInt8) : List UInt8 :=
  let lead := (peek bs).toNat
  bs.drop (if lead < 0x80 then 1 else if lead / 16 = 0xe then 3 else if lead / 16 = 0xf then 4 else 2)

/-- What follows a part of a time within the bytes left for it: nothing more of it, which may be
the end of the text or not, or another part, or a fraction. -/
inductive Continuation
  | ended (more : Bool)
  | another (rest : List UInt8) (left : Nat)
  | fraction (rest : List UInt8) (left : Nat)

/-- What follows a part of a time. Parts are divided by colons or by nothing. -/
def continuation (colons : Bool) (rest : List UInt8) (left : Nat) : Option Continuation :=
  let b := peek rest
  if left ≤ 1 then some (.ended (b != 0))
  else if colons && isColon b then some (.another (rest.drop 1) (left - 1))
  else if isFractionMark b then some (.fraction (rest.drop 1) (left - 1))
  else if colons then none
  else some (.another rest left)

/-- A time with the digits of a fraction of its second, of which six count. -/
def readFraction (hour minute second : Nat) (rest : List UInt8) (left : Nat) :
    Option (ClockTime × Bool) := do
  let k := min 6 left
  let (n, rest) ← digits k rest
  let rest := rest.dropWhile isDigitByte
  return (⟨hour, minute, second, (n * tenTo (6 - k) : Nat)⟩, peek rest != 0)

/-- A time in the next `left` bytes, and whether the text goes on behind it. A fraction belongs to
the second even where minute or second are missing. -/
def readClock (rest : List UInt8) (left : Nat) : Option (ClockTime × Bool) := do
  let (hour, rest) ← digits 2 rest
  let colons := isColon (peek rest)
  match ← continuation colons rest (left - 2) with
  | .ended more => return (⟨hour, 0, 0, 0⟩, more)
  | .fraction rest left => readFraction hour 0 0 rest left
  | .another rest left =>
    let (minute, rest) ← digits 2 rest
    match ← continuation colons rest (left - 2) with
    | .ended more => return (⟨hour, minute, 0, 0⟩, more)
    | .fraction rest left => readFraction hour minute 0 rest left
    | .another rest left =>
      let (second, rest) ← digits 2 rest
      match ← continuation colons rest (left - 2) with
      | .ended more => return (⟨hour, minute, second, 0⟩, more)
      | .fraction rest left => readFraction hour minute second rest left
      | .another rest left => readFraction hour minute second rest left

/-- The size of an offset, read like a time whose parts may have any two digits. One without whole
seconds counts as zero. -/
def offsetSize (t : ClockTime) : Int :=
  let seconds := t.hour * 3600 + t.minute * 60 + t.second
  if seconds = 0 then 0 else seconds * usPerSecond + t.microsecond

/-- The time of a text, with its offset. A letter marks universal time and ends the text. -/
def readTime (bs : List UInt8) : Option (ClockTime × Option Int) := do
  let body := bs.takeWhile fun b => !isZoneMark b
  let (time, more) ← readClock bs body.length
  match bs.drop body.length with
  | [] => if more then none else return (time, none)
  | mark :: rest =>
    if mark = 90 then if peek rest = 0 then return (time, some 0) else none
    else
      let (size, more) ← readClock rest rest.length
      if more then none
      else return (time, some (if mark = 45 then -offsetSize size else offsetSize size))

/-- The date-time of a text. Without a time it is midnight. -/
def read? (cs : List Char) : Option Stamp := do
  let bs := bytesOf cs
  let length ← dateLength bs
  let date ← readDate bs length
  let (time, offset) ← if bs.length ≤ length then some (⟨0, 0, 0, 0⟩, none)
    else readTime (dropChar (bs.drop length))
  (Stamp.make date time offset).toOption

end IsoText

end DatePattern
