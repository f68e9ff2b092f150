import DatePattern.Numeral.Arithmetic
import DatePattern.Text.Blank
import DatePattern.Text.Digit
import DatePattern.Text.Quoted

/-! Reading numbers: integers, doubles and decimals, in the digits of any script. -/
namespace DatePattern

inductive NotationFault
  | integerTooLong (digits : Nat)
  | noInteger (literal : String)
  | noDouble (literal : String)
  | noDecimal (f : DecimalFault)
deriving DecidableEq, Repr

def NotationFault.message : NotationFault → String
  | integerTooLong digits =>
    "Exceeds the limit (4300 digits) for integer string conversion: value has " ++
      toString digits ++ " digits; use sys.set_int_max_str_digits() to increase the limit"
  | noInteger literal => "invalid literal for int() with base 10: " ++ literal
  | noDouble literal => "could not convert string to float: " ++ literal
  | noDecimal f => f.message

/-- Underscores stand between digits only, and alone. -/
def wellDivided : List Char → Bool
  | [] => true
  | '_' :: _ => false
  | [_] => true
  | [_, '_'] => false
  | _ :: '_' :: rest => wellDivided rest
  | _ :: rest => wellDivided rest

/-- The integer that a text writes, between blanks and behind at most a sign. Too many digits are
refused even where no numeral follows; the literal of another text is cut. -/
def readInteger (s : String) : Except NotationFault Int :=
  let (negative, cs) := splitSign (trimBlanks s.toList)
  let isPart (c : Char) : Bool := c == '_' || (digitValue? c).isSome
  let body := cs.takeWhile isPart
  let digits := body.filterMap digitValue?
  let malformed := Except.error (.noInteger (String.ofList ((quoteText s).toList.take 200)))
  if wellDivided body = false then malformed
  else if digitLimit < digits.length then .error (.integerTooLong digits.length)
  else if digits.isEmpty || body.length < cs.length then malformed
  else .ok (signed negative (digits.foldl (fun n d => n * 10 + d) 0))

/-- A text with the digits of every script in ASCII. -/
def asciiDigits (cs : List Char) : List Char :=
  cs.map fun c => ((digitValue? c).map Nat.digitChar).getD c

/-- The power of ten behind the digits: nothing, or a letter E and an integer. -/
def exponent? : List Char → Option Int
  | [] => some 0
  | c :: cs => if c = 'e' ∨ c = 'E' then integer? cs else none

/-- The coefficient and the exponent of a number without sign, with a point and a power of ten. -/
def scientific? (cs : List Char) : Option (Nat × Int) :=
  let whole := cs.takeWhile Char.isDigit
  let behind := cs.dropWhile Char.isDigit
  let places := if behind.head? = some '.' then (behind.drop 1).takeWhile Char.isDigit else []
  let tail := if behind.head? = some '.' then (behind.drop 1).dropWhile Char.isDigit else behind
  if whole.isEmpty && places.isEmpty then none
  else
    (exponent? tail).map fun e => (Nat.ofDigitChars 10 (whole ++ places) 0, e - places.length)

def smallLetters (cs : List Char) : String := String.ofList (cs.map Char.toLower)

def isInfinity (cs : List Char) : Bool := ["inf", "infinity"].contains (smallLetters cs)

/-- The text without underscores, unless one does not stand between two digits. -/
def withoutDividers? (cs : List Char) : Option (List Char) :=
  go false cs
where
  /-- Reads on behind a digit or behind something else. -/
  go (digit : Bool) : List Char → Option (List Char)
    | [] => some []
    | '_' :: c :: rest => if digit && c.isDigit then (go true rest).map (c :: ·) else none
    | c :: rest => if c = '_' then none else (go c.isDigit rest).map (c :: ·)

def readDouble (s : String) : Except NotationFault Binary64 :=
  let value := do
    let (negative, cs) := splitSign (← withoutDividers? (asciiDigits (trimBlanks s.toList)))
    if isInfinity cs then return Binary64.infinite negative
    if smallLetters cs = "nan" then return Binary64.nan
    let (c, e) ← scientific? cs
    return .ofDecimal negative c e
  match value with
  | some x => .ok x
  | none => .error (.noDouble (quoteText s))

/-- The value that is no number and that a text names, with digits behind the name. -/
def namedNaN? (negative : Bool) (cs : List Char) : Option ScaledDecimal :=
  let signaling := smallLetters (cs.take 1) == "s"
  let name := if signaling then cs.drop 1 else cs
  let digits := name.drop 3
  if smallLetters (name.take 3) = "nan" ∧ digits.all Char.isDigit then
    some (.nan negative signaling (Nat.ofDigitChars 10 digits 0))
  else none

/-- The exponents of a decimal are so large that only a text could pass their bounds. -/
def ScaledDecimal.fits (c : Nat) (e : Int) : Bool :=
  decide (-1999999999999999997 ≤ e) &&
    decide ((if c = 0 then e else leading c e) ≤ 999999999999999999)

/-- The decimal that a text writes, between blanks and with underscores anywhere. -/
def readDecimal (s : String) : Except NotationFault ScaledDecimal :=
  let (negative, cs) :=
    splitSign ((asciiDigits (trimBlanks s.toList)).filter fun c => c != '_')
  if isInfinity cs then .ok (.infinite negative)
  else
    match namedNaN? negative cs, scientific? cs with
    | some d, _ => .ok d
    | none, some (c, e) =>
      if ScaledDecimal.fits c e then .ok (.finite negative c e)
      else .error (.noDecimal .invalid)
    | none, none => .error (.noDecimal .malformed)

end DatePattern
