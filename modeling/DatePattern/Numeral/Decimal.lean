/-! Decimal numerals: digits, padding with zeros, and the bound on the length of a numeral. -/
namespace DatePattern

/-- The most digits a number may have when it is written or read in decimal. -/
def digitLimit : Nat := 4300

/-- What is said of an integer that has more digits than may be written. -/
def digitLimitMessage : String :=
  "Exceeds the limit (4300 digits) for integer string conversion; " ++
    "use sys.set_int_max_str_digits() to increase the limit"

/-- Zeros on the left up to a width. A longer text is kept whole. -/
def padZeros (width : Int) (digits : List Char) : List Char :=
  List.replicate (width.toNat - digits.length) '0' ++ digits

/-- The digits of a number, unless they pass the limit. -/
def digits? (n : Nat) : Option (List Char) :=
  let digits := Nat.toDigits 10 n
  if digits.length ≤ digitLimit then some digits else none

def splitSign : List Char → Bool × List Char
  | '-' :: cs => (true, cs)
  | '+' :: cs => (false, cs)
  | cs => (false, cs)

def signed (negative : Bool) (n : Nat) : Int := if negative then -(n : Int) else n

/-- The integer that digits of ASCII write, behind at most a sign. -/
def integer? (cs : List Char) : Option Int :=
  let (negative, digits) := splitSign cs
  if digits.isEmpty || !digits.all Char.isDigit then none
  else some (signed negative (Nat.ofDigitChars 10 digits 0))

def numeral? (n : Int) : Option String :=
  (digits? n.natAbs).map fun digits =>
    String.ofList (if n < 0 then '-' :: digits else digits)

theorem numeral?_natCast (n : Nat) : numeral? n = (digits? n).map String.ofList := rfl

/-- The magnitude of an integer, padded with zeros to a width. The limit is on the digits of the
magnitude, not on the zeros. -/
def paddedNumeral? (n : Int) (width : Int) : Option String :=
  (digits? n.natAbs).map fun digits => String.ofList (padZeros width digits)

end DatePattern
