import DatePattern.Numeral.ScaledDecimal
import DatePattern.Numeral.Shortest

/-! Numbers of the four kinds a caller may pass, compared by value. -/
namespace DatePattern

/-- A number: an integer of any size, a double, an exact fraction or a decimal. -/
inductive Number
  | integer (n : Int)
  | binary (x : Binary64)
  | ratio (q : Rat)
  | decimal (d : ScaledDecimal)
deriving DecidableEq

namespace Number

/-- Equality with an integer by value, whatever the kind. -/
def equalsInt (x : Number) (n : Int) : Bool :=
  match x with
  | integer m => m == n
  | binary b => b.isIntegral && b.truncate == n
  | ratio q => q.den == 1 && q.num == n
  | decimal d => d.orderRatio n 1 == some .eq

/-- The sign of a number that is no finite one. -/
def infinity? : Number → Option Bool
  | binary (.infinite negative) => some negative
  | decimal (.infinite negative) => some negative
  | _ => none

def isNaN : Number → Bool
  | binary .nan => true
  | decimal d => d.isNaN
  | _ => false

def isSignaling : Number → Bool
  | decimal d => d.isSignaling
  | _ => false

/-- The exact value of a finite number that is no decimal. -/
def fraction : Number → Rat
  | integer n => n
  | binary x => x.toRat?.getD 0
  | ratio q => q
  | decimal _ => 0

/-- The order of two numbers by value. What is no number has no place in it. -/
def order (x y : Number) : Option Ordering :=
  if x.isNaN || y.isNaN then none
  else
    match x.infinity?, y.infinity? with
    | some s, some t => some (compare t s)
    | some s, none => some (if s then .lt else .gt)
    | none, some t => some (if t then .gt else .lt)
    | none, none =>
      match x, y with
      | integer m, integer n => some (compare m n)
      | decimal a, decimal b => a.order b
      | decimal a, y => a.orderRatio y.fraction.num y.fraction.den
      | x, decimal b => (b.orderRatio x.fraction.num x.fraction.den).map Ordering.swap
      | x, y => some (compareOfLessAndEq x.fraction y.fraction)

/-- Equality of two numbers by value. What is no number equals nothing. -/
def sameValue (x y : Number) : Bool := x.order y == some .eq

def kindName : Number → String
  | integer _ => "int"
  | binary _ => "float"
  | ratio _ => "Fraction"
  | decimal _ => "Decimal"

def literal? : Number → Option String
  | integer n => numeral? n
  | binary x => some x.text
  | ratio q => do
    let num ← numeral? q.num
    let den ← numeral? q.den
    return "Fraction(" ++ num ++ ", " ++ den ++ ")"
  | decimal d => some ("Decimal('" ++ d.text ++ "')")

def display? : Number → Option String
  | ratio q => do
    let num ← numeral? q.num
    if q.den = 1 then return num
    let den ← numeral? q.den
    return num ++ "/" ++ den
  | decimal d => some d.text
  | x => x.literal?

end Number

end DatePattern
