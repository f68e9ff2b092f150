import DatePattern.Numeral.Decimal
import DatePattern.Numeral.Power
import DatePattern.Numeral.Rounding

/-! Double-precision numbers as exact values, and rounding to the nearest of them. -/
namespace DatePattern

/-- A double-precision number. The finite ones are `significand * 2 ^ exponent` with a sign, so
that zero has two forms. -/
inductive Binary64
  | nan
  | infinite (negative : Bool)
  | finite (negative : Bool) (significand : Nat) (exponent : Int)
deriving DecidableEq, Repr

namespace Binary64

def isFinite : Binary64 → Bool
  | finite _ _ _ => true
  | _ => false

/-- The magnitude `significand * 2 ^ exponent` as a numerator over a denominator. -/
def magnitude (significand : Nat) (exponent : Int) : Nat × Nat :=
  if 0 ≤ exponent then (significand * twoTo exponent.toNat, 1)
  else (significand, twoTo (-exponent).toNat)

/-- The integer part, with the fraction dropped; zero for what is not finite. -/
def truncate : Binary64 → Int
  | finite negative m e =>
    let (num, den) := magnitude m e
    signed negative (num / den)
  | _ => 0

def isIntegral : Binary64 → Bool
  | finite _ m e => let (num, den) := magnitude m e; num % den == 0
  | _ => false

def toRat? : Binary64 → Option Rat
  | finite negative m e =>
    let (num, den) := magnitude m e
    some (mkRat (signed negative num) den)
  | _ => none

/-- The double nearest to `num / den`: 53 significant bits, none below the exponent -1074, a half
to the even neighbour, and an infinity from the upper end of the range on. -/
def ofRatio (negative : Bool) (num den : Nat) : Binary64 :=
  if num = 0 then finite negative 0 0
  else
    let scale (e : Int) : Nat × Nat :=
      if 0 ≤ e then (num, den * twoTo e.toNat) else (num * twoTo (-e).toNat, den)
    let guess : Int := (num.log2 : Int) - den.log2 - 52
    let (n, d) := scale guess
    let e := max (if n / d < twoTo 52 then guess - 1 else guess) (-1074)
    let (n, d) := scale e
    let m := roundHalfEven n d
    let (m, e) := if m = twoTo 53 then (twoTo 52, e + 1) else (m, e)
    if 971 < e then infinite negative else finite negative m e

/-- The double nearest to `coefficient * 10 ^ exponent`. Exponents so large or so small that the
answer cannot depend on them are not raised to. -/
def ofDecimal (negative : Bool) (coefficient : Nat) (exponent : Int) : Binary64 :=
  if coefficient = 0 then finite negative 0 0
  else if 400 < exponent then infinite negative
  else if 0 ≤ exponent then ofRatio negative (coefficient * tenTo exponent.toNat) 1
  else
    let places := (-exponent).toNat
    if coefficient.log2 + 1100 < 3 * places then finite negative 0 0
    else ofRatio negative coefficient (tenTo places)

def ofRat (q : Rat) : Binary64 :=
  ofRatio (decide (q.num < 0)) q.num.natAbs q.den

/-- The least magnitude that rounds past the largest finite double. -/
def overflowBound : Nat := twoTo 1024 - twoTo 970

/-- Whether an integer has a finite double next to it. -/
def holdsInt (n : Int) : Bool := n.natAbs < overflowBound

end Binary64

end DatePattern
