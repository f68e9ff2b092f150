import DatePattern.Numeral.Decimal
import DatePattern.Numeral.Power

/-! Decimal numbers that keep their trailing zeros. -/
namespace DatePattern

/-- A decimal number as it was written: a coefficient and a power of ten, or one of the special
values. What is no number may carry a number of its own, and may signal, which makes an operation
on it fail. -/
inductive ScaledDecimal
  | nan (negative signaling : Bool) (payload : Nat)
  | infinite (negative : Bool)
  | finite (negative : Bool) (coefficient : Nat) (exponent : Int)
deriving DecidableEq, Repr

namespace ScaledDecimal

def ofInt (n : Int) : ScaledDecimal := finite (decide (n < 0)) n.natAbs 0

def isNaN : ScaledDecimal → Bool
  | nan _ _ _ => true
  | _ => false

def isSignaling : ScaledDecimal → Bool
  | nan _ signaling _ => signaling
  | _ => false

/-- The order of `c * 10 ^ e` and `num / den`, of which none is zero. A power of ten is raised only
where the number of digits leaves the order open. -/
def compareMagnitude (c : Nat) (e : Int) (num den : Nat) : Ordering :=
  if 0 ≤ e then
    if (num.log2 : Int) < e then .gt else compare (c * den * tenTo e.toNat) num
  else if ((c * den).log2 : Int) < -e then .lt
  else compare (c * den) (num * tenTo (-e).toNat)

def orderFinite (negative : Bool) (c : Nat) (e : Int) (num : Int) (den : Nat) : Ordering :=
  if c = 0 then compare 0 num
  else if negative then
    if 0 ≤ num then .lt else (compareMagnitude c e num.natAbs den).swap
  else if num ≤ 0 then .gt
  else compareMagnitude c e num.natAbs den

def orderBoth (negative : Bool) (c : Nat) (e : Int) (other : Bool) (k : Nat) (f : Int) : Ordering :=
  orderFinite negative c (e - f) (signed other k) 1

/-- The order of a decimal and a fraction, unless the decimal is no number. -/
def orderRatio (d : ScaledDecimal) (num : Int) (den : Nat) : Option Ordering :=
  match d with
  | nan _ _ _ => none
  | infinite negative => some (if negative then .lt else .gt)
  | finite negative c e => some (orderFinite negative c e num den)

/-- The order of two decimals, unless one of them is no number. -/
def order (a b : ScaledDecimal) : Option Ordering :=
  match a, b with
  | nan _ _ _, _ => none
  | _, nan _ _ _ => none
  | infinite s, infinite t => some (compare t s)
  | infinite s, _ => some (if s then .lt else .gt)
  | _, infinite t => some (if t then .gt else .lt)
  | finite s c e, finite t k f => some (orderBoth s c e t k f)

def truncate (negative : Bool) (c : Nat) (e : Int) : Int :=
  if 0 ≤ e then signed negative (c * tenTo e.toNat)
  else if (c.log2 : Int) < -e then 0
  else signed negative (c / tenTo (-e).toNat)

/-- The written form: positional when the exponent is not positive and the leading digit stands at
most six places behind the point, else scientific with a signed exponent. -/
def text : ScaledDecimal → String
  | nan negative signaling payload =>
    (if negative then "-" else "") ++ (if signaling then "sNaN" else "NaN") ++
      (if payload = 0 then "" else toString payload)
  | infinite negative => if negative then "-Infinity" else "Infinity"
  | finite negative c e =>
    let digits := Nat.toDigits 10 c
    let point : Int := digits.length + e
    let place : Int := if e ≤ 0 ∧ -6 < point then point else 1
    let body :=
      if place ≤ 0 then '0' :: '.' :: (List.replicate (-place).toNat '0' ++ digits)
      else if digits.length ≤ place then
        digits ++ List.replicate (place.toNat - digits.length) '0'
      else digits.take place.toNat ++ '.' :: digits.drop place.toNat
    let power := point - place
    let tail :=
      if power = 0 then []
      else 'E' :: (if power < 0 then '-' else '+') :: Nat.toDigits 10 power.natAbs
    String.ofList ((if negative then ['-'] else []) ++ body ++ tail)

end ScaledDecimal

end DatePattern
