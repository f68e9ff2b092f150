import DatePattern.Numeral.Rounding
import DatePattern.Numeral.ScaledDecimal

/-! Arithmetic of decimals. A result has at most twenty-eight digits, of which the last is rounded,
and an exponent within bounds; a result without value, and one beyond the bounds, is a fault. -/
namespace DatePattern

/-- Why an operation on decimals, or the reading of one, has no result. -/
inductive DecimalFault
  | malformed
  | invalid
  | quotientTooLong
  | overflow
deriving DecidableEq, Repr

def DecimalFault.message : DecimalFault → String
  | malformed => "[<class 'decimal.ConversionSyntax'>]"
  | invalid => "[<class 'decimal.InvalidOperation'>]"
  | quotientTooLong => "[<class 'decimal.DivisionImpossible'>]"
  | overflow => "[<class 'decimal.Overflow'>]"

namespace ScaledDecimal

/-- The most digits of a result. -/
def precision : Nat := 28

/-- The greatest power of ten that a leading digit may stand for. -/
def maxExponent : Int := 999999

/-- The least exponent of a result. -/
def minExponent : Int := -1000026

/-- The number of decimal digits of a coefficient; zero has one. -/
def digitCount (c : Nat) : Nat := (Nat.toDigits 10 c).length

/-- The power of ten of the leading digit. -/
def leading (c : Nat) (e : Int) : Int := e + digitCount c - 1

/-- The result of an operation whose exact value is `c * 10 ^ e`: rounded to the most digits, a half
to the even one, and to the least exponent. -/
def finish (negative : Bool) (c : Nat) (e : Int) : Except DecimalFault ScaledDecimal :=
  if c = 0 then .ok (finite negative 0 (min (max e minExponent) maxExponent))
  else if maxExponent < leading c e then .error .overflow
  else if leading c e + 1 < minExponent then .ok (finite negative 0 minExponent)
  else
    let low := max (e + digitCount c - precision) minExponent
    let (c, e) := if e < low then (roundHalfEven c (tenTo (low - e).toNat), low) else (c, e)
    let (c, e) := if c = tenTo precision then (tenTo (precision - 1), e + 1) else (c, e)
    if maxExponent < leading c e then .error .overflow else .ok (finite negative c e)

/-- What is no number, as the result of an operation on it. -/
def quiet (negative : Bool) (payload : Nat) : ScaledDecimal :=
  nan negative false (payload % tenTo precision)

/-- The result of an operation on one decimal that is no number. -/
def ofNaN (negative signaling : Bool) (payload : Nat) : Except DecimalFault ScaledDecimal :=
  if signaling then .error .invalid else .ok (quiet negative payload)

/-- The magnitude. What is no number keeps its sign. -/
def abs : ScaledDecimal → Except DecimalFault ScaledDecimal
  | nan negative signaling payload => ofNaN negative signaling payload
  | infinite _ => .ok (infinite false)
  | finite _ c e => finish false c e

/-- The decimal of the other sign, unless it is no number. -/
def neg : ScaledDecimal → ScaledDecimal
  | infinite negative => infinite (!negative)
  | finite negative c e => finite (!negative) c e
  | d => d

/-- The exact sum of `c * 10 ^ e` and `k * 10 ^ f`, where `f ≤ e`. A term that is too small to be
seen beside the other is moved up to just below the last digit of the result. -/
def addAligned (s : Bool) (c : Nat) (e : Int) (t : Bool) (k : Nat) (f : Int) :
    Except DecimalFault ScaledDecimal :=
  let below := e - 1 - (if precision < digitCount c then 0 else precision + 1 - digitCount c)
  let (k, f) :=
    if c ≠ 0 ∧ leading k f < below then (if k = 0 then 0 else 1, below) else (k, f)
  let c := if c = 0 then 0 else c * tenTo (e - f).toNat
  let sum := signed s c + signed t k
  finish (if sum = 0 then s && t else decide (sum < 0)) sum.natAbs f

def add (a b : ScaledDecimal) : Except DecimalFault ScaledDecimal :=
  match a, b with
  | nan s signaling payload, b => ofNaN s (signaling || b.isSignaling) payload
  | _, nan t signaling payload => ofNaN t signaling payload
  | infinite s, infinite t => if s = t then .ok (infinite s) else .error .invalid
  | infinite s, _ => .ok (infinite s)
  | _, infinite t => .ok (infinite t)
  | finite s c e, finite t k f =>
    if f ≤ e then addAligned s c e t k f else addAligned t k f s c e

def sub (a b : ScaledDecimal) : Except DecimalFault ScaledDecimal := a.add b.neg

def times (d : ScaledDecimal) (n : Int) : Except DecimalFault ScaledDecimal :=
  match d with
  | nan negative signaling payload => ofNaN negative signaling payload
  | infinite negative =>
    if n = 0 then .error .invalid else .ok (infinite (negative != decide (n < 0)))
  | finite negative c e => finish (negative != decide (n < 0)) (c * n.natAbs) e

/-- The quotient of `c * 10 ^ e` by a positive number, cut toward zero, and the remainder, with its
exponent. The quotient has to be short enough to be written without rounding. -/
def divide (c : Nat) (e : Int) (n : Nat) : Except DecimalFault (Nat × Nat × Int) :=
  let size := leading c e - leading n 0
  if c = 0 then .ok (0, 0, min e 0)
  else if size < 0 then .ok (if 0 < e then (0, c * tenTo e.toNat, 0) else (0, c, e))
  else if (precision : Int) < size then .error .quotientTooLong
  else
    let whole := c * tenTo e.toNat
    let part := n * tenTo (-e).toNat
    if precision < digitCount (whole / part) then .error .quotientTooLong
    else .ok (whole / part, whole % part, min e 0)

/-- The quotient by a positive number, cut toward zero. -/
def quotient (d : ScaledDecimal) (n : Nat) : Except DecimalFault ScaledDecimal :=
  match d with
  | nan negative signaling payload => ofNaN negative signaling payload
  | infinite negative => .ok (infinite negative)
  | finite negative c e => do
    let (q, _) ← divide c e n
    finish negative q 0

/-- The remainder by a positive number, with the sign of the decimal. -/
def remainder (d : ScaledDecimal) (n : Nat) : Except DecimalFault ScaledDecimal :=
  match d with
  | nan negative signaling payload => ofNaN negative signaling payload
  | infinite _ => .error .invalid
  | finite negative c e => do
    let (_, r, f) ← divide c e n
    finish negative r f

end ScaledDecimal

end DatePattern
