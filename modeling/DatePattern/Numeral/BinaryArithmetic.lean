import DatePattern.Numeral.Binary64

/-! Arithmetic of doubles: the exact result, rounded to the nearest double, with the signs of zeros
and with infinities. -/
namespace DatePattern

namespace Binary64

/-- The sign bit of a double that is a number. -/
def isNegative : Binary64 → Bool
  | nan => false
  | infinite negative => negative
  | finite negative _ _ => negative

def zero (negative : Bool) : Binary64 := finite negative 0 0

def isZero : Binary64 → Bool
  | finite _ m _ => m == 0
  | _ => false

def neg : Binary64 → Binary64
  | nan => nan
  | infinite negative => infinite (!negative)
  | finite negative m e => finite (!negative) m e

def abs : Binary64 → Binary64
  | nan => nan
  | infinite _ => infinite false
  | finite _ m e => finite false m e

/-- The sum. A zero sum is positive unless both terms are negative zeros. -/
def add (x y : Binary64) : Binary64 :=
  match x, y with
  | nan, _ => nan
  | _, nan => nan
  | infinite s, infinite t => if s = t then infinite s else nan
  | infinite s, _ => infinite s
  | _, infinite t => infinite t
  | x, y =>
    let sum := x.toRat?.getD 0 + y.toRat?.getD 0
    if sum = 0 then zero (x.isNegative && y.isNegative && x.isZero && y.isZero) else ofRat sum

def sub (x y : Binary64) : Binary64 := x.add y.neg

def mul (x y : Binary64) : Binary64 :=
  let negative := x.isNegative != y.isNegative
  match x, y with
  | nan, _ => nan
  | _, nan => nan
  | infinite _, y => if y.isZero then nan else infinite negative
  | x, infinite _ => if x.isZero then nan else infinite negative
  | x, y =>
    let product := x.toRat?.getD 0 * y.toRat?.getD 0
    if product = 0 then zero negative else ofRat product

/-- The greatest integer that is not above a finite double, as a double. -/
def floor (x : Binary64) : Binary64 :=
  match x.toRat? with
  | some q => if q.floor = 0 then zero x.isNegative else ofRat q.floor
  | none => x

/-- What is left of a finite double when a positive number is taken off it as often as possible,
toward zero. It has the sign of the double, and needs no rounding. -/
def remainderToZero (x : Binary64) (n : Rat) : Binary64 :=
  match x.toRat? with
  | some q =>
    let r := q - n * (if 0 ≤ q then (q / n).floor else -(-q / n).floor)
    if r = 0 then zero x.isNegative else ofRat r
  | none => nan

/-- The remainder by a positive double, which lies between zero and it. -/
def mod (x n : Binary64) : Binary64 :=
  match n.toRat? with
  | some d =>
    match x.remainderToZero d with
    | nan => nan
    | r => if r.isZero then zero false else if r.isNegative then r.add n else r
  | none => nan

/-- The quotient by a positive double, rounded down. It is taken from the difference of the number
and its remainder, each step rounded to a double. -/
def floorDiv (x n : Binary64) : Binary64 :=
  match n.toRat? with
  | some d =>
    let r := x.remainderToZero d
    match r with
    | nan => nan
    | r =>
      let exact := ofRat (((x.sub r).toRat?.getD 0) / d)
      let quotient := if r.isZero || !r.isNegative then exact else exact.sub (ofRat 1)
      if quotient.isZero then zero x.isNegative
      else
        let low := quotient.floor
        match (quotient.sub low).toRat? with
        | some gap => if 1 / 2 < gap then low.add (ofRat 1) else low
        | none => low
  | none => nan

end Binary64

end DatePattern
