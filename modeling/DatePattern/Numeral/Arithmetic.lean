import DatePattern.Numeral.BinaryArithmetic
import DatePattern.Numeral.DecimalArithmetic
import DatePattern.Numeral.Number

/-! Arithmetic of numbers of any kind. Beside a double an integer or a fraction is taken as the
double nearest to it; beside a fraction an integer is exact; decimals mix with integers alone. -/
namespace DatePattern

/-- Why an operation on numbers has no result. -/
inductive NumberFault
  | kinds
  | integerTooLarge
  | fractionTooLarge
  | noInteger
  | infinite
  | noDecimalInteger
  | infiniteDecimal
  | signalingDecimal
  | decimal (f : DecimalFault)
deriving DecidableEq, Repr

/-- What is wrong with the operation. Of `kinds` whoever knows the operation says more. -/
def NumberFault.message : NumberFault → String
  | kinds => "unsupported operand type(s)"
  | integerTooLarge => "int too large to convert to float"
  | fractionTooLarge => "integer division result too large for a float"
  | noInteger => "cannot convert float NaN to integer"
  | infinite => "cannot convert float infinity to integer"
  | noDecimalInteger => "cannot convert NaN to integer"
  | infiniteDecimal => "cannot convert Infinity to integer"
  | signalingDecimal => "cannot convert signaling NaN to float"
  | decimal f => f.message

namespace Number

def doubleOfInt (n : Int) : Except NumberFault Binary64 :=
  if Binary64.holdsInt n then .ok (.ofRat n) else .error .integerTooLarge

def doubleOfRatio (q : Rat) : Except NumberFault Binary64 :=
  let x := Binary64.ofRat q
  if x.isFinite then .ok x else .error .fractionTooLarge

def doubleOfDecimal : ScaledDecimal → Except NumberFault Binary64
  | .nan _ signaling _ => if signaling then .error .signalingDecimal else .ok .nan
  | .infinite negative => .ok (.infinite negative)
  | .finite negative c e => .ok (.ofDecimal negative c e)

def toDouble : Number → Except NumberFault Binary64
  | integer n => doubleOfInt n
  | binary x => .ok x
  | ratio q => doubleOfRatio q
  | decimal d => doubleOfDecimal d

def ofDecimalResult (x : Except DecimalFault ScaledDecimal) : Except NumberFault Number :=
  match x with
  | .ok d => .ok (decimal d)
  | .error f => .error (.decimal f)

def add (x y : Number) : Except NumberFault Number :=
  match x, y with
  | integer a, integer b => .ok (integer (a + b))
  | decimal a, decimal b => ofDecimalResult (a.add b)
  | decimal a, integer b => ofDecimalResult (a.add (.ofInt b))
  | integer a, decimal b => ofDecimalResult ((ScaledDecimal.ofInt a).add b)
  | decimal _, _ => .error .kinds
  | _, decimal _ => .error .kinds
  | binary a, y => do return binary (a.add (← y.toDouble))
  | x, binary b => do return binary ((← x.toDouble).add b)
  | x, y => .ok (ratio (x.fraction + y.fraction))

def sub (x y : Number) : Except NumberFault Number :=
  match x, y with
  | integer a, integer b => .ok (integer (a - b))
  | decimal a, decimal b => ofDecimalResult (a.sub b)
  | decimal a, integer b => ofDecimalResult (a.sub (.ofInt b))
  | integer a, decimal b => ofDecimalResult ((ScaledDecimal.ofInt a).sub b)
  | decimal _, _ => .error .kinds
  | _, decimal _ => .error .kinds
  | binary a, y => do return binary (a.sub (← y.toDouble))
  | x, binary b => do return binary ((← x.toDouble).sub b)
  | x, y => .ok (ratio (x.fraction - y.fraction))

def times (x : Number) (n : Int) : Except NumberFault Number :=
  match x with
  | integer a => .ok (integer (a * n))
  | binary a => do return binary (a.mul (← doubleOfInt n))
  | ratio q => .ok (ratio (q * n))
  | decimal d => ofDecimalResult (d.times n)

/-- The quotient by a positive integer, rounded down; that of decimals is cut toward zero. -/
def floorDiv (x : Number) (n : Nat) : Except NumberFault Number :=
  match x with
  | integer a => .ok (integer (a / n))
  | binary a => do return binary (a.floorDiv (← doubleOfInt n))
  | ratio q => .ok (integer (q / n).floor)
  | decimal d => ofDecimalResult (d.quotient n)

/-- The remainder by a positive integer, which is not negative; that of decimals has their sign. -/
def mod (x : Number) (n : Nat) : Except NumberFault Number :=
  match x with
  | integer a => .ok (integer (a % n))
  | binary a => do return binary (a.mod (← doubleOfInt n))
  | ratio q => .ok (ratio (q - n * (q / n).floor))
  | decimal d => ofDecimalResult (d.remainder n)

def abs (x : Number) : Except NumberFault Number :=
  match x with
  | integer a => .ok (integer a.natAbs)
  | binary a => .ok (binary a.abs)
  | ratio q => .ok (ratio (if q < 0 then -q else q))
  | decimal d => ofDecimalResult d.abs

def toInt (x : Number) : Except NumberFault Int :=
  match x with
  | integer a => .ok a
  | binary .nan => .error .noInteger
  | binary (.infinite _) => .error .infinite
  | binary a => .ok a.truncate
  | ratio q => .ok (q.num.tdiv q.den)
  | decimal (.nan _ _ _) => .error .noDecimalInteger
  | decimal (.infinite _) => .error .infiniteDecimal
  | decimal (.finite negative c e) => .ok (ScaledDecimal.truncate negative c e)

/-- The number is finite. An integer or a fraction beyond the doubles is a fault. -/
def isFinite (x : Number) : Except NumberFault Bool := do return (← x.toDouble).isFinite

/-- The order of two numbers. A decimal that is no number has none, nor has a decimal beside a
double that is no number; that is a fault. -/
def order? (x y : Number) : Except NumberFault (Option Ordering) :=
  match x, y with
  | decimal _, y => if x.isNaN || y.isNaN then .error (.decimal .invalid) else .ok (x.order y)
  | x, decimal _ => if x.isNaN || y.isNaN then .error (.decimal .invalid) else .ok (x.order y)
  | x, y => .ok (x.order y)

/-- Equality by value. A decimal that signals makes it fail. -/
def equals (x y : Number) : Except NumberFault Bool :=
  if x.isSignaling || y.isSignaling then .error (.decimal .invalid) else .ok (x.sameValue y)

end Number

end DatePattern
