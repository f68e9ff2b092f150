import DatePattern.Argument.Basic

/-! Arithmetic and comparison of values of any kind. Numbers are counted with, and flags as zero
and one; what is done to another value is a fault that names its kind. -/
namespace DatePattern

/-- What a computation with values of any kind comes to. -/
abbrev Computed : Type := Except ArgumentFault Argument

namespace Argument

instance {n : Nat} : OfNat Argument n := ⟨int n⟩

@[simp] theorem ofNat_eq_int (n : Nat) : (OfNat.ofNat n : Argument) = int n := rfl

/-- The result of an operation on numbers. Where their kinds do not mix, the fault names both
sides. -/
def ofNumberResult (op : Operator) (x y : Argument) (result : Except NumberFault Number) :
    Computed :=
  match result with
  | .ok n => .ok (number n)
  | .error .kinds => .error (.operands op x.fullKindName y.fullKindName)
  | .error f => .error (.number f)

/-- Why two values that are not both numbers do not add up. Texts, lists and bytes are joined with
their like only. -/
def sumFault (x y : Argument) : ArgumentFault :=
  match x with
  | atom (.text _) => .joinText y.fullKindName
  | atom (.bytes _) => .joinBytes y.fullKindName
  | list _ => .joinList y.fullKindName
  | x => .operands .plus x.fullKindName y.fullKindName

def add (x y : Argument) : Computed :=
  match x.number?, y.number? with
  | some a, some b => ofNumberResult .plus x y (a.add b)
  | _, _ => .error (sumFault x y)

def sub (x y : Argument) : Computed :=
  match x.number?, y.number? with
  | some a, some b => ofNumberResult .minus x y (a.sub b)
  | _, _ => .error (.operands .minus x.fullKindName y.fullKindName)

/-- The product by an integer. A text, bytes or a list is repeated. -/
def times (x : Argument) (n : Int) : Computed :=
  match x.number? with
  | some a => ofNumberResult .times x (int n) (a.times n)
  | none =>
    match x with
    | atom (.text s) => .ok (text (String.join (List.replicate n.toNat s)))
    | atom (.bytes bs) => .ok (.atom (.bytes (List.replicate n.toNat bs).flatten))
    | list items => .ok (list (List.replicate n.toNat items).flatten)
    | x => .error (.operands .times x.fullKindName "int")

/-- The quotient of a number by a positive integer, rounded down. -/
def floorDiv (x : Argument) (n : Nat) : Computed :=
  match x.number? with
  | some a => ofNumberResult .quotient x (int n) (a.floorDiv n)
  | none => .error (.operands .quotient x.fullKindName "int")

/-- The remainder of a number by a positive integer. A text or bytes would take the integer into a
gap of theirs, and has none. -/
def mod (x : Argument) (n : Nat) : Computed :=
  match x.number? with
  | some a => ofNumberResult .modulo x (int n) (a.mod n)
  | none =>
    match x with
    | atom (.text _) => .error (.unusedOperand "string")
    | atom (.bytes _) => .error (.unusedOperand "bytes")
    | x => .error (.operands .modulo x.fullKindName "int")

def magnitude (x : Argument) : Computed :=
  match x.number? with
  | some a => (a.abs.map number).mapError ArgumentFault.number
  | none => .error (.noMagnitude x.fullKindName)

def compares (c : Comparison) (x y : Argument) : Except ArgumentFault Bool :=
  match x.number?, y.number? with
  | some a, some b => ((a.order? b).map c.holds).mapError ArgumentFault.number
  | _, _ => .error (.order c x.fullKindName y.fullKindName)

/-- The value, or another in place of one that is absent, false, zero or empty. -/
def orElse (x y : Argument) : Argument := if x.isTruthy then x else y

/-- The integer part of a number, or the fault of what is none. -/
def wholePart (x : Argument) : Except ArgumentFault Int :=
  match x.number? with
  | some a => a.toInt.mapError ArgumentFault.number
  | none => .error (.notInteger x.fullKindName)

def isFinite (x : Argument) : Except ArgumentFault Bool :=
  match x.number? with
  | some a => a.isFinite.mapError ArgumentFault.number
  | none => .error (.notReal x.fullKindName)

/-- The integer that a value stands for as a count or an index. -/
def asInteger (x : Argument) : Except ArgumentFault Int :=
  match x.integer? with
  | some n => .ok n
  | none => .error (.notInteger x.fullKindName)

/-- The magnitude of a number in its text for reading, padded with zeros to a width. -/
def paddedText (x : Argument) (width : Int) : Except ArgumentFault String := do
  return String.ofList (padZeros width (← (← x.magnitude).display).toList)

/-- A width of a text has to fit a signed word of 64 bits. -/
def checkWidth (width : Int) : Except ArgumentFault Unit :=
  if width < -(twoTo 63 : Int) ∨ twoTo 63 ≤ width then .error .widthBeyondWord else .ok ()

/-- The magnitude of a number in its text for reading, padded with zeros to a width that a caller
gives. The number is looked at before the width. -/
def paddedTo (x width : Argument) : Except ArgumentFault String := do
  let _ ← x.paddedText 0
  let width ← width.asInteger
  checkWidth width
  x.paddedText width

@[simp] theorem ok_bind {α β : Type} (x : α) (f : α → Except ArgumentFault β) :
    (Except.ok x >>= f) = f x := rfl

section Integers

variable (a b : Int) (n : Nat)

@[simp] theorem add_int : (int a).add (int b) = .ok (int (a + b)) := rfl
@[simp] theorem sub_int : (int a).sub (int b) = .ok (int (a - b)) := rfl
@[simp] theorem times_int : (int a).times b = .ok (int (a * b)) := rfl
@[simp] theorem floorDiv_int : (int a).floorDiv n = .ok (int (a / n)) := rfl
@[simp] theorem mod_int : (int a).mod n = .ok (int (a % n)) := rfl
@[simp] theorem magnitude_int : (int a).magnitude = .ok (int a.natAbs) := rfl

theorem paddedText_int (width : Int) :
    (int a).paddedText width =
      match paddedNumeral? a width with
      | some s => .ok s
      | none => .error .numeralTooLong := by
  have h : (int a.natAbs).display = orTooLong ((digits? a.natAbs).map String.ofList) :=
    congrArg orTooLong (numeral?_natCast a.natAbs)
  simp only [paddedText, magnitude_int, ok_bind, h, paddedNumeral?]
  cases digits? a.natAbs with
  | none => rfl
  | some digits => simp [pure, Except.pure]

@[simp] theorem asInteger_int : (int a).asInteger = .ok a := rfl

theorem compare_int_of_lt (h : a < b) : compare a b = .lt := by
  simp [compare, compareOfLessAndEq, h]

theorem compare_int_of_gt (h : b < a) : compare a b = .gt := by
  have : ¬ a < b := by omega
  have : a ≠ b := by omega
  simp [compare, compareOfLessAndEq, *]

@[simp] theorem compares_int (c : Comparison) :
    (int a).compares c (int b) = .ok (c.holdsInt a b) := by
  change Except.ok (c.holds (some (compare a b))) = _
  congr 1
  rcases Int.lt_trichotomy a b with h | h | h
  · have : ¬ b < a := by omega
    have : ¬ b ≤ a := by omega
    cases c <;>
      simp [compare_int_of_lt, Comparison.holds, Comparison.holdsInt, Int.le_of_lt, *]
  · subst h
    cases c <;> simp [compare, compareOfLessAndEq, Comparison.holds, Comparison.holdsInt]
  · have : ¬ a < b := by omega
    have : ¬ a ≤ b := by omega
    cases c <;>
      simp [compare_int_of_gt, Comparison.holds, Comparison.holdsInt, Int.le_of_lt, *]

@[simp] theorem equalsInt_int : (int a).equalsInt b = .ok (a == b) := by
  change Except.ok (some (compare a b) == some Ordering.eq) = _
  congr 1
  rcases Int.lt_trichotomy a b with h | h | h
  · have : a ≠ b := by omega
    simp [compare_int_of_lt, *]
  · simp [h, compare, compareOfLessAndEq]
  · have : a ≠ b := by omega
    simp [compare_int_of_gt, *]

end Integers

end Argument

end DatePattern
