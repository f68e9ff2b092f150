import DatePattern.Numeral.Arithmetic

/-! What can be wrong with a value of some kind where one of another kind is needed. -/
namespace DatePattern

/-- The operations that a fault names. -/
inductive Operator
  | plus
  | minus
  | times
  | quotient
  | modulo
deriving DecidableEq, Repr

/-- The sign of an operation. Division is the one that rounds down. -/
def Operator.sign : Operator → String
  | plus => "+"
  | minus => "-"
  | times => "*"
  | quotient => "//"
  | modulo => "%"

/-- The comparisons that a fault names. -/
inductive Comparison
  | below
  | atMost
  | above
  | atLeast
deriving DecidableEq, Repr

namespace Comparison

/-- The sign of a comparison. -/
def sign : Comparison → String
  | below => "<"
  | atMost => "<="
  | above => ">"
  | atLeast => ">="

/-- The comparison holds for an order. It never does for what has no order. -/
def holds : Comparison → Option Ordering → Bool
  | below, some o => o.isLT
  | atMost, some o => o.isLE
  | above, some o => o.isGT
  | atLeast, some o => o.isGE
  | _, none => false

/-- The comparison of two integers. -/
def holdsInt : Comparison → Int → Int → Bool
  | below, a, b => decide (a < b)
  | atMost, a, b => decide (a ≤ b)
  | above, a, b => decide (b < a)
  | atLeast, a, b => decide (b ≤ a)

end Comparison

/-- What code of the caller's raises: the name of its kind and its text. -/
structure Raised where
  kindName : String
  message : String
deriving DecidableEq, Repr

/-- Why an operation on values of any kind has no result. Kinds are given by their names. -/
inductive ArgumentFault
  | number (f : NumberFault)
  | numeralTooLong
  | operands (op : Operator) (left right : String)
  | order (c : Comparison) (left right : String)
  | joinText (kind : String)
  | joinList (kind : String)
  | joinBytes (kind : String)
  | unusedOperand (text : String)
  | noMagnitude (kind : String)
  | notReal (kind : String)
  | notInteger (kind : String)
  | unhashable (kind : String)
  | signalingKey
  | tupleIndexKind (kind : String)
  | sliceIndexKind
  | tupleIndex
  | textIndex
  | listIndex
  | bytesIndex
  | indexBeyondWord
  | widthBeyondWord
  | missingKey (literal : String)
  | noItems (kind : String)
  | noLength (kind : String)
  | noText (kind : String)
  | noAttribute (kind name : String)
  | notSerializable (kind : String)
  | keyNotSerializable (kind : String)
  | raised (r : Raised)
deriving DecidableEq, Repr

/-- What is wrong with the operation. -/
def ArgumentFault.message : ArgumentFault → String
  | number f => f.message
  | numeralTooLong => digitLimitMessage
  | operands op left right =>
    "unsupported operand type(s) for " ++ op.sign ++ ": '" ++ left ++ "' and '" ++ right ++ "'"
  | order c left right =>
    "'" ++ c.sign ++ "' not supported between instances of '" ++ left ++ "' and '" ++ right ++ "'"
  | joinText kind => "can only concatenate str (not \"" ++ kind ++ "\") to str"
  | joinList kind => "can only concatenate list (not \"" ++ kind ++ "\") to list"
  | joinBytes kind => "can't concat " ++ kind ++ " to bytes"
  | unusedOperand text => "not all arguments converted during " ++ text ++ " formatting"
  | noMagnitude kind => "bad operand type for abs(): '" ++ kind ++ "'"
  | notReal kind => "must be real number, not " ++ kind
  | notInteger kind => "'" ++ kind ++ "' object cannot be interpreted as an integer"
  | unhashable kind => "unhashable type: '" ++ kind ++ "'"
  | signalingKey => "Cannot hash a signaling NaN value"
  | tupleIndexKind kind => "tuple indices must be integers or slices, not " ++ kind
  | sliceIndexKind => "slice indices must be integers or None or have an __index__ method"
  | tupleIndex => "tuple index out of range"
  | textIndex => "string index out of range"
  | listIndex => "list index out of range"
  | bytesIndex => "index out of range"
  | indexBeyondWord => "cannot fit 'int' into an index-sized integer"
  | widthBeyondWord => "Python int too large to convert to C ssize_t"
  | missingKey literal => literal
  | noItems kind => "'" ++ kind ++ "' object is not subscriptable"
  | noLength kind => "object of type '" ++ kind ++ "' has no len()"
  | noText kind => "__str__ returned non-string (type " ++ kind ++ ")"
  | noAttribute kind name => "'" ++ kind ++ "' object has no attribute '" ++ name ++ "'"
  | notSerializable kind => "Object of type " ++ kind ++ " is not JSON serializable"
  | keyNotSerializable kind => "keys must be str, int, float, bool or None, not " ++ kind
  | raised r => r.message

/-- A text, unless a numeral in it passes the digit limit. -/
def orTooLong : Option String → Except ArgumentFault String
  | some s => .ok s
  | none => .error .numeralTooLong

@[simp] theorem orTooLong_some (s : String) : orTooLong (some s) = .ok s := rfl
@[simp] theorem orTooLong_none : orTooLong none = .error .numeralTooLong := rfl

theorem orTooLong_eq_ok_iff {t : Option String} {s : String} : orTooLong t = .ok s ↔ t = some s := by
  cases t <;> simp

theorem eq_numeralTooLong_of_orTooLong {t : Option String} {f : ArgumentFault}
    (h : orTooLong t = .error f) : f = .numeralTooLong := by
  cases t <;> cases h
  rfl

theorem bind_eq_ok_iff {ε α β : Type} {x : Except ε α} {f : α → Except ε β} {b : β} :
    (x >>= f) = .ok b ↔ ∃ a, x = .ok a ∧ f a = .ok b := by
  cases x with
  | error e =>
    constructor
    · rintro ⟨⟩
    · rintro ⟨a, ⟨⟩, -⟩
  | ok a =>
    constructor
    · exact fun h => ⟨a, rfl, h⟩
    · rintro ⟨_, ⟨⟩, h⟩
      exact h

/-- What code of the caller's comes to when it is called back. -/
inductive Reply (α : Type)
  | gives (a : α)
  | raises (r : Raised)
deriving DecidableEq, Repr

def Reply.result {α : Type} : Reply α → Except ArgumentFault α
  | gives a => .ok a
  | raises r => .error (.raised r)

theorem exists_raised_of_result {α : Type} {reply : Reply α} {f : ArgumentFault}
    (h : reply.result = .error f) : ∃ r, f = .raised r := by
  cases reply with
  | gives a => cases h
  | raises r =>
    cases h
    exact ⟨r, rfl⟩

end DatePattern
