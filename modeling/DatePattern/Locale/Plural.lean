/-! Categories of ordinal numbers, and rules that sort numbers into them. -/
namespace DatePattern

/-- The categories that languages sort ordinal numbers into. -/
inductive PluralCategory
  | zero
  | one
  | two
  | few
  | many
  | other
deriving DecidableEq, Repr

def PluralCategory.name : PluralCategory → String
  | zero => "zero"
  | one => "one"
  | two => "two"
  | few => "few"
  | many => "many"
  | other => "other"

/-- A condition on a number: its remainder by a modulus lies inside or outside closed ranges. The
remainder by zero is the number itself. A number with a fractional part lies in no range. -/
inductive PluralCondition
  | inside (modulus : Nat) (ranges : List (Nat × Nat))
  | outside (modulus : Nat) (ranges : List (Nat × Nat))
deriving DecidableEq, Repr

/-- A number, if there is one, has a remainder that lies in one of the ranges. -/
def liesIn (n : Option Nat) (modulus : Nat) (ranges : List (Nat × Nat)) : Bool :=
  match n with
  | some n => ranges.any fun r => decide (r.1 ≤ n % modulus ∧ n % modulus ≤ r.2)
  | none => false

namespace PluralCondition

/-- A number meets the condition. There is none where a fractional part is. -/
def holds (n : Option Nat) : PluralCondition → Bool
  | inside modulus ranges => liesIn n modulus ranges
  | outside modulus ranges => !liesIn n modulus ranges

/-- The number that the condition divides by, or zero. -/
def modulus : PluralCondition → Nat
  | inside modulus _ => modulus
  | outside modulus _ => modulus

end PluralCondition

/-- Rules of a language in the order of trial. A rule holds when all conditions of one of its lists
hold. -/
abbrev PluralRules := List (PluralCategory × List (List PluralCondition))

namespace PluralRules

def categoryOf (rules : PluralRules) (n : Option Nat) : PluralCategory :=
  match rules.find? fun rule => rule.2.any fun all => all.all fun c => c.holds n with
  | some rule => rule.1
  | none => .other

/-- The first number that the rules divide by, or zero. -/
def firstModulus (rules : PluralRules) : Nat :=
  ((rules.head?.bind fun rule => rule.2.head?.bind List.head?).map PluralCondition.modulus).getD 0

end PluralRules

end DatePattern
