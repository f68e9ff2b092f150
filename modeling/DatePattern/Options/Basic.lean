import DatePattern.Calendar.Week
import DatePattern.Numeral.Number

/-! Options of a formatting call, and the rule of weeks that they choose. -/
namespace DatePattern

/-- The numbers of extra year digits that an expanded year may carry: those equal to 0, 1 or 2. -/
def IsDigitCount (x : Number) : Prop :=
  x.equalsInt 0 = true ∨ x.equalsInt 1 = true ∨ x.equalsInt 2 = true

instance (x : Number) : Decidable (IsDigitCount x) :=
  inferInstanceAs (Decidable (_ ∨ _ ∨ _))

/-- Options of a call. An unset option is `none`. The two acknowledgements say that a week year or
a day of the year is meant where a calendar year or a day of the month would be usual; `ordinal`
asks for numbers with their ordinal suffix. -/
structure Options where
  additionalDigits : Option Number
  weekStartsOn : Option Int
  firstWeekContains : Option Int
  acknowledgesWeekYear : Bool
  acknowledgesDayOfYear : Bool
  ordinal : Bool
  additionalDigits_inRange : ∀ x ∈ additionalDigits, IsDigitCount x
  weekStartsOn_inRange : ∀ n ∈ weekStartsOn, IsWeekday n
  firstWeekContains_inRange : ∀ n ∈ firstWeekContains, IsFirstWeekDay n
deriving DecidableEq

namespace Options

def unset : Options :=
  ⟨none, none, none, false, false, false, by simp, by simp, by simp⟩

/-- The extra year digits in effect: two where the option is unset. -/
def digitCount (o : Options) : Number := o.additionalDigits.getD (.integer 2)

/-- The rule of weeks in effect. While neither week option is set it is the international one; the
one that is then still unset is Sunday, or the first of January. -/
def weekRule (o : Options) : WeekRule :=
  match o.weekStartsOn, o.firstWeekContains with
  | none, none => .iso
  | startsOn, contains => ⟨startsOn.getD 0, contains.getD 1⟩

theorem weekRule_isValid (o : Options) : o.weekRule.IsValid := by
  have hs := o.weekStartsOn_inRange
  have hc := o.firstWeekContains_inRange
  unfold weekRule
  cases h : o.weekStartsOn <;> cases h' : o.firstWeekContains <;>
    simp_all [WeekRule.IsValid, WeekRule.iso, IsWeekday, IsFirstWeekDay]

def withOrdinal (o : Options) : Options := { o with ordinal := true }

@[simp] theorem weekRule_withOrdinal (o : Options) : o.withOrdinal.weekRule = o.weekRule := rfl

/-- Equality of all options, numbers by value. -/
def same (a b : Options) : Bool :=
  (match a.additionalDigits, b.additionalDigits with
    | some x, some y => x.sameValue y
    | none, none => true
    | _, _ => false) &&
  a.weekStartsOn == b.weekStartsOn && a.firstWeekContains == b.firstWeekContains &&
  a.acknowledgesWeekYear == b.acknowledgesWeekYear &&
  a.acknowledgesDayOfYear == b.acknowledgesDayOfYear && a.ordinal == b.ordinal

end Options

end DatePattern
