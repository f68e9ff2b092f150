import DatePattern.Localizer.English
import DatePattern.Pattern.Field
import DatePattern.Proofs.Numeral.DigitLimit
import Mathlib.Tactic.SplitIfs

/-! The fixed English localizer answers what a pattern asks of a moment: it has a name for each era,
quarter, month and weekday at every width that a field chooses, and a numeral for each number that
can be written. -/
namespace DatePattern

namespace English

/-- The table has so many names of a width. There are at most twelve of anything. -/
def HasNames (table : Width → Option (List String)) (width : Width) (count : Nat) : Prop :=
  ∃ names, table width = some names ∧ names.length = count ∧ count ≤ 12

section

variable {table : Width → Option (List String)} {width : Width}

theorem nameOf_int {names : List String} (hnames : table width = some names)
    (hshort : names.length ≤ 12) {i : Int} (hi : 0 ≤ i) (hbound : i.toNat < names.length) :
    nameOf table width (.ok (.int i)) = .ok names[i.toNat] := by
  have hword : (12 : Int) < twoTo 63 := by decide
  have hplace : (Argument.int i).place = .ok i := if_neg (by omega)
  have hitem : itemAt? names i = some names[i.toNat] := by
    rw [itemAt?, if_neg (by omega), if_neg (by omega), List.getElem?_eq_getElem]
  rw [nameOf, hnames]
  simp only [Argument.itemOf, hplace, hitem, Argument.ok_bind]
  rfl

theorem HasNames.exists_nameOf {count : Nat} (h : HasNames table width count) {i : Int}
    (hi : 0 ≤ i ∧ i < count) : ∃ name, nameOf table width (.ok (.int i)) = .ok name := by
  obtain ⟨names, hnames, hlength, hshort⟩ := h
  exact ⟨_, nameOf_int hnames (by omega) hi.1 (by omega)⟩

end

section

variable (length : Int)

theorem hasNames_eras : HasNames eras (eraWidth length) 2 := by
  unfold eraWidth
  split_ifs <;> exact ⟨_, rfl, rfl, by decide⟩

theorem hasNames_quarters : HasNames quarters (quarterWidth length) 4 := by
  unfold quarterWidth
  split_ifs <;> exact ⟨_, rfl, rfl, by decide⟩

theorem hasNames_months : HasNames months (monthWidth length) 12 := by
  unfold monthWidth
  split_ifs <;> exact ⟨_, rfl, rfl, by decide⟩

theorem hasNames_weekdays : HasNames weekdays (weekdayWidth length) 7 := by
  unfold weekdayWidth
  split_ifs <;> exact ⟨_, rfl, rfl, by decide⟩

end

section

variable {width : Width}

theorem exists_era (hnames : HasNames eras width 2) {era : Int} (h : era = 1 ∨ era = -1) :
    ∃ name, answer (.era (.int era) width) = .ok name := by
  rcases h with rfl | rfl
  · exact hnames.exists_nameOf (i := 1) (by decide)
  · exact hnames.exists_nameOf (i := 0) (by decide)

theorem exists_quarter (hnames : HasNames quarters width 4) {quarter : Int}
    (h : 1 ≤ quarter ∧ quarter ≤ 4) (context : NameContext) :
    ∃ name, answer (.quarter (.int quarter) width context) = .ok name :=
  hnames.exists_nameOf (i := quarter - 1) (by omega)

theorem exists_month (hnames : HasNames months width 12) {month : Int}
    (h : 0 ≤ month ∧ month ≤ 11) (context : NameContext) :
    ∃ name, answer (.month (.int month) width context) = .ok name :=
  hnames.exists_nameOf (by omega)

theorem exists_weekday (hnames : HasNames weekdays width 7) {weekday : Int}
    (h : 0 ≤ weekday ∧ weekday ≤ 6) (context : NameContext) :
    ∃ name, answer (.weekday (.int weekday) width context) = .ok name :=
  hnames.exists_nameOf (by omega)

end

theorem exists_timeOfDay (hour : Int) (width : Width) :
    ∃ name, answer (.timeOfDay (.int hour) width) = .ok name := by
  have hbelow : (Argument.int hour).compares .below 12 = .ok (Comparison.holdsInt .below hour 12) :=
    Argument.compares_int hour 12 .below
  rw [answer, hbelow, Argument.ok_bind]
  split <;> exact ⟨_, rfl⟩

theorem exists_number {n : Int} (h : ¬ IsTooLong n.natAbs) (width : Int) (ordinal : Bool)
    (unit : Option CountedUnit) :
    ∃ text, answer (.number (.int n) width ordinal unit) = .ok text := by
  obtain ⟨digits, hdigits⟩ := exists_paddedNumeral? h width
  rw [answer, number, Argument.paddedText_int, hdigits, Argument.ok_bind, suffixOf_int]
  split <;> exact ⟨_, rfl⟩

theorem number_of_isTooLong {n : Int} (h : IsTooLong n.natAbs) (width : Int) (ordinal : Bool)
    (unit : Option CountedUnit) :
    answer (.number (.int n) width ordinal unit) = .error .numeralTooLong := by
  rw [answer, number, Argument.paddedText_int, paddedNumeral?_of_isTooLong h]
  rfl

end English

end DatePattern
