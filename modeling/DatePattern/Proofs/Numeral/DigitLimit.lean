import DatePattern.Argument.Basic
import DatePattern.Numeral.Power

/-! The numbers that cannot be written, since they have more digits than the limit. -/
namespace DatePattern

/-- The number has more digits than may be written. -/
def IsTooLong (n : Nat) : Prop := digitLimit < (Nat.toDigits 10 n).length

theorem length_toDigits_le_iff {k : Nat} (hk : 0 < k) (n : Nat) :
    (Nat.toDigits 10 n).length ≤ k ↔ n < tenTo k :=
  Nat.length_toDigits_le_iff (by decide) hk

theorem isTooLong_iff {n : Nat} : IsTooLong n ↔ tenTo digitLimit ≤ n := by
  have hpos : 0 < digitLimit := by decide
  rw [IsTooLong, ← Nat.not_le, length_toDigits_le_iff hpos, Nat.not_lt]

theorem tenTo_le_tenTo {j k : Nat} (h : j ≤ k) : tenTo j ≤ tenTo k :=
  Nat.pow_le_pow_right (by decide) h

theorem tenTo_pos (k : Nat) : 0 < tenTo k := Nat.pow_pos (by decide)

theorem tenTo_add (j k : Nat) : tenTo (j + k) = tenTo j * tenTo k := Nat.pow_add 10 j k

theorem not_isTooLong_of_lt {n k : Nat} (hk : k ≤ digitLimit) (h : n < tenTo k) : ¬ IsTooLong n := by
  have hpow := tenTo_le_tenTo hk
  rw [isTooLong_iff]
  omega

theorem not_isTooLong_of_le_tenTo_succ {n k : Nat} (hk : k < digitLimit) (h : n ≤ tenTo k + 1) :
    ¬ IsTooLong n := by
  have hpos := tenTo_pos k
  have hpow : tenTo (k + 1) = tenTo k * 10 := tenTo_add k 1
  have hlt : n < tenTo (k + 1) := by omega
  exact not_isTooLong_of_lt hk hlt

theorem not_isTooLong_of_le {n k : Nat} (hk : ¬ IsTooLong k) (h : n ≤ k) : ¬ IsTooLong n := by
  rw [isTooLong_iff] at hk ⊢
  omega

theorem not_isTooLong_of_le_999 {n : Nat} (h : n ≤ 999) : ¬ IsTooLong n :=
  not_isTooLong_of_lt (k := 3) (by decide) (show n < 1000 by omega)

theorem not_isTooLong_zero : ¬ IsTooLong 0 := not_isTooLong_of_le_999 (by decide)

theorem digits?_of_not_isTooLong {n : Nat} (h : ¬ IsTooLong n) :
    digits? n = some (Nat.toDigits 10 n) :=
  if_pos (Nat.not_lt.mp h)

theorem digits?_of_isTooLong {n : Nat} (h : IsTooLong n) : digits? n = none :=
  if_neg (Nat.not_le.mpr h)

theorem exists_paddedNumeral? {n : Int} (h : ¬ IsTooLong n.natAbs) (width : Int) :
    ∃ text, paddedNumeral? n width = some text :=
  ⟨_, by rw [paddedNumeral?, digits?_of_not_isTooLong h, Option.map_some]⟩

/-- The zeros of padding are not counted, and no width makes up for a number that is too long. -/
theorem paddedNumeral?_of_isTooLong {n : Int} (h : IsTooLong n.natAbs) (width : Int) :
    paddedNumeral? n width = none := by
  rw [paddedNumeral?, digits?_of_isTooLong h, Option.map_none]

namespace Argument

/-- A value whose text for reading can be written. -/
def IsWritten (x : Argument) : Prop := ∃ text, x.display = .ok text

theorem isWritten_text (s : String) : (text s).IsWritten := ⟨s, rfl⟩

theorem isWritten_absent : absent.IsWritten := ⟨_, rfl⟩

theorem display_int (n : Int) :
    (int n).display = match numeral? n with
      | some s => .ok s
      | none => .error .numeralTooLong := rfl

theorem isWritten_int {n : Int} (h : ¬ IsTooLong n.natAbs) : (int n).IsWritten := by
  rw [IsWritten, display_int, numeral?, digits?_of_not_isTooLong h]
  exact ⟨_, rfl⟩

theorem display_int_of_isTooLong {n : Int} (h : IsTooLong n.natAbs) :
    (int n).display = .error .numeralTooLong := by
  rw [display_int, numeral?, digits?_of_isTooLong h]
  rfl

end Argument

end DatePattern
