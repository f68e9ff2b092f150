import DatePattern.Argument.Arithmetic
import DatePattern.Proofs.Numeral.DigitLimit
import DatePattern.Proofs.Numeral.FixedWidth
import Mathlib.Data.Nat.Log

/-! Integers padded with zeros to a width that a caller gives: the digits stand for the magnitude, and
nothing but the padding makes the text longer than the number. -/
namespace DatePattern

/-- How many digits a number has in decimal. Zero has one. -/
def decimalLength (n : Nat) : Nat := Nat.log 10 n + 1

theorem length_toDigits_eq (n : Nat) : (Nat.toDigits 10 n).length = decimalLength n := by
  -- Both are the least positive width whose power of ten is above the number.
  have hwidth {k : Nat} (hk : 0 < k) : (Nat.toDigits 10 n).length ≤ k ↔ decimalLength n ≤ k := by
    rw [length_toDigits_le_iff hk, decimalLength, Nat.succ_le_iff]
    rcases Nat.eq_zero_or_pos n with rfl | hn
    · rw [Nat.log_zero_right]
      exact iff_of_true (tenTo_pos k) hk
    · exact (Nat.log_lt_iff_lt_pow (by decide) (Nat.ne_of_gt hn)).symm
  have hdigits : 0 < (Nat.toDigits 10 n).length := Nat.length_toDigits_pos
  exact Nat.le_antisymm ((hwidth (Nat.succ_pos _)).mpr (Nat.le_refl _))
    ((hwidth hdigits).mp (Nat.le_refl _))

theorem not_isTooLong_iff {n : Nat} : ¬ IsTooLong n ↔ decimalLength n ≤ digitLimit := by
  rw [IsTooLong, Nat.not_lt, length_toDigits_eq]

/-- A leading zero is one of the padding, or the number is zero. -/
theorem head?_fixedWidth (width n : Nat) :
    (fixedWidth width n).head? = some '0' ↔ n = 0 ∨ decimalLength n < width := by
  rw [fixedWidth, padZeros, length_toDigits_eq, Int.toNat_natCast]
  rcases Nat.lt_or_ge (decimalLength n) width with hpad | hpad
  · obtain ⟨k, hk⟩ := Nat.exists_eq_add_one_of_ne_zero (Nat.sub_ne_zero_of_lt hpad)
    rw [hk]
    exact iff_of_true rfl (.inr hpad)
  · rw [Nat.sub_eq_zero_of_le hpad, List.replicate_zero, List.nil_append,
      or_iff_left (Nat.not_lt.mpr hpad)]
    refine ⟨fun h => ?_, fun h => by rw [h]; rfl⟩
    by_contra hn
    exact head?_toDigits (Nat.pos_of_ne_zero hn) h

namespace Argument

theorem checkWidth_eq_ok {width : Int} (hlow : -(twoTo 63 : Int) ≤ width)
    (hhigh : width < twoTo 63) : checkWidth width = .ok () := by
  rw [checkWidth, if_neg (by omega)]

theorem paddedText_int_eq_ok {v : Int} (hv : decimalLength v.natAbs ≤ digitLimit) (width : Int) :
    (int v).paddedText width = .ok (String.ofList (fixedWidth width.toNat v.natAbs)) := by
  have hwidth : padZeros (width.toNat : Int) = padZeros width := by
    funext digits
    rw [padZeros, padZeros, Int.toNat_natCast]
  rw [paddedText_int, paddedNumeral?, digits?_of_not_isTooLong (not_isTooLong_iff.mpr hv), fixedWidth,
    hwidth]
  rfl

theorem paddedTo_int_eq_ok {v width : Int} (hv : decimalLength v.natAbs ≤ digitLimit)
    (hlow : -(twoTo 63 : Int) ≤ width) (hhigh : width < twoTo 63) :
    (int v).paddedTo (int width) = .ok (String.ofList (fixedWidth width.toNat v.natAbs)) := by
  rw [paddedTo, paddedText_int_eq_ok hv, ok_bind, asInteger_int, ok_bind,
    checkWidth_eq_ok hlow hhigh, ok_bind, paddedText_int_eq_ok hv]

/-- An integer of no more digits than may be written, padded to a width that fits a signed word, is
written in digits of ASCII that are read as its magnitude. They are as many as the width or the
number's own, whichever is more; they begin with a zero only in the padding or for zero. So no two
integers from zero on have the same text in one width. -/
theorem paddedTo_faithful {v width : Int} (hv : decimalLength v.natAbs ≤ digitLimit)
    (hlow : -(twoTo 63 : Int) ≤ width) (hhigh : width < twoTo 63) :
    ∃ text, (int v).paddedTo (int width) = .ok text ∧
      (∀ c ∈ text.toList, c.isDigit = true) ∧
      Nat.ofDigitChars 10 text.toList 0 = v.natAbs ∧
      (text.length : Int) = max width (decimalLength v.natAbs) ∧
      (text.toList.head? = some '0' ↔ v = 0 ∨ (decimalLength v.natAbs : Int) < width) ∧
      ∀ w : Int, decimalLength w.natAbs ≤ digitLimit → 0 ≤ v → 0 ≤ w →
        (int w).paddedTo (int width) = .ok text → w = v := by
  have hwrites := writesNumber_fixedWidth_max width.toNat v.natAbs
  refine ⟨_, paddedTo_int_eq_ok hv hlow hhigh, ?_⟩
  rw [← String.length_toList, String.toList_ofList]
  refine ⟨hwrites.isDigit, hwrites.value, ?_, ?_, fun w hw hv0 hw0 h => ?_⟩
  · rw [hwrites.length, length_toDigits_eq]
    have hpos : 0 < decimalLength v.natAbs := Nat.succ_pos _
    omega
  · rw [head?_fixedWidth, Int.natAbs_eq_zero]
    have hpos : 0 < decimalLength v.natAbs := Nat.succ_pos _
    omega
  · rw [paddedTo_int_eq_ok hw hlow hhigh] at h
    have htext := String.ofList_injective (Except.ok.inj h)
    have hvalue := (writesNumber_fixedWidth_max width.toNat w.natAbs).value
    rw [htext, hwrites.value] at hvalue
    omega

/-- The sign is dropped, and only what the number leaves of the width is filled with zeros. -/
theorem paddedTo_faithful_minus1986 :
    decimalLength (-1986 : Int).natAbs ≤ digitLimit ∧ -(twoTo 63 : Int) ≤ 6 ∧ (6 : Int) < twoTo 63 ∧
      (int (-1986)).paddedTo (int 6) = .ok "001986" ∧
      (∀ c ∈ "001986".toList, c.isDigit = true) ∧
      Nat.ofDigitChars 10 "001986".toList 0 = 1986 ∧
      ("001986".length : Int) = max 6 (decimalLength 1986) ∧
      ("001986".toList.head? = some '0' ↔ (-1986 : Int) = 0 ∨ (decimalLength 1986 : Int) < 6) := by
  have hlength : decimalLength (-1986 : Int).natAbs ≤ digitLimit := by
    rw [← length_toDigits_eq]
    decide
  have hlow : -(twoTo 63 : Int) ≤ 6 := by decide
  have hhigh : (6 : Int) < twoTo 63 := by decide
  have htext : (int (-1986)).paddedTo (int 6) = .ok "001986" := by decide
  obtain ⟨text, hpadded, hdigits, hvalue, hwidth, hzero, -⟩ :=
    paddedTo_faithful hlength hlow hhigh
  cases htext.symm.trans hpadded
  exact ⟨hlength, hlow, hhigh, htext, hdigits, hvalue, hwidth, hzero⟩

/-- A width below all words is refused, though a text is never shorter than its number. So is one above
them, which no text can have. -/
theorem paddedTo_beyondWord_fails :
    (¬ ∃ text, (int 5).paddedTo (int (-(twoTo 63 : Int) - 1)) = .ok text) ∧
      ¬ ∃ text, (int 5).paddedTo (int (twoTo 63)) = .ok text := by
  have hbelow : (int 5).paddedTo (int (-(twoTo 63 : Int) - 1)) = .error .widthBeyondWord := by
    decide
  have habove : (int 5).paddedTo (int (twoTo 63)) = .error .widthBeyondWord := by decide
  rw [hbelow, habove]
  refine ⟨?_, ?_⟩ <;>
  · rintro ⟨text, ⟨⟩⟩

end Argument

end DatePattern
