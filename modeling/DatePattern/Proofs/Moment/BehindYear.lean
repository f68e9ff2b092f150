import DatePattern.Moment.Coercion
import DatePattern.Proofs.Moment.IsoReading
import Mathlib.Data.List.Basic

/-! A text is a year and what stands behind it. A year of four digits is read together with the rest;
behind an expanded one the rest is read in a leap year, which the year then takes the place of. -/
namespace DatePattern

/-- What stands behind a year: a month and a day of two digits each, and then nothing, or a time
behind a letter T or a space. The text is on one line, without a blank at its end. -/
structure BehindYear (cs : List Char) : Prop where
  dashed : ∃ months days tail : List Char, ∃ month day : Nat,
    cs = '-' :: (months ++ '-' :: (days ++ tail)) ∧ WritesNumber months 2 month ∧
      WritesNumber days 2 day ∧ ∀ c ∈ tail.head?, c = 'T' ∨ c = ' '
  oneLine : '\n' ∉ cs
  lastNotBlank : ∀ c ∈ cs.getLast?, isBlank c = false

/-- The year that stands in for others, which is a leap year. -/
theorem writesNumber_standIn : WritesNumber ['2', '0', '0', '0'] 4 2000 :=
  ⟨List.all_eq_true.mp (by decide), rfl, rfl⟩

/-- It has every day of every year, the 29th of February too. -/
theorem CivilDate.IsValid.standIn {year month day : Int} (h : IsValid ⟨year, month, day⟩) :
    HasFourDigitYear ⟨(2000 : Nat), month, day⟩ ∧ IsValid ⟨(2000 : Nat), month, day⟩ := by
  obtain ⟨hm1, hm12, hd1, hlong⟩ := h
  have hyear : (1 : Int) ≤ 2000 ∧ (2000 : Int) ≤ 9999 := by decide
  exact ⟨hyear, hm1, hm12, hd1, hlong.trans (monthLength_le_leap _ _)⟩

theorem isBlank_of_visible {c : Char} (h : 33 ≤ c.toNat ∧ c.toNat ≤ 126) : isBlank c = false := by
  rw [← Bool.not_eq_true]
  intro hb
  simp only [isBlank, Bool.or_eq_true, Bool.and_eq_true, decide_eq_true_eq, beq_iff_eq] at hb
  omega

theorem dropWhile_isBlank_eq_self {cs : List Char} (h : ∀ c ∈ cs.head?, isBlank c = false) :
    cs.dropWhile isBlank = cs := by
  cases cs with
  | nil => rfl
  | cons c cs =>
    have hc : isBlank c = false := h c rfl
    exact List.dropWhile_cons_of_neg (by rw [hc]; exact Bool.false_ne_true)

theorem trimBlanks_of_ends {cs : List Char} (hfirst : ∀ c ∈ cs.head?, isBlank c = false)
    (hlast : ∀ c ∈ cs.getLast?, isBlank c = false) : trimBlanks cs = cs := by
  rw [← List.head?_reverse] at hlast
  rw [trimBlanks, dropWhile_isBlank_eq_self hfirst, dropWhile_isBlank_eq_self hlast,
    List.reverse_reverse]

namespace Moment

/-- A text that begins with a digit has no expanded year. -/
theorem expandedYear?_eq_none {cs : List Char} {k n : Nat} (hd : WritesNumber cs (k + 1) n)
    (rest : List Char) : expandedYear? (cs ++ rest) = none := by
  obtain ⟨c, cs, rfl⟩ := List.exists_cons_of_length_eq_add_one hd.length
  have hc := hd.isDigit c List.mem_cons_self
  have hsign : ¬ (c = '+' ∨ c = '-') := by
    rintro (rfl | rfl)
    · exact absurd hc (by decide)
    · exact absurd hc (by decide)
  rw [List.cons_append]
  exact if_neg hsign

/-- A sign, digits and what begins with a hyphen behind them are taken apart again. -/
theorem expandedYear?_signed {sign : Char} {digits rest : List Char} {k n : Nat}
    (hsign : sign = '+' ∨ sign = '-') (hd : WritesNumber digits k n) (hk : 4 ≤ k)
    (hline : '\n' ∉ rest) :
    expandedYear? (sign :: (digits ++ '-' :: rest)) =
      some (decide (sign = '-'), digits, '-' :: rest) := by
  have hhyphen : ¬ (digitValue? '-').isSome = true := by decide
  have hvalue : ∀ c ∈ digits, (digitValue? c).isSome = true := by
    intro c hc
    rw [digitValue?_of_isDigit (hd.isDigit c hc)]
    rfl
  have htake : (digits ++ '-' :: rest).takeWhile (fun c => (digitValue? c).isSome) = digits := by
    rw [List.takeWhile_append_of_pos hvalue,
      List.takeWhile_cons_of_neg (p := fun c => (digitValue? c).isSome) hhyphen, List.append_nil]
  have hdrop : (digits ++ '-' :: rest).dropWhile (fun c => (digitValue? c).isSome) =
      '-' :: rest := by
    rw [List.dropWhile_append_of_pos hvalue,
      List.dropWhile_cons_of_neg (p := fun c => (digitValue? c).isSome) hhyphen]
  have hcontains : ('-' :: rest).contains '\n' = false := by
    rw [List.contains_eq_mem, decide_eq_false_iff_not, List.mem_cons]
    rintro (h | h)
    · exact absurd h (by decide)
    · exact hline h
  simp only [expandedYear?, hsign, htake, hdrop, hcontains, hd.length, hk]
  rfl

/-- Two digits for month and day each, and nothing or a time behind them. -/
theorem isMonthDay_dashed {months days tail : List Char} {month day : Nat}
    (hm : WritesNumber months 2 month) (hd : WritesNumber days 2 day)
    (htail : ∀ c ∈ tail.head?, c = 'T' ∨ c = ' ') :
    isMonthDay ('-' :: (months ++ '-' :: (days ++ tail))) = true := by
  obtain ⟨a, b, rfl⟩ := List.length_eq_two.mp hm.length
  obtain ⟨c, d, rfl⟩ := List.length_eq_two.mp hd.length
  have hvalue (e : Char) (he : e.isDigit = true) : (digitValue? e).isSome = true := by
    rw [digitValue?_of_isDigit he]
    rfl
  have hall : [a, b, c, d].all (fun e => (digitValue? e).isSome) = true := by
    simp only [List.all_cons, List.all_nil, Bool.and_true, Bool.and_eq_true]
    exact ⟨hvalue a (hm.isDigit a (by simp)), hvalue b (hm.isDigit b (by simp)),
      hvalue c (hd.isDigit c (by simp)), hvalue d (hd.isDigit d (by simp))⟩
  refine Bool.and_eq_true_iff.mpr ⟨hall, ?_⟩
  cases tail with
  | nil => rfl
  | cons e tail => rcases htail e rfl with rfl | rfl <;> rfl

theorem countsDigits_int (k : Int) (count : Nat) :
    countsDigits (.int k) count = .ok (4 + k == count) := by
  rw [countsDigits, Argument.add_int, Argument.ok_bind, Argument.equalsInt_int]

end Moment

namespace BehindYear

variable {rest : List Char}

theorem ne_nil (h : BehindYear rest) : rest ≠ [] := by
  obtain ⟨months, days, tail, month, day, rfl, -⟩ := h.dashed
  exact List.cons_ne_nil _ _

theorem isMonthDay (h : BehindYear rest) : Moment.isMonthDay rest = true := by
  obtain ⟨months, days, tail, month, day, rfl, hm, hd, htail⟩ := h.dashed
  exact Moment.isMonthDay_dashed hm hd htail

/-- A text that begins with a sign or a digit has no blanks at its ends. -/
theorem trimBlanks_cons_append {c : Char} (cs : List Char) (hc : 33 ≤ c.toNat ∧ c.toNat ≤ 126)
    (h : BehindYear rest) : trimBlanks (c :: (cs ++ rest)) = c :: (cs ++ rest) := by
  apply trimBlanks_of_ends
  · rintro d ⟨⟩
    exact isBlank_of_visible hc
  · rw [← List.cons_append, List.getLast?_append_of_ne_nil _ h.ne_nil]
    exact h.lastNotBlank

end BehindYear

namespace Moment

variable {ys digits rest : List Char} {y k n : Nat}

theorem ofText_plainYear (hy : WritesNumber ys 4 y) (hrest : BehindYear rest)
    (extraDigits : Argument) :
    ofText (String.ofList (ys ++ rest)) extraDigits =
      ((IsoText.read? (ys ++ rest)).map
        fun s => (ofStamp s).mapError Fault.moment).getD (.ok invalid) := by
  have htrim : trimBlanks (ys ++ rest) = ys ++ rest := by
    obtain ⟨c, cs, rfl⟩ := List.exists_cons_of_length_eq_add_one hy.length
    have := toNat_of_isDigit (hy.isDigit c List.mem_cons_self)
    exact hrest.trimBlanks_cons_append cs (by omega)
  have hplain : expandedYear? (ys ++ rest) = none := expandedYear?_eq_none hy rest
  simp only [ofText, String.toList_ofList, htrim, hplain]
  cases IsoText.read? (ys ++ rest) with
  | none => rfl
  | some s => rfl

theorem ofText_signedYear {sign : Char} (hsign : sign = '+' ∨ sign = '-')
    (hd : WritesNumber digits (k + 4) n) (hrest : BehindYear rest) :
    ofText (String.ofList (sign :: (digits ++ rest))) (.int k) =
      ((orInvalid (ofExpandedYear (decide (sign = '-')) digits rest)).mapError Fault.moment).map
        bounded := by
  have hvisible : 33 ≤ sign.toNat ∧ sign.toNat ≤ 126 := by
    rcases hsign with rfl | rfl
    · decide
    · decide
  have htrim : trimBlanks (sign :: (digits ++ rest)) = sign :: (digits ++ rest) :=
    hrest.trimBlanks_cons_append digits hvisible
  have hexpanded : expandedYear? (sign :: (digits ++ rest)) =
      some (decide (sign = '-'), digits, rest) := by
    obtain ⟨months, days, tail, month, day, rfl, -⟩ := hrest.dashed
    exact expandedYear?_signed hsign hd (by omega) fun h =>
      hrest.oneLine (List.mem_cons_of_mem _ h)
  have hcount : countsDigits (.int k) digits.length = .ok true := by
    rw [countsDigits_int, hd.length, Int.add_comm]
    exact congrArg Except.ok (beq_self_eq_true _)
  simp only [ofText, String.toList_ofList, htrim, hexpanded, hcount]
  rfl

/-- An expanded year is put into what is read behind the year that stands in for it. -/
theorem ofExpandedYear_eq (hd : WritesNumber digits k n) (hk : k ≤ digitLimit)
    (hrest : BehindYear rest) (negative : Bool) :
    ofExpandedYear negative digits rest =
      ((IsoText.read? (['2', '0', '0', '0'] ++ rest)).map
        (ofStampInYear (signed negative n))).getD (.ok invalid) := by
  have hlimit : ¬ digitLimit < digits.length := by
    rw [hd.length]
    omega
  have hempty : ¬ rest.isEmpty = true := by
    rw [List.isEmpty_iff]
    exact hrest.ne_nil
  rw [ofExpandedYear, if_neg hlimit, leadingNumber_of_writesNumber hd]
  simp only [if_neg hempty, if_pos hrest.isMonthDay]
  cases IsoText.read? (['2', '0', '0', '0'] ++ rest) with
  | none => rfl
  | some t => rfl

end Moment

/-- The text of a reading behind its year is in this form. -/
theorem behindYear_isoRest {w : WallClock} (hw : w.InRange) (offset : Int) :
    BehindYear (isoRest w offset) where
  dashed := by
    obtain ⟨hmonth, hday⟩ := WallClock.natAbs_monthDay_le hw
    refine ⟨_, _, _, _, _, isoRest_eq w offset, writesNumber_two (by omega),
      writesNumber_two (by omega), ?_⟩
    rintro c ⟨⟩
    exact .inl rfl
  oneLine h := absurd (toNat_of_mem_isoRest h).1 (by decide)
  lastNotBlank c hc := by
    have := toNat_of_mem_isoRest (List.mem_of_getLast? hc)
    exact isBlank_of_visible (by omega)

end DatePattern
