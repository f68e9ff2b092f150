import DatePattern.Proofs.Pattern.OneLetter

/-! The digits of a fraction of a second. They are those of its decimal expansion, cut off and never
rounded; so fewer letters show the beginning of what more letters show. -/
namespace DatePattern

/-- The digit at a place behind the point, counted from zero, in the decimal expansion of so many
thousandths. -/
def thousandthsDigit (ms place : Nat) : Char := Nat.digitChar (ms * tenTo (place + 1) / 1000 % 10)

section

variable {ms n : Nat}

theorem mul_tenTo_succ_div_div (ms n : Nat) :
    ms * tenTo (n + 1) / 1000 / 10 = ms * tenTo n / 1000 := by
  have hpow : ms * tenTo (n + 1) = ms * tenTo n * 10 := by
    rw [tenTo_add, ← Nat.mul_assoc]
    rfl
  rw [Nat.div_div_eq_div_mul, hpow, Nat.mul_div_mul_right _ 1000 (by decide)]

theorem thousandths_lt (hms : ms ≤ 999) (n : Nat) : ms * tenTo n / 1000 < tenTo n := by
  rw [Nat.div_lt_iff_lt_mul (by decide), Nat.mul_comm (tenTo n)]
  exact Nat.mul_lt_mul_of_pos_right (by omega) (tenTo_pos n)

/-- Both branches, of up to three digits and of more, are one floor. -/
theorem fractionDigits_natCast (ms n : Nat) :
    fractionDigits ms n = ((ms * tenTo n / 1000 : Nat) : Int) := by
  rw [fractionDigits]
  split_ifs with hshort
  · obtain ⟨rest, hrest⟩ : ∃ rest, n + rest = 3 := ⟨3 - n, by omega⟩
    have hpow : tenTo n * tenTo rest = 1000 := by
      rw [← tenTo_add, hrest]
      rfl
    have hplace : (3 - (n : Int)).toNat = rest := by omega
    rw [hplace, ← hpow, Nat.mul_comm (tenTo n), Nat.mul_div_mul_right _ _ (tenTo_pos n)]
    rfl
  · obtain ⟨more, rfl⟩ : ∃ more, n = 3 + more := ⟨n - 3, by omega⟩
    have hthree : tenTo 3 = 1000 := rfl
    have hplace : (((3 + more : Nat) : Int) - 3).toNat = more := by omega
    rw [hplace, Nat.add_comm, tenTo_add, hthree, ← Nat.mul_assoc,
      Nat.mul_div_cancel _ (by decide)]
    rfl

/-- In one digit more the number has the next digit of the expansion at its end. -/
theorem fixedWidth_thousandths (hms : ms ≤ 999) (hn : 1 ≤ n) :
    fixedWidth n (ms * tenTo n / 1000) = (List.range n).map (thousandthsDigit ms) := by
  induction n, hn using Nat.le_induction with
  | base =>
    have hdigit : ms * tenTo 1 / 1000 < 10 := thousandths_lt hms 1
    rw [fixedWidth, Nat.toDigits_of_lt_base hdigit, List.range_one, List.map_singleton,
      thousandthsDigit, Nat.mod_eq_of_lt hdigit]
    rfl
  | succ n hn ih =>
    rw [fixedWidth_succ hn, mul_tenTo_succ_div_div, ih, List.range_succ, List.map_append]
    rfl

end

variable {d : Dated} {m : Moment} {options : Argument} {o : Options} {l : Localizer}

/-- A fraction of a second in `n` letters is exactly `n` digits: the first ones of the decimal
expansion. Together they are the number of whole parts, rounded down. Fewer letters show the
beginning of what more letters show. -/
theorem formatLetters_fraction (ho : Options.ofArgument options = .ok o)
    (hplain : o.ordinal = false) (hd : d.Shows m) (hl : l.WritesNumbers) {n k : Nat} (hn : 1 ≤ n)
    (hnk : n ≤ k) (hk : k ≤ digitLimit) :
    ∃ ms : Nat, m.wall.millisecond = ms ∧ ∃ text longer,
      (formatLetters d options l 'S' n).Yields (· = text) ∧
      (formatLetters d options l 'S' k).Yields (· = longer) ∧
      WritesNumber text.toList n (ms * tenTo n / 1000) ∧
      text.toList = (List.range n).map (thousandthsDigit ms) ∧
      text.toList <+: longer.toList := by
  obtain ⟨epochMs, hinstant⟩ := hd.exists_instant
  obtain ⟨ms, hms, hsmall⟩ : ∃ ms : Nat, m.wall.millisecond = ms ∧ ms ≤ 999 := by
    obtain ⟨-, -, -, -, -, hlow, hhigh⟩ := Moment.wall_inRange hinstant
    exact ⟨m.wall.millisecond.toNat, by omega, by omega⟩
  have hletter : Field.ofLetter? 'S' = some .fraction := rfl
  have hyields {n : Nat} (hn : 1 ≤ n) (hle : n ≤ digitLimit) :
      (formatLetters d options l 'S' n).Yields
        (· = String.ofList ((List.range n).map (thousandthsDigit ms))) := by
    have hlong : ¬ IsTooLong (fractionDigits ms n).natAbs := by
      rw [fractionDigits_natCast, Int.natAbs_natCast]
      exact not_isTooLong_of_lt hle (thousandths_lt hsmall n)
    have hrequest : Field.fraction.request n m o = .ok (.number (fractionDigits ms n) n o none) := by
      rw [Field.request, hms]
    have hnumber := yields_number ho hd hletter hn hplain hl hlong hrequest
    rwa [fractionDigits_natCast, Int.natAbs_natCast, fixedWidth_thousandths hsmall hn] at hnumber
  refine ⟨ms, hms, _, _, hyields hn (Nat.le_trans hnk hk), hyields (Nat.le_trans hn hnk) hk, ?_⟩
  simp only [String.toList_ofList]
  refine ⟨?_, trivial, ?_⟩
  · rw [← fixedWidth_thousandths hsmall hn]
    exact writesNumber_fixedWidth hn (thousandths_lt hsmall n)
  · obtain ⟨more, rfl⟩ := Nat.exists_eq_add_of_le hnk
    rw [List.range_add, List.map_append]
    exact List.prefix_append _ _

/-- Seven milliseconds have zeros in front at every length. -/
theorem formatLetters_fraction_sevenMilliseconds :
    let m : Moment := ⟨⟨2024, 0, 1, 0, 0, 0, 7⟩, some 1704067200007, 0, fun _ => by decide⟩
    Options.ofArgument .absent = .ok .unset ∧ Options.unset.ordinal = false ∧
    (Dated.moment m).Shows m ∧ Localizer.english.WritesNumbers ∧
    (formatLetters (.moment m) .absent .english 'S' 2).Yields (· = "00") ∧
    (formatLetters (.moment m) .absent .english 'S' 5).Yields (· = "00700") := by
  intro m
  have ho : Options.ofArgument .absent = .ok .unset := rfl
  have hd : (Dated.moment m).Shows m := ⟨rfl, rfl⟩
  have hl := Localizer.writesNumbers_english
  have hshown {n : Nat} (hn : 1 ≤ n) (hle : n ≤ digitLimit) :
      (formatLetters (.moment m) .absent .english 'S' n).Yields
        (· = String.ofList ((List.range n).map (thousandthsDigit 7))) := by
    obtain ⟨ms, hms, text, -, htext, -, -, hdigits, -⟩ :=
      formatLetters_fraction ho rfl hd hl hn (Nat.le_refl n) hle
    obtain rfl : 7 = ms := Int.ofNat_inj.mp hms
    rwa [← hdigits, String.ofList_toList]
  exact ⟨ho, rfl, hd, hl, hshown (by decide) (by decide), hshown (by decide) (by decide)⟩

end DatePattern
