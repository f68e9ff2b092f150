import DatePattern.Moment.IsoText
import DatePattern.Text.Digit

/-! Numerals of a fixed width: what padding with zeros writes, the readers of digits read. -/
namespace DatePattern

/-- The text is a number in exactly `width` digits of ASCII. -/
structure WritesNumber (cs : List Char) (width n : Nat) : Prop where
  isDigit : ∀ c ∈ cs, c.isDigit = true
  length : cs.length = width
  value : Nat.ofDigitChars 10 cs 0 = n

/-- A number in so many digits, or more where it does not fit. -/
def fixedWidth (width n : Nat) : List Char := padZeros width (Nat.toDigits 10 n)

theorem isDigit_of_mem_fixedWidth {width n : Nat} {c : Char} (h : c ∈ fixedWidth width n) :
    c.isDigit = true := by
  rcases List.mem_append.mp h with h | h
  · rw [(List.mem_replicate.mp h).2]
    rfl
  · exact Nat.isDigit_of_mem_toDigits (by decide) (by decide) h

/-- A number that is too wide is written whole. -/
theorem writesNumber_fixedWidth_max (width n : Nat) :
    WritesNumber (fixedWidth width n) (max width (Nat.toDigits 10 n).length) n where
  isDigit _ hc := isDigit_of_mem_fixedWidth hc
  length := by
    rw [fixedWidth, padZeros, List.length_append, List.length_replicate]
    omega
  value := by
    rw [fixedWidth, padZeros, Nat.ofDigitChars_append, Nat.ofDigitChars_replicate_zero,
      Nat.mul_zero, Nat.ofDigitChars_ten_toDigits]

theorem writesNumber_fixedWidth {width n : Nat} (hw : 0 < width) (h : n < tenTo width) :
    WritesNumber (fixedWidth width n) width n := by
  have hfits := (Nat.length_toDigits_le_iff (by decide) hw).mpr h
  have hwhole := writesNumber_fixedWidth_max width n
  rwa [Nat.max_eq_left hfits] at hwhole

theorem writesNumber_two {n : Nat} (h : n ≤ 99) : WritesNumber (fixedWidth 2 n) 2 n :=
  writesNumber_fixedWidth (by decide) (show n < 100 by omega)

/-- One digit more at the end. -/
theorem fixedWidth_succ {width : Nat} (hw : 0 < width) (n : Nat) :
    fixedWidth (width + 1) n = fixedWidth width (n / 10) ++ [Nat.digitChar (n % 10)] := by
  have hnone : n < 10 → Nat.toDigits 10 (n / 10) = ['0'] := by
    intro h
    rw [Nat.div_eq_of_lt h]
    rfl
  by_cases h : n < 10
  · obtain ⟨k, rfl⟩ : ∃ k, width = k + 1 := ⟨width - 1, by omega⟩
    have hzeros : List.replicate (k + 1) '0' = List.replicate k '0' ++ ['0'] :=
      List.replicate_succ'
    rw [fixedWidth, fixedWidth, padZeros, padZeros, hnone h, Nat.toDigits_of_lt_base h,
      Nat.mod_eq_of_lt h]
    exact congrArg (· ++ [Nat.digitChar n]) hzeros
  · have hdigits : Nat.toDigits 10 n = Nat.toDigits 10 (n / 10) ++ [Nat.digitChar (n % 10)] := by
      rw [Nat.toDigits_eq_if (by decide), if_neg h]
    have hpadding : ((width + 1 : Nat) : Int).toNat - (Nat.toDigits 10 n).length =
        (width : Int).toNat - (Nat.toDigits 10 (n / 10)).length := by
      rw [hdigits, List.length_append, List.length_singleton]
      omega
    rw [fixedWidth, fixedWidth, padZeros, padZeros, hpadding, hdigits, List.append_assoc]

/-- Zeros before a number make it wider. -/
theorem WritesNumber.zeros_append {cs : List Char} {width n : Nat} (h : WritesNumber cs width n)
    (k : Nat) : WritesNumber (List.replicate k '0' ++ cs) (k + width) n where
  isDigit c hc := by
    rcases List.mem_append.mp hc with hzero | hdigit
    · rw [(List.mem_replicate.mp hzero).2]
      rfl
    · exact h.isDigit c hdigit
  length := by rw [List.length_append, List.length_replicate, h.length]
  value := by
    rw [Nat.ofDigitChars_append, Nat.ofDigitChars_replicate_zero, Nat.mul_zero, h.value]

/-- A number that fits into a width below the limit is written. -/
theorem paddedNumeral?_eq_some {n : Int} {width : Nat} (hw : 0 < width) (hle : width ≤ digitLimit)
    (h : n.natAbs < tenTo width) :
    paddedNumeral? n width = some (String.ofList (fixedWidth width n.natAbs)) := by
  have hlen := (Nat.length_toDigits_le_iff (by decide) hw).mpr h
  rw [paddedNumeral?, digits?, if_pos (Nat.le_trans hlen hle)]
  rfl

theorem isDigits_of_writesNumber {cs : List Char} {width n : Nat} (h : WritesNumber cs width n)
    (hw : 0 < width) : (cs.isEmpty || !cs.all Char.isDigit) = false := by
  have hne : cs ≠ [] := by
    rintro rfl
    exact absurd h.length (Nat.ne_of_lt hw)
  rw [List.isEmpty_eq_false_iff.mpr hne, List.all_eq_true.mpr h.isDigit]
  rfl

/-- Digits are read as an integer. -/
theorem integer?_of_writesNumber {cs : List Char} {width n : Nat} (h : WritesNumber cs width n)
    (hw : 0 < width) : integer? cs = some n := by
  have hunsigned : splitSign cs = (false, cs) := by
    rw [splitSign]
    · rintro rest rfl
      exact absurd (h.isDigit '-' List.mem_cons_self) (by decide)
    · rintro rest rfl
      exact absurd (h.isDigit '+' List.mem_cons_self) (by decide)
  rw [integer?, hunsigned]
  simp only [isDigits_of_writesNumber h hw, h.value]
  rfl

/-- Digits behind a minus sign are read as the integer below zero. -/
theorem integer?_minus_of_writesNumber {cs : List Char} {width n : Nat}
    (h : WritesNumber cs width n) (hw : 0 < width) : integer? ('-' :: cs) = some (-(n : Int)) := by
  rw [integer?, splitSign]
  simp only [isDigits_of_writesNumber h hw, h.value]
  rfl

/-- No number but zero begins with a zero. -/
theorem head?_toDigits {n : Nat} (h : 0 < n) : (Nat.toDigits 10 n).head? ≠ some '0' := by
  induction n using Nat.strongRecOn with
  | ind n ih =>
    rcases Nat.lt_or_ge n 10 with hten | hten
    · have hdigit : ∀ k < 10, 0 < k → [Nat.digitChar k].head? ≠ some '0' := by decide
      rw [Nat.toDigits_of_lt_base hten]
      exact hdigit n hten h
    · rw [Nat.toDigits_eq_if (by decide), if_neg (Nat.not_lt.mpr hten)]
      have hhead := ih (n / 10) (by omega) (by omega)
      cases hdigits : Nat.toDigits 10 (n / 10) with
      | nil => exact absurd hdigits Nat.toDigits_ne_nil
      | cons c cs =>
        rw [hdigits] at hhead
        exact hhead

theorem toNat_toUInt8_ascii {c : Char} (h : c.toNat < 128) : c.toUInt8.toNat = c.toNat := by
  rw [Char.toUInt8, UInt32.toNat_toUInt8, Char.toNat_val]
  omega

theorem bytesOf_ascii {cs : List Char} (h : ∀ c ∈ cs, c.toNat < 128) :
    IsoText.bytesOf cs = cs.map Char.toUInt8 := by
  induction cs with
  | nil => rfl
  | cons c cs ih =>
    have hc : c.toNat < 128 := h c List.mem_cons_self
    have hsize : c.utf8Size = 1 := by
      rw [Char.utf8Size_eq_one_iff, UInt32.le_iff_toNat_le, Char.toNat_val]
      change c.toNat ≤ 127
      omega
    rw [IsoText.bytesOf, List.flatMap_cons, String.utf8EncodeChar_eq_singleton hsize]
    exact congrArg _ (ih fun d hd => h d (List.mem_cons_of_mem _ hd))

theorem toNat_of_isDigit {c : Char} (h : c.isDigit = true) : 48 ≤ c.toNat ∧ c.toNat ≤ 57 :=
  Char.isDigit_iff_toNat.mp h

theorem bytesOf_append (cs ds : List Char) :
    IsoText.bytesOf (cs ++ ds) = IsoText.bytesOf cs ++ IsoText.bytesOf ds :=
  List.flatMap_append

theorem bytesOf_digits {cs : List Char} {width n : Nat} (h : WritesNumber cs width n) :
    IsoText.bytesOf cs = cs.map Char.toUInt8 := by
  refine bytesOf_ascii fun c hc => ?_
  have := toNat_of_isDigit (h.isDigit c hc)
  omega

theorem toNat_of_mem_fixedWidth {width n : Nat} {c : Char} (h : c ∈ fixedWidth width n) :
    48 ≤ c.toNat ∧ c.toNat ≤ 57 :=
  toNat_of_isDigit (isDigit_of_mem_fixedWidth h)

theorem isDigitByte_toUInt8 {c : Char} (h : c.isDigit = true) :
    IsoText.isDigitByte c.toUInt8 = true := by
  have hc := toNat_of_isDigit h
  rw [IsoText.isDigitByte, toNat_toUInt8_ascii (by omega)]
  simpa using hc

/-- Digits of ASCII have their value in every script's eyes. -/
theorem digitValue?_of_isDigit {c : Char} (h : c.isDigit = true) :
    digitValue? c = some (c.toNat - 48) := by
  have hc := toNat_of_isDigit h
  have hfind : scriptZeros.find? (fun z => decide (z ≤ c.toNat ∧ c.toNat < z + 10)) = some 48 :=
    List.find?_cons_of_pos (decide_eq_true ⟨hc.1, by omega⟩)
  rw [digitValue?, hfind]
  rfl

/-- The reader takes the digits of the width and leaves what is behind them. -/
theorem digits_append {cs : List Char} {k n : Nat} (h : WritesNumber cs k n) (rest : List UInt8) :
    IsoText.digits k (cs.map Char.toUInt8 ++ rest) = some (n, rest) := by
  induction cs generalizing k n with
  | nil =>
    obtain ⟨-, rfl, rfl⟩ := h
    rfl
  | cons c cs ih =>
    obtain ⟨hdigit, rfl, rfl⟩ := h
    have hc := hdigit c List.mem_cons_self
    have htail : WritesNumber cs cs.length (Nat.ofDigitChars 10 cs 0) :=
      ⟨fun d hd => hdigit d (List.mem_cons_of_mem _ hd), rfl, rfl⟩
    have hbyte := isDigitByte_toUInt8 hc
    have hnat : c.toUInt8.toNat = c.toNat :=
      toNat_toUInt8_ascii (by have := toNat_of_isDigit hc; omega)
    have hvalue : Nat.ofDigitChars 10 (c :: cs) 0 =
        (c.toNat - 48) * tenTo cs.length + Nat.ofDigitChars 10 cs 0 := by
      rw [Nat.ofDigitChars_cons, Nat.ofDigitChars_eq_ofDigitChars_zero, Nat.mul_zero, Nat.zero_add,
        Nat.mul_comm]
      rfl
    rw [List.map_cons, List.cons_append, List.length_cons, IsoText.digits, if_pos hbyte, ih htail,
      hnat, hvalue]
    rfl

/-- So does the reader of leading digits, where no digit follows. -/
theorem leadingNumber_of_writesNumber {cs : List Char} {k n : Nat} (h : WritesNumber cs k n) :
    leadingNumber cs = (n, k) := by
  obtain ⟨hdigit, rfl, rfl⟩ := h
  have hgo : ∀ value count, leadingNumber.go value count cs =
      (Nat.ofDigitChars 10 cs value, count + cs.length) := by
    induction cs with
    | nil => exact fun _ _ => rfl
    | cons c cs ih =>
      intro value count
      have hc := digitValue?_of_isDigit (hdigit c List.mem_cons_self)
      rw [leadingNumber.go, hc, Nat.ofDigitChars_cons, List.length_cons]
      simp only
      rw [ih fun d hd => hdigit d (List.mem_cons_of_mem _ hd)]
      exact Prod.ext (by rw [Nat.mul_comm]; rfl) (by simp only; omega)
  rw [leadingNumber, hgo, Nat.zero_add]

end DatePattern
