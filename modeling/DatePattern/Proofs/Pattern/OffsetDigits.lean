import DatePattern.Proofs.Moment.IsoReading
import DatePattern.Proofs.Pattern.OneLetter

/-! The digits of an offset. Its text is read back: the sign, the hours and the minutes below sixty
make up the offset, and below a hundred hours no two offsets have the same text. -/
namespace DatePattern

/-- The sign in front of an amount makes it the number. Zero has a plus. -/
def Signs (sign : Char) (amount : Nat) (k : Int) : Prop :=
  sign = '+' ∧ k = amount ∨ sign = '-' ∧ k = -amount ∧ k ≠ 0

/-- A sign and hours in so many digits come to so many minutes. -/
def WritesHours (cs : List Char) (width : Nat) (k : Int) : Prop :=
  ∃ sign digits hours,
    cs = sign :: digits ∧ WritesNumber digits width hours ∧ Signs sign (60 * hours) k

/-- A sign, hours in so many digits, and behind a text between them minutes below sixty in two digits
come to so many minutes. -/
def WritesHoursAndMinutes (between cs : List Char) (width : Nat) (k : Int) : Prop :=
  ∃ sign hourDigits minuteDigits hours minutes,
    cs = sign :: (hourDigits ++ between ++ minuteDigits) ∧ WritesNumber hourDigits width hours ∧
    WritesNumber minuteDigits 2 minutes ∧ minutes < 60 ∧ Signs sign (60 * hours + minutes) k

/-- The text between hours and minutes: a colon in three letters and in more than four. -/
def offsetColon (n : Nat) : List Char := if n = 3 ∨ 5 ≤ n then [':'] else []

section

variable {k k' : Int} {between cs : List Char} {width width' n : Nat}

theorem signs_isoSign (k : Int) : Signs (isoSign k) k.natAbs k := by
  unfold isoSign
  split
  · left
    exact ⟨rfl, by omega⟩
  · right
    exact ⟨rfl, by omega, by omega⟩

theorem Signs.eq {sign : Char} {amount : Nat} (h : Signs sign amount k) (h' : Signs sign amount k') :
    k = k' := by
  rcases h with ⟨rfl, h⟩ | ⟨rfl, h, -⟩ <;> rcases h' with ⟨hsign, h'⟩ | ⟨hsign, h', -⟩
  · rw [h, h']
  · cases hsign
  · cases hsign
  · rw [h, h']

theorem WritesHours.length_eq (h : WritesHours cs width k) : cs.length = width + 1 := by
  obtain ⟨sign, digits, hours, rfl, hdigits, -⟩ := h
  rw [List.length_cons, hdigits.length]

theorem WritesHoursAndMinutes.length_eq (h : WritesHoursAndMinutes between cs width k) :
    cs.length = width + between.length + 3 := by
  obtain ⟨sign, hourDigits, minuteDigits, hours, minutes, rfl, hhours, hminutes, -⟩ := h
  rw [List.length_cons, List.length_append, List.length_append, hhours.length, hminutes.length]

/-- The digits tell the hours, and with the sign the offset. -/
theorem WritesHours.eq (h : WritesHours cs width k) (h' : WritesHours cs width' k') : k = k' := by
  obtain ⟨sign, digits, hours, rfl, hdigits, hsign⟩ := h
  obtain ⟨sign', digits', hours', heq, hdigits', hsign'⟩ := h'
  obtain ⟨rfl, rfl⟩ := List.cons.inj heq
  obtain rfl : hours = hours' := hdigits.value.symm.trans hdigits'.value
  exact hsign.eq hsign'

/-- The last two characters are the minutes, so that the hours may have any number of digits. -/
theorem WritesHoursAndMinutes.eq (h : WritesHoursAndMinutes between cs width k)
    (h' : WritesHoursAndMinutes between cs width' k') : k = k' := by
  obtain ⟨sign, hourDigits, minuteDigits, hours, minutes, rfl, hhours, hminutes, -, hsign⟩ := h
  obtain ⟨sign', hourDigits', minuteDigits', hours', minutes', heq, hhours', hminutes', -, hsign'⟩ :=
    h'
  obtain ⟨rfl, htail⟩ := List.cons.inj heq
  have hlast := hminutes.length.trans hminutes'.length.symm
  obtain ⟨hfront, rfl⟩ := List.append_inj' htail hlast
  obtain rfl := List.append_cancel_right hfront
  obtain rfl : hours = hours' := hhours.value.symm.trans hhours'.value
  obtain rfl : minutes = minutes' := hminutes.value.symm.trans hminutes'.value
  exact hsign.eq hsign'

/-- The number of digits of the hours. -/
def hourWidth (k : Int) : Nat := max 2 (Nat.toDigits 10 (k.natAbs / 60)).length

theorem hourWidth_eq_two (hk : k.natAbs < 6000) : hourWidth k = 2 := by
  have hfits := (length_toDigits_le_iff (k := 2) (by decide) (k.natAbs / 60)).mpr
    (show k.natAbs / 60 < 100 by omega)
  exact Nat.max_eq_left hfits

theorem writesHours_fixedWidth (hwhole : k % 60 = 0) :
    WritesHours (isoSign k :: fixedWidth 2 (k.natAbs / 60)) (hourWidth k) k := by
  have hsize : 60 * (k.natAbs / 60) = k.natAbs := by omega
  refine ⟨_, _, _, rfl, writesNumber_fixedWidth_max 2 (k.natAbs / 60), ?_⟩
  rw [hsize]
  exact signs_isoSign k

theorem writesHoursAndMinutes_fixedWidth (between : List Char) (k : Int) :
    WritesHoursAndMinutes between
      (isoSign k :: (fixedWidth 2 (k.natAbs / 60) ++ between ++ fixedWidth 2 (k.natAbs % 60)))
      (hourWidth k) k := by
  have hminutes : k.natAbs % 60 < 60 := Nat.mod_lt _ (by decide)
  refine ⟨_, _, _, _, _, rfl, writesNumber_fixedWidth_max 2 (k.natAbs / 60),
    writesNumber_two (by omega), hminutes, ?_⟩
  rw [Nat.div_add_mod]
  exact signs_isoSign k

theorem offsetSign_eq (k : Int) : offsetSign k = String.ofList [isoSign k] := by
  rw [offsetSign, isoSign]
  split <;> rfl

theorem not_zulu : ¬ (false = true ∧ k = 0) := fun h => Bool.false_ne_true h.1

section

variable (hlong : ¬ IsTooLong (k.natAbs / 60))
include hlong

theorem paddedNumeral?_hours :
    paddedNumeral? (k.natAbs / 60) 2 = some (String.ofList (fixedWidth 2 (k.natAbs / 60))) :=
  paddedNumeral?_of_not_isTooLong hlong 2

theorem hoursAndMinutes_eq_ok (between : List Char) :
    hoursAndMinutes k (String.ofList between) = .ok (String.ofList (isoSign k ::
      (fixedWidth 2 (k.natAbs / 60) ++ between ++ fixedWidth 2 (k.natAbs % 60)))) := by
  have hminutes : ¬ IsTooLong (k.natAbs % 60) := not_isTooLong_of_le_999 (by omega)
  have hrest : paddedNumeral? (k.natAbs % 60) 2 =
      some (String.ofList (fixedWidth 2 (k.natAbs % 60))) :=
    paddedNumeral?_of_not_isTooLong hminutes 2
  rw [hoursAndMinutes, paddedNumeral?_hours hlong, hrest, offsetSign_eq]
  simp only [← String.ofList_append, List.append_assoc, List.cons_append, List.nil_append]

theorem offsetRequest_of_two_le (hn : 2 ≤ n) :
    offsetRequest false n k = .ok (String.ofList (isoSign k ::
      (fixedWidth 2 (k.natAbs / 60) ++ offsetColon n ++ fixedWidth 2 (k.natAbs % 60)))) := by
  rw [← hoursAndMinutes_eq_ok hlong, offsetRequest, if_neg not_zulu, if_neg (by omega), offsetColon]
  by_cases hcolon : n = 3 ∨ 5 ≤ n
  · rw [if_neg (by omega), if_pos hcolon]
  · rw [if_pos (by omega), if_neg hcolon]

theorem offsetRequest_one_of_whole (hwhole : k % 60 = 0) :
    offsetRequest false 1 k =
      .ok (String.ofList (isoSign k :: fixedWidth 2 (k.natAbs / 60))) := by
  rw [offsetRequest, if_neg not_zulu, if_pos rfl, if_pos hwhole, paddedNumeral?_hours hlong,
    offsetSign_eq]
  simp only [← String.ofList_append, List.singleton_append]

theorem offsetRequest_one_of_not_whole (hwhole : k % 60 ≠ 0) :
    offsetRequest false 1 k = .ok (String.ofList (isoSign k ::
      (fixedWidth 2 (k.natAbs / 60) ++ [] ++ fixedWidth 2 (k.natAbs % 60)))) := by
  rw [← hoursAndMinutes_eq_ok hlong, offsetRequest, if_neg not_zulu, if_pos rfl, if_neg hwhole]

end

theorem offsetRequest_of_isTooLong (length : Int) (hlong : IsTooLong (k.natAbs / 60)) :
    offsetRequest false length k = .error (.argument .numeralTooLong) := by
  rcases succeeds_offsetRequest k false length with ⟨-, h⟩ | ⟨hshort, -⟩
  · exact h
  · exact absurd hlong hshort

theorem offsetRequest_zulu (length : Int) (hk : k ≠ 0) :
    offsetRequest true length k = offsetRequest false length k := by
  have hzero : ¬ (true = true ∧ k = 0) := fun h => hk h.2
  rw [offsetRequest, offsetRequest, if_neg hzero, if_neg not_zulu]

/-- The text of an offset below a hundred hours in so many letters. -/
inductive IsOffsetText (n : Nat) (cs : List Char) (k : Int) : Prop
  | hours (hone : n = 1) (hwhole : k % 60 = 0) (h : WritesHours cs 2 k)
  | hoursAndMinutes (hrest : n = 1 → k % 60 ≠ 0)
    (h : WritesHoursAndMinutes (offsetColon n) cs 2 k)

theorem exists_offsetText (hn : 1 ≤ n) (hk : k.natAbs < 6000) :
    ∃ cs, offsetRequest false n k = .ok (String.ofList cs) ∧ IsOffsetText n cs k := by
  have hlong : ¬ IsTooLong (k.natAbs / 60) := not_isTooLong_of_le_999 (by omega)
  have hwidth := hourWidth_eq_two hk
  have hminutes := writesHoursAndMinutes_fixedWidth (offsetColon n) k
  rw [hwidth] at hminutes
  rcases Nat.eq_or_lt_of_le hn with rfl | hn
  · by_cases hwhole : k % 60 = 0
    · have hhours := writesHours_fixedWidth hwhole
      rw [hwidth] at hhours
      exact ⟨_, offsetRequest_one_of_whole hlong hwhole, .hours rfl hwhole hhours⟩
    · exact ⟨_, offsetRequest_one_of_not_whole hlong hwhole,
        .hoursAndMinutes (fun _ => hwhole) hminutes⟩
  · exact ⟨_, offsetRequest_of_two_le hlong hn, .hoursAndMinutes (by omega) hminutes⟩

/-- In one letter the length tells whether there are minutes. -/
theorem IsOffsetText.eq (h : IsOffsetText n cs k) (h' : IsOffsetText n cs k') : k = k' := by
  cases h with
  | hours hone hwhole h =>
    cases h' with
    | hours _ _ h' => exact h.eq h'
    | hoursAndMinutes _ h' =>
      have hlength := h.length_eq.symm.trans h'.length_eq
      omega
  | hoursAndMinutes hrest h =>
    cases h' with
    | hours _ _ h' =>
      have hlength := h.length_eq.symm.trans h'.length_eq
      omega
    | hoursAndMinutes _ h' => exact h.eq h'

theorem IsOffsetText.ne_zulu (h : IsOffsetText n cs k) : cs ≠ ['Z'] := by
  cases h with
  | hours _ _ h =>
    have hlength := h.length_eq
    rintro rfl
    cases hlength
  | hoursAndMinutes _ h =>
    have hlength := h.length_eq
    rintro rfl
    rw [List.length_singleton] at hlength
    omega

/-- Below a hundred hours no two offsets have the same text, with or without a letter for zero. -/
theorem offsetRequest_inj (hn : 1 ≤ n) (zulu : Bool) (hk : k.natAbs < 6000) (hk' : k'.natAbs < 6000)
    (h : offsetRequest zulu n k = offsetRequest zulu n k') : k = k' := by
  obtain ⟨cs, hcs, hform⟩ := exists_offsetText hn hk
  obtain ⟨cs', hcs', hform'⟩ := exists_offsetText hn hk'
  have hzulu : offsetRequest true n 0 = .ok "Z" := rfl
  cases zulu with
  | false =>
    rw [hcs, hcs'] at h
    obtain rfl := String.ofList_injective (Except.ok.inj h)
    exact hform.eq hform'
  | true =>
    by_cases hzero : k = 0 <;> by_cases hzero' : k' = 0
    · rw [hzero, hzero']
    · rw [hzero, hzulu, offsetRequest_zulu n hzero', hcs'] at h
      exact absurd (String.ofList_injective (Except.ok.inj h).symm) hform'.ne_zulu
    · rw [hzero', hzulu, offsetRequest_zulu n hzero, hcs] at h
      exact absurd (String.ofList_injective (Except.ok.inj h)) hform.ne_zulu
    · rw [offsetRequest_zulu n hzero, offsetRequest_zulu n hzero', hcs, hcs'] at h
      obtain rfl := String.ofList_injective (Except.ok.inj h)
      exact hform.eq hform'

end

section

variable {d : Dated} {m : Moment} {options : Argument} {o : Options} {n : Nat}

/-- The letters of an offset put no call. -/
theorem formatLetters_eq_ofExcept (ho : Options.ofArgument options = .ok o) (hd : d.Shows m)
    (hn : 1 ≤ n) {letter : Char} {zulu : Bool} (hf : Field.ofLetter? letter = some (.offset zulu))
    (l : Localizer) :
    formatLetters d options l letter n = Run.ofExcept (offsetRequest zulu n m.offset) := by
  have hfield : (Field.offset zulu).request n m o =
      offsetRequest zulu n m.offset >>= fun text => .ok (.text text) := rfl
  rw [formatLetters_eq ho hd hf hn]
  change (Run.ofExcept ((Field.offset zulu).request n m o) >>= fun request => request.render l) = _
  rw [hfield]
  cases offsetRequest zulu n m.offset with
  | ok text => rfl
  | error f => rfl

theorem gives_formatLetters (ho : Options.ofArgument options = .ok o) (hd : d.Shows m) (hn : 1 ≤ n)
    {letter : Char} {zulu : Bool} (hf : Field.ofLetter? letter = some (.offset zulu))
    (l : Localizer) :
    (formatLetters d options l letter n).Gives (offsetRequest zulu n m.offset) := by
  rw [formatLetters_eq_ofExcept ho hd hn hf]
  exact Run.gives_ofExcept _

theorem exists_offset_of_mem {letter : Char} (h : letter ∈ ['x', 'X']) :
    ∃ zulu, Field.ofLetter? letter = some (.offset zulu) := by
  rcases List.mem_cons.mp h with rfl | h
  · exact ⟨false, rfl⟩
  · rw [List.mem_singleton.mp h]
    exact ⟨true, rfl⟩

/-- The letters of an offset of any size. In two letters and more its text is a sign, hours, a colon
in three letters and in more than four, and minutes; in one letter the minutes are left out where
there are none. The sign, the hours and the minutes give the offset back. Hours of more digits than
may be written make the call fail. The capital letter has a text of its own for zero. So below a
hundred hours two dates with different offsets have different texts, whatever their options,
localizers and sessions. -/
theorem formatLetters_offset (ho : Options.ofArgument options = .ok o) (hd : d.Shows m)
    (l : Localizer) :
    let k := m.offset
    let letters := formatLetters d options l
    (∀ n, 2 ≤ n →
      (¬ IsTooLong (k.natAbs / 60) → ∃ text width, (letters 'x' n).Gives (.ok text) ∧ 2 ≤ width ∧
        WritesHoursAndMinutes (if n = 3 ∨ 5 ≤ n then [':'] else []) text.toList width k) ∧
      (IsTooLong (k.natAbs / 60) → (letters 'x' n).Gives (.error (.argument .numeralTooLong)))) ∧
    (k.natAbs < 6000 → ∃ text, (letters 'x' 1).Gives (.ok text) ∧
      (k % 60 = 0 ∧ WritesHours text.toList 2 k ∨
        k % 60 ≠ 0 ∧ WritesHoursAndMinutes [] text.toList 2 k)) ∧
    ∀ n, 1 ≤ n →
      (k ≠ 0 → letters 'X' n = letters 'x' n) ∧ (k = 0 → (letters 'X' n).Gives (.ok "Z")) ∧
      ∀ {d' : Dated} {m' : Moment} {options' : Argument} {o' : Options} (l' : Localizer),
        Options.ofArgument options' = .ok o' → d'.Shows m' → k.natAbs < 6000 →
        m'.offset.natAbs < 6000 → k ≠ m'.offset → ∀ letter ∈ ['x', 'X'], ∀ s s' : Session,
          ((letters letter n).run.run s).1 ≠
            ((formatLetters d' options' l' letter n).run.run s').1 := by
  intro k letters
  have hx : Field.ofLetter? 'x' = some (.offset false) := rfl
  have hX : Field.ofLetter? 'X' = some (.offset true) := rfl
  refine ⟨fun n hn => ⟨fun hlong => ?_, fun hlong => ?_⟩, fun hk => ?_,
    fun n hn => ⟨fun hk => ?_, fun hk => ?_, ?_⟩⟩
  · have hrun := gives_formatLetters ho hd (show 1 ≤ n by omega) hx l
    rw [offsetRequest_of_two_le hlong hn] at hrun
    refine ⟨_, hourWidth k, hrun, Nat.le_max_left _ _, ?_⟩
    rw [String.toList_ofList]
    exact writesHoursAndMinutes_fixedWidth (offsetColon n) k
  · have hrun := gives_formatLetters ho hd (show 1 ≤ n by omega) hx l
    rwa [offsetRequest_of_isTooLong n hlong] at hrun
  · obtain ⟨cs, hcs, hform⟩ := exists_offsetText (Nat.le_refl 1) hk
    have hrun := gives_formatLetters ho hd (Nat.le_refl 1) hx l
    refine ⟨String.ofList cs, fun s => (hrun s).trans hcs, ?_⟩
    rw [String.toList_ofList]
    cases hform with
    | hours _ hwhole h => exact .inl ⟨hwhole, h⟩
    | hoursAndMinutes hrest h => exact .inr ⟨hrest rfl, h⟩
  · change formatLetters d options l 'X' n = formatLetters d options l 'x' n
    rw [formatLetters_eq_ofExcept ho hd hn hX, formatLetters_eq_ofExcept ho hd hn hx,
      offsetRequest_zulu n hk]
  · have hrun := gives_formatLetters ho hd hn hX l
    have hzero : offsetRequest true n k = .ok "Z" := if_pos ⟨rfl, hk⟩
    exact fun s => (hrun s).trans hzero
  · intro d' m' options' o' l' ho' hd' hk hk' hne letter hletter s s' heq
    obtain ⟨zulu, hf⟩ := exists_offset_of_mem hletter
    have hrun := gives_formatLetters ho hd hn hf l s
    have hrun' := gives_formatLetters ho' hd' hn hf l' s'
    exact hne (offsetRequest_inj hn zulu hk hk' (hrun.symm.trans (heq.trans hrun')))

end

/-- Half an hour west of universal time has a minus sign before two zeros, and is told from half an
hour east. -/
theorem formatLetters_offset_halfHours :
    let west : Moment := ⟨⟨2020, 0, 1, 11, 30, 0, 0⟩, some 1577880000000, -30, fun _ => by decide⟩
    let east : Moment := ⟨⟨2020, 0, 1, 12, 30, 0, 0⟩, some 1577880000000, 30, fun _ => by decide⟩
    Options.ofArgument .absent = .ok .unset ∧ (Dated.moment west).Shows west ∧
    (Dated.moment east).Shows east ∧
    (∃ text width, (formatLetters (.moment west) .absent .english 'x' 3).Gives (.ok text) ∧
      2 ≤ width ∧ WritesHoursAndMinutes [':'] text.toList width (-30)) ∧
    (∃ text, (formatLetters (.moment west) .absent .english 'x' 1).Gives (.ok text) ∧
      WritesHoursAndMinutes [] text.toList 2 (-30)) ∧
    formatLetters (.moment west) .absent .english 'X' 1 =
      formatLetters (.moment west) .absent .english 'x' 1 ∧
    ((formatLetters (.moment west) .absent .english 'X' 1).run.run .start).1 ≠
      ((formatLetters (.moment east) .absent .english 'X' 1).run.run .start).1 := by
  intro west east
  have ho : Options.ofArgument .absent = .ok .unset := rfl
  have hwest : (Dated.moment west).Shows west := ⟨rfl, rfl⟩
  have heast : (Dated.moment east).Shows east := ⟨rfl, rfl⟩
  have hlong : ¬ IsTooLong (west.offset.natAbs / 60) := not_isTooLong_of_le_999 (by decide)
  obtain ⟨hlonger, hone, hletters⟩ := formatLetters_offset ho hwest .english
  obtain ⟨hcapital, -, hdistinct⟩ := hletters 1 (Nat.le_refl 1)
  obtain ⟨text, htext, ⟨hwhole, -⟩ | ⟨-, hform⟩⟩ := hone (by decide)
  · exact absurd hwhole (by decide)
  · exact ⟨ho, hwest, heast, (hlonger 3 (by decide)).1 hlong, ⟨text, htext, hform⟩,
      hcapital (by decide), hdistinct .english ho heast (by decide) (by decide) (by decide) 'X'
        (by decide) .start .start⟩

/-- An offset whose hours have more digits than may be written has no text. -/
theorem formatLetters_longOffset_fails :
    let k : Int := 6 * tenTo 4301
    let m : Moment := ⟨.ofMs (0 + k * msPerMinute), some 0, k, fun _ => WallClock.ofMs_inRange _⟩
    Moment.ofEpoch (.integer 0) k = .ok m ∧ m.isValid = true ∧
    ¬ ∃ text, ((formatLetters (.moment m) .absent .english 'x' 2).run.run .start).1 = .ok text := by
  intro k m
  have hmade : Moment.ofEpoch (.integer 0) k = .ok m := by
    rw [Moment.ofEpoch_integer, Moment.ofEpochMs_eq_ok_iff (by decide)]
    exact ⟨rfl, rfl, rfl⟩
  have hlong : IsTooLong (k.natAbs / 60) := by
    rw [isTooLong_iff]
    decide +kernel
  have ho : Options.ofArgument .absent = .ok .unset := rfl
  have hd : (Dated.moment m).Shows m := ⟨rfl, rfl⟩
  have hletter : Field.ofLetter? 'x' = some (.offset false) := rfl
  have hrun := gives_formatLetters ho hd (n := 2) (by decide) hletter .english .start
  rw [offsetRequest_of_isTooLong _ hlong] at hrun
  refine ⟨hmade, rfl, ?_⟩
  rintro ⟨text, htext⟩
  cases hrun.symm.trans htext

end DatePattern
