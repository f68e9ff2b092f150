import DatePattern.Proofs.Pattern.OneLetter

/-! The digits of a year. With its sign it is shown whole. Without, it is shown within its era, and
two letters show its last two digits alone; era and number together still tell the year. -/
namespace DatePattern

/-- A year's number, as so many letters show it: two letters its last two digits, and any other number
of them all. -/
structure ShowYear (letters : Nat → Run String) (number : Nat) : Prop where
  whole (n : Nat) (hn : 1 ≤ n) (htwo : n ≠ 2) :
    ∃ text, (letters n).Yields (· = text) ∧ integer? text.toList = some number
  lastTwo : ∃ text, (letters 2).Yields (· = text) ∧ WritesNumber text.toList 2 (number % 100)

/-- The number of a year within its era tells the year. -/
theorem exists_yearOfEra (year : Int) :
    ∃ number : Nat, yearOfEra year = number ∧ number ≤ year.natAbs + 1 ∧
      (0 < year ∧ year = number ∨ year ≤ 0 ∧ year = 1 - number) := by
  refine ⟨(yearOfEra year).toNat, ?_⟩
  rw [yearOfEra]
  split_ifs <;> omega

theorem CivilDate.natAbs_weekYear_le (date : CivilDate) (rule : WeekRule) :
    (date.weekYear rule).natAbs ≤ date.year.natAbs + 1 := by
  rw [weekYear]
  split_ifs <;> omega

section

variable {d : Dated} {m : Moment} {options : Argument} {o : Options} {l : Localizer} {letter : Char}
  {f : Field} (ho : Options.ofArgument options = .ok o) (hplain : o.ordinal = false)
  (hd : d.Shows m)
include ho hplain hd

theorem showYear_of_request (hl : l.WritesNumbers) (hf : Field.ofLetter? letter = some f)
    {number : Nat} (hlong : ¬ IsTooLong number)
    (hrequest : ∀ n, f.request n m o = .ok (.year number n o)) :
    ShowYear (formatLetters d options l letter) number where
  whole n hn htwo := by
    have hwhole : f.request n m o = .ok (.number number n o (some .year)) := by
      rw [hrequest, Request.year, if_neg (by omega)]
    have hwritten : ¬ IsTooLong (number : Int).natAbs := hlong
    refine ⟨_, yields_number ho hd hf hn hplain hl hwritten hwhole, ?_⟩
    rw [String.toList_ofList]
    exact integer?_of_writesNumber (writesNumber_fixedWidth_max n number) (by omega)
  lastTwo := by
    have hsmall : ((number : Int) % 100).natAbs ≤ 999 := by omega
    have hlastTwo : f.request (2 : Nat) m o =
        .ok (.number ((number : Int) % 100) (2 : Nat) o (some .year)) := by
      rw [hrequest]
      rfl
    refine ⟨_, yields_number ho hd hf (by decide) hplain hl (not_isTooLong_of_le_999 hsmall)
      hlastTwo, ?_⟩
    rw [String.toList_ofList]
    exact writesNumber_two (n := number % 100) (by omega)

theorem yields_signedYear (hl : l.WritesNumbers) (hlong : ¬ IsTooLong m.wall.year.natAbs) {n : Nat}
    (hn : 1 ≤ n) :
    ∃ text digits, (formatLetters d options l 'u' n).Yields (· = text) ∧
      text.toList = (if m.wall.year < 0 then ['-'] else []) ++ digits ∧
      (∀ c ∈ digits, c.isDigit = true) ∧ n ≤ digits.length ∧
      integer? text.toList = some m.wall.year := by
  have hletter : Field.ofLetter? 'u' = some .signedYear := rfl
  have hdigits := writesNumber_fixedWidth_max n m.wall.year.natAbs
  refine ⟨_, _, yields_signedNumber ho hd hletter hn hplain hl hlong rfl, String.toList_ofList,
    hdigits.isDigit, ?_, ?_⟩
  · rw [hdigits.length]
    exact Nat.le_max_left _ _
  · rw [String.toList_ofList]
    split_ifs with hneg
    · rw [List.singleton_append, integer?_minus_of_writesNumber hdigits (by omega)]
      exact congrArg some (by omega)
    · rw [List.nil_append, integer?_of_writesNumber hdigits (by omega)]
      exact congrArg some (by omega)

end

variable {d : Dated} {m : Moment} {options : Argument} {o : Options}

/-- The name of an era is asked for at each length, and there is one. -/
theorem yields_era (ho : Options.ofArgument options = .ok o) (hd : d.Shows m) {n : Nat}
    (hn : 1 ≤ n) :
    ∃ text width, (formatLetters d options .english 'G' n).Yields (· = text) ∧
      (formatLetters d options .english 'G' n).Records
        [.era (.int (if 0 < m.wall.year then 1 else -1)) width] := by
  have hletter : Field.ofLetter? 'G' = some .era := rfl
  obtain ⟨name, hname⟩ := English.exists_era (English.hasNames_eras n)
    (ite_eq_or_eq (0 < m.wall.year) (1 : Int) (-1))
  have hanswer (history : List Call) : (Localizer.english.answer history
      (.era (.int (if 0 < m.wall.year then 1 else -1)) (eraWidth n))).result = .ok name := by
    change (English.answer _).mapError Fault.argument = _
    rw [hname]
    rfl
  refine ⟨name, eraWidth n, yields_formatLetters ho hd hletter hn rfl ?_,
    records_formatLetters ho hd hletter hn rfl⟩
  refine (Run.yields_ask hanswer).bind ?_
  rintro _ rfl
  exact Run.yields_ofExcept rfl

/-- The letters of a year, in English names. With its sign it is read back from any number of
letters. Without, the number that is read and the era that is asked for tell the year, and two letters
show the last two digits of that number. So it is with a week year, whose sign stands for the era. -/
theorem formatLetters_year (ho : Options.ofArgument options = .ok o) (hplain : o.ordinal = false)
    (hd : d.Shows m) (hyear : m.wall.year.natAbs < tenTo 4000) :
    let letters := formatLetters d options .english
    (∀ n, 1 ≤ n → ∃ text digits, (letters 'u' n).Yields (· = text) ∧
      text.toList = (if m.wall.year < 0 then ['-'] else []) ++ digits ∧
      (∀ c ∈ digits, c.isDigit = true) ∧ n ≤ digits.length ∧
      integer? text.toList = some m.wall.year) ∧
    (∃ (number : Nat) (era : Int), ShowYear (letters 'y') number ∧
      (∀ n, 1 ≤ n → ∃ text width, (letters 'G' n).Yields (· = text) ∧
        (letters 'G' n).Records [.era (.int era) width]) ∧
      (era = 1 ∧ 0 < m.wall.year ∧ m.wall.year = number ∨
        era = -1 ∧ m.wall.year ≤ 0 ∧ m.wall.year = 1 - number)) ∧
    ∃ (weekYear : Int) (number : Nat), m.weekYear o.weekRule = .ok weekYear ∧
      ShowYear (letters 'Y') number ∧
      (0 < weekYear ∧ weekYear = number ∨ weekYear ≤ 0 ∧ weekYear = 1 - number) := by
  intro letters
  have hl := Localizer.writesNumbers_english
  obtain ⟨ms, hms⟩ := hd.exists_instant
  have hlong {n : Nat} (h : n ≤ m.wall.year.natAbs + 2) : ¬ IsTooLong n := by
    have hlimit : 4000 < digitLimit := by decide
    exact not_isTooLong_of_le_tenTo_succ hlimit (by omega)
  refine ⟨fun n hn => yields_signedYear ho hplain hd hl (hlong (by omega)) hn, ?_, ?_⟩
  · obtain ⟨number, hnumber, hbound, hera⟩ := exists_yearOfEra m.wall.year
    refine ⟨number, if 0 < m.wall.year then 1 else -1, ?_, fun n hn => ?_, ?_⟩
    · have hletter : Field.ofLetter? 'y' = some .year := rfl
      refine showYear_of_request ho hplain hd hl hletter (hlong (by omega)) fun n => ?_
      rw [Field.request, hnumber]
    · exact yields_era ho hd hn
    · split_ifs <;> omega
  · obtain ⟨number, hnumber, hbound, hsign⟩ := exists_yearOfEra (m.date.weekYear o.weekRule)
    have hclose := m.date.natAbs_weekYear_le o.weekRule
    have hweekYear : m.weekYear o.weekRule = .ok (m.date.weekYear o.weekRule) :=
      Moment.ofValid_eq_ok hms _ _
    have hletter : Field.ofLetter? 'Y' = some .weekYear := rfl
    refine ⟨_, number, hweekYear, ?_, hsign⟩
    refine showYear_of_request ho hplain hd hl hletter (hlong ?_) fun n => ?_
    · change number ≤ m.date.year.natAbs + 2
      omega
    · rw [Field.request, hweekYear, ← hnumber]
      rfl

/-- The first of January of the year 0, the first before the era, is in the last week of the second
before it. -/
theorem formatLetters_year_zero :
    let m : Moment := ⟨⟨0, 0, 1, 0, 0, 0, 0⟩, some (-62167219200000), 0, fun _ => by decide⟩
    let letters := formatLetters (.moment m) .absent .english
    Options.ofArgument .absent = .ok .unset ∧ Options.unset.ordinal = false ∧
    (Dated.moment m).Shows m ∧ m.wall.year.natAbs < tenTo 4000 ∧
    (∃ text, (letters 'u' 4).Yields (· = text) ∧ integer? text.toList = some 0) ∧
    ShowYear (letters 'y') 1 ∧ ShowYear (letters 'Y') 2 := by
  intro m letters
  have ho : Options.ofArgument .absent = .ok .unset := rfl
  have hd : (Dated.moment m).Shows m := ⟨rfl, rfl⟩
  have hyear : m.wall.year = 0 := rfl
  have hbound : m.wall.year.natAbs < tenTo 4000 := tenTo_pos 4000
  have hweekYear : m.weekYear Options.unset.weekRule = .ok (-1) := by decide +kernel
  obtain ⟨hsigned, ⟨number, era, hshown, -, hera⟩, weekYear, ofEra, hweek, hweekShown, hsign⟩ :=
    formatLetters_year ho rfl hd hbound
  obtain ⟨text, -, htext, -, -, -, hread⟩ := hsigned 4 (by decide)
  obtain rfl : weekYear = -1 := Except.ok.inj (hweek.symm.trans hweekYear)
  obtain rfl : number = 1 := by omega
  obtain rfl : ofEra = 2 := by omega
  exact ⟨ho, rfl, hd, hbound, ⟨text, htext, hread⟩, hshown, hweekShown⟩

end DatePattern
