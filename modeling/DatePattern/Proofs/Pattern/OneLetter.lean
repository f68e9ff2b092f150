import DatePattern.Proofs.Pattern.Questions
import DatePattern.Proofs.Record.IntegerFields

/-! Patterns of one letter. A date comes to what the letter's field asks for. Where that is a number,
the text is its numeral, with zeros in front for the letters that it has too few digits for. -/
namespace DatePattern

/-- With the fixed names, numbers are written as numerals. -/
theorem Localizer.writesNumbers_english : english.WritesNumbers := by
  intro history n width unit text h
  have hnumber : English.answer (.number (.int n) width false unit) = .ok text := by
    rw [English.answer, English.number, Argument.paddedText_int, h]
    rfl
  change (English.answer _).mapError Fault.argument = _
  rw [hnumber]
  rfl

theorem Field.isPatternLetter_of_ofLetter? {letter : Char} {f : Field}
    (h : ofLetter? letter = some f) : isPatternLetter letter = true ∧ letter ≠ ordinalLetter := by
  have table : ∀ entry ∈ letters, isPatternLetter entry.1 = true ∧ entry.1 ≠ ordinalLetter := by
    simp [letters, isPatternLetter, ordinalLetter]
  exact table _ (mem_letters h)

theorem Plan.ofPattern_letters {letter : Char} {f : Field} (hf : Field.ofLetter? letter = some f)
    {n : Nat} (hn : 1 ≤ n) :
    ofPattern (String.ofList (List.replicate n letter)) =
      ⟨[.field f ⟨letter, n, 0⟩ false], none⟩ := by
  obtain ⟨hletter, hordinal⟩ := Field.isPatternLetter_of_ofLetter? hf
  obtain ⟨k, rfl⟩ : ∃ k, n = k + 1 := ⟨n - 1, by omega⟩
  rw [ofPattern, Token.scan_letters hletter]
  change (if letter = Field.ordinalLetter then fail _ else consRun ⟨letter, k + 1, 0⟩ false done) = _
  rw [if_neg hordinal, consRun, hf]
  rfl

theorem paddedNumeral?_of_not_isTooLong {n : Nat} (h : ¬ IsTooLong n) (width : Nat) :
    paddedNumeral? n width = some (String.ofList (fixedWidth width n)) := by
  rw [paddedNumeral?, Int.natAbs_natCast, digits?_of_not_isTooLong h]
  rfl

/-- What a date comes to in a pattern of so many equal letters. -/
def formatLetters (d : Dated) (options : Argument) (l : Localizer) (letter : Char) (n : Nat) :
    Run String :=
  format (some d.argument) (some (.text (String.ofList (List.replicate n letter)))) options (some l)

section

variable {d : Dated} {m : Moment} {options : Argument} {o : Options} {l : Localizer} {letter : Char}
  {f : Field} {n : Nat}

/-- The pattern is rendered as its one field, behind a warning where there is one. -/
theorem formatLetters_eq (ho : Options.ofArgument options = .ok o) (hd : d.Shows m)
    (hf : Field.ofLetter? letter = some f) (hn : 1 ≤ n) (l : Localizer) :
    formatLetters d options l letter n =
      (Step.field f ⟨letter, n, 0⟩ false).render m.reading l o := by
  rw [formatLetters, format_eq_render ho (d.ofArgument_argument _) hd.isValid,
    Plan.ofPattern_letters hf hn, hd.reading_eq, Plan.render]
  simp only [List.mapM_cons, List.mapM_nil, bind_assoc, pure_bind, String.join_cons, String.join_nil,
    String.append_empty, bind_pure]

section

variable (ho : Options.ofArgument options = .ok o) (hd : d.Shows m)
  (hf : Field.ofLetter? letter = some f) (hn : 1 ≤ n)
include ho hd hf hn

theorem yields_formatLetters {p : String → Prop} {request : Request}
    (hrequest : f.request n m o = .ok request) (h : (request.render l).Yields p) :
    (formatLetters d options l letter n).Yields p := by
  rw [formatLetters_eq ho hd hf hn]
  refine (Run.yields_warn _).bind fun _ _ => ?_
  refine (Run.yields_ofExcept (a := request) hrequest).bind ?_
  rintro _ rfl
  exact h

/-- The one call of the field is put. -/
theorem records_formatLetters {signOf : Option Argument} {c : Call}
    (hrequest : f.request n m o = .ok (.call signOf c)) :
    (formatLetters d options l letter n).Records [c] := by
  have hcall : (Step.field f ⟨letter, n, 0⟩ false).call? m.reading o = some c := by
    change (f.request n m o).toOption.bind Request.call? = some c
    rw [hrequest]
    rfl
  have hrecords := (Step.field f ⟨letter, n, 0⟩ false).records_render l m.reading o
  rw [hcall] at hrecords
  rw [formatLetters_eq ho hd hf hn]
  exact hrecords

variable (hplain : o.ordinal = false) (hl : l.WritesNumbers) {x : Int}
  {unit : Option CountedUnit} (hlong : ¬ IsTooLong x.natAbs)
include hplain hl hlong

/-- A number has zeros in front, up to the width that is asked for. -/
theorem yields_number {width : Nat} (hrequest : f.request n m o = .ok (.number x width o unit)) :
    (formatLetters d options l letter n).Yields
      (· = String.ofList (fixedWidth width x.natAbs)) := by
  refine yields_formatLetters ho hd hf hn hrequest ?_
  rw [Request.number, Request.plain, hplain]
  exact Request.yields_render hl (paddedNumeral?_of_not_isTooLong hlong width) rfl

/-- A number below zero has a minus sign in front of the zeros. -/
theorem yields_signedNumber {width : Nat}
    (hrequest : f.request n m o = .ok (.signedNumber x width o unit)) :
    (formatLetters d options l letter n).Yields
      (· = String.ofList ((if x < 0 then ['-'] else []) ++ fixedWidth width x.natAbs)) := by
  refine yields_formatLetters ho hd hf hn hrequest ?_
  rw [Request.signedNumber, hplain]
  exact Request.yields_render hl (paddedNumeral?_of_not_isTooLong hlong width) (signedText_ofList x _)

end

end

end DatePattern
