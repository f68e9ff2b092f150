import DatePattern.Proofs.Options.Resolution
import DatePattern.Proofs.Pattern.Rendering

/-! The order in which a call is checked: its arguments, the pattern, the options and the date, and
the pattern's own faults last. What is found before these leaves the session as it was. -/
namespace DatePattern

/-- The value is a text, or of a kind whose text for reading is its own. -/
def Argument.IsPattern : Argument → Prop
  | .atom a => a.hasOwnText = true
  | _ => False

/-- A complaint about a run of letters in a pattern. -/
def Fault.IsDirectiveComplaint (f : Fault) : Prop :=
  ∃ letter position text diagnostic?,
    f = .complaint ⟨.directive letter position, text, diagnostic?⟩

namespace Fault

theorem exists_patternNotText (kindName : String) :
    ∃ text, patternNotText kindName =
      .complaint ⟨.pattern, text, some (.patternNotText kindName)⟩ := by
  have htext := Argument.isWritten_text
  have habsent := Argument.isWritten_absent
  exact exists_ofDiagnostic_eq _
    ⟨htext _, habsent, habsent, habsent, htext _, htext _, habsent⟩

variable {f : Fault}

theorem IsDirectiveComplaint.isComplaint (h : f.IsDirectiveComplaint) : f.IsComplaint := by
  obtain ⟨letter, position, text, diagnostic?, rfl⟩ := h
  exact ⟨_, rfl⟩

theorem not_isDirectiveComplaint {c : Complaint}
    (h : ∀ letter position, c.kind ≠ .directive letter position) :
    ¬ (complaint c).IsDirectiveComplaint := by
  rintro ⟨letter, position, text, diagnostic?, hsame⟩
  cases hsame
  exact h letter position rfl

theorem IsOptionComplaint.not_isDirectiveComplaint (h : f.IsOptionComplaint) :
    ¬ f.IsDirectiveComplaint := by
  obtain ⟨name, text, d, rfl⟩ := h
  exact Fault.not_isDirectiveComplaint (by simp)

end Fault

/-- The computation fails with no complaint. -/
def NeverComplains {α : Type} (e : Except Fault α) : Prop := ∀ f, e = .error f → ¬ f.IsComplaint

section

variable {α β : Type}

theorem neverComplains_ok (a : α) : NeverComplains (.ok a) := by
  rintro f ⟨⟩

theorem neverComplains_moment (e : Except MomentFault α) :
    NeverComplains (e.mapError Fault.moment) := by
  rintro f h ⟨c, rfl⟩
  cases e <;> cases h

theorem neverComplains_argument (e : Except ArgumentFault α) :
    NeverComplains (e.mapError Fault.argument) := by
  rintro f h ⟨c, rfl⟩
  cases e <;> cases h

theorem NeverComplains.bind {e : Except Fault α} {g : α → Except Fault β} (he : NeverComplains e)
    (hg : ∀ a, NeverComplains (g a)) : NeverComplains (e >>= g) := by
  cases e with
  | error f => exact fun f' h => he f' (by cases h; rfl)
  | ok a => exact hg a

theorem NeverComplains.map {e : Except Fault α} (he : NeverComplains e) (g : α → β) :
    NeverComplains (e.map g) := by
  cases e with
  | error f => exact fun f' h => he f' (by cases h; rfl)
  | ok a => exact neverComplains_ok (g a)

end

section

variable {pattern : Argument}

theorem patternText_of_isPattern (h : pattern.IsPattern) :
    patternText pattern = pattern.display.mapError Fault.argument := by
  unfold patternText
  split
  case h_1 s => rfl
  case h_2 a _ =>
    have hown : a.hasOwnText = true := h
    exact if_pos hown
  case h_3 hatom =>
    cases pattern with
    | atom a => exact absurd rfl (hatom a)
    | list items => exact h.elim
    | mapping entries => exact h.elim
    | record f => exact h.elim

theorem patternText_of_not_isPattern (h : ¬ pattern.IsPattern) :
    patternText pattern = .error (.patternNotText pattern.kindName) := by
  unfold patternText
  split
  case h_1 s => exact absurd rfl h
  case h_2 a _ =>
    have hown : ¬ a.hasOwnText = true := h
    exact if_neg hown
  case h_3 => rfl

theorem patternText_eq_ok_iff {text : String} :
    patternText pattern = .ok text ↔ pattern.IsPattern ∧ pattern.display = .ok text := by
  by_cases hp : pattern.IsPattern
  · rw [patternText_of_isPattern hp, and_iff_right hp]
    cases pattern.display <;> simp [Except.mapError]
  · rw [patternText_of_not_isPattern hp, iff_false_right (fun h => hp h.1)]
    rintro ⟨⟩

/-- A pattern that has no text is an exact fraction with too long a numeral, or code of the caller's
fails to give one. -/
theorem Argument.IsPattern.display_eq_error (h : pattern.IsPattern) {f : ArgumentFault}
    (hf : pattern.display = .error f) :
    (∃ q, pattern = .number (.ratio q) ∧ f = .numeralTooLong) ∨ ∃ r, f = .raised r := by
  cases pattern with
  | list items => exact h.elim
  | mapping entries => exact h.elim
  | record f => exact h.elim
  | atom a =>
    cases a with
    | number x =>
      cases x with
      | ratio q => exact .inl ⟨q, rfl, eq_numeralTooLong_of_orTooLong hf⟩
      | integer n => cases h
      | binary b => cases h
      | decimal d => cases hf
    | foreign o => exact .inr (exists_raised_of_result hf)
    | zoned z =>
      cases hoffset : z.offset with
      | gives given =>
        obtain ⟨s, hs⟩ := z.exists_stamp (by rw [hoffset]; rintro r ⟨⟩)
        change z.stamp.map Stamp.text = _ at hf
        rw [hs] at hf
        cases hf
      | raises r =>
        change z.stamp.map Stamp.text = _ at hf
        rw [ZonedStamp.stamp_of_raises hoffset] at hf
        cases hf
        exact .inr ⟨r, rfl⟩
    | text s => cases hf
    | bytes bs => cases hf
    | stamp s => cases hf
    | day d => cases hf
    | absent => cases h
    | flag b => cases h
    | moment m => cases h
    | options o => cases h

theorem patternText_not_isDirectiveComplaint {f : Fault} (h : patternText pattern = .error f) :
    ¬ f.IsDirectiveComplaint := by
  by_cases hp : pattern.IsPattern
  · rw [patternText_of_isPattern hp] at h
    exact fun hf => neverComplains_argument _ f h hf.isComplaint
  · obtain ⟨text, htext⟩ := Fault.exists_patternNotText pattern.kindName
    rw [patternText_of_not_isPattern hp, htext] at h
    cases h
    exact Fault.not_isDirectiveComplaint (by simp)

end

theorem Moment.ofText_neverComplains (s : String) (extraDigits : Argument) :
    NeverComplains (ofText s extraDigits) := by
  simp only [ofText]
  split
  case h_1 negative digits rest h =>
    refine (neverComplains_argument _).bind fun counts => ?_
    cases counts with
    | true => exact (neverComplains_moment _).bind fun m => neverComplains_ok _
    | false => exact neverComplains_ok _
  case h_2 =>
    split
    · exact neverComplains_moment _
    · exact neverComplains_ok _

theorem Moment.ofAtom_neverComplains (a : Atom) (extraDigits : Argument) :
    NeverComplains (ofAtom a extraDigits) := by
  unfold ofAtom
  split
  case h_7 s => exact ofText_neverComplains s extraDigits
  case h_3 z =>
    cases z.stamp with
    | ok s => exact neverComplains_moment (ofStamp s)
    | error f => exact neverComplains_argument (α := Moment) (.error f)
  all_goals first | exact neverComplains_ok _ | exact neverComplains_moment _

theorem Dated.ofArgument_neverComplains (x extraDigits : Argument) :
    NeverComplains (ofArgument x extraDigits) := by
  unfold ofArgument
  split
  case h_1 f => exact neverComplains_ok _
  case h_2 a => exact (Moment.ofAtom_neverComplains a extraDigits).map moment
  case h_3 => exact neverComplains_ok _

theorem Options.ofArgument_not_isDirectiveComplaint {options : Argument} {f : Fault}
    (h : ofArgument options = .error f) : ¬ f.IsDirectiveComplaint := by
  obtain ⟨hresolves, hescapes⟩ := ofArgument_resolvesUnless options
  by_cases hescape : Escapes options
  · obtain ⟨f', hf', hnot⟩ := hescapes hescape
    cases h.symm.trans hf'
    exact fun hdirective => hnot hdirective.isComplaint
  · obtain ⟨o, ho⟩ | ⟨f', hf', hoption⟩ := hresolves hescape
    · cases h.symm.trans ho
    · cases h.symm.trans hf'
      exact hoption.not_isDirectiveComplaint

section

variable {date pattern options : Argument} {text : String} {o : Options} {given : Dated} {f : Fault}
  (l : Option Localizer) (registry : LocaleRegistry)

theorem format_of_pattern_error (htext : patternText pattern = .error f) :
    format (some date) (some pattern) options l registry = throw f := by
  rw [format, Run.ofExcept_error_bind htext]

theorem format_of_options_error (htext : patternText pattern = .ok text)
    (ho : Options.ofArgument options = .error f) :
    format (some date) (some pattern) options l registry = throw f := by
  rw [format, Run.ofExcept_ok_bind htext, Run.ofExcept_error_bind ho]

theorem format_of_date_error (htext : patternText pattern = .ok text)
    (ho : Options.ofArgument options = .ok o)
    (hd : Dated.ofArgument date (.number o.digitCount) = .error f) :
    format (some date) (some pattern) options l registry = throw f := by
  rw [format, Run.ofExcept_ok_bind htext, Run.ofExcept_ok_bind ho, Run.ofExcept_error_bind hd]

theorem format_of_validity_error (htext : patternText pattern = .ok text)
    (ho : Options.ofArgument options = .ok o)
    (hd : Dated.ofArgument date (.number o.digitCount) = .ok given) {g : ArgumentFault}
    (hvalid : given.isValid = .error g) :
    format (some date) (some pattern) options l registry = throw (.argument g) := by
  have hmap : given.isValid.mapError Fault.argument = .error (.argument g) := by rw [hvalid]; rfl
  rw [format, Run.ofExcept_ok_bind htext, Run.ofExcept_ok_bind ho, Run.ofExcept_ok_bind hd,
    Run.ofExcept_error_bind hmap]

theorem format_of_invalid (htext : patternText pattern = .ok text)
    (ho : Options.ofArgument options = .ok o)
    (hd : Dated.ofArgument date (.number o.digitCount) = .ok given)
    (hvalid : given.isValid = .ok false) :
    format (some date) (some pattern) options l registry = pure invalidDateText := by
  have hmap : given.isValid.mapError Fault.argument = .ok false := by rw [hvalid]; rfl
  rw [format, Run.ofExcept_ok_bind htext, Run.ofExcept_ok_bind ho, Run.ofExcept_ok_bind hd,
    Run.ofExcept_ok_bind hmap]
  rfl

end

section

variable {date pattern : Option Argument} (options : Argument) (l : Option Localizer)
  (registry : LocaleRegistry)

/-- What a call with too few arguments is told, with the number of those it has. -/
def arityText (given : Nat) : String :=
  "format() requires 2 arguments (date, pattern), but only " ++ toString given ++ " present"

/-- Without a date or a pattern the call fails for the number of arguments that it has. -/
theorem exists_format_of_missing (h : date = none ∨ pattern = none) :
    ∃ text d, format date pattern options l registry = throw (.complaint ⟨.arity, text, some d⟩) ∧
      d.message = .text (arityText (date.toList.length + pattern.toList.length)) := by
  have harity (given : Nat) : ∃ text d, Fault.arity given = .complaint ⟨.arity, text, some d⟩ ∧
      d.message = .text (arityText given) := by
    have htext := Argument.isWritten_text
    have habsent := Argument.isWritten_absent
    obtain ⟨text, hfault⟩ := Fault.exists_ofDiagnostic_eq (d := .arity (toString given)) .arity
      ⟨htext _, habsent, habsent, habsent, habsent, htext _, habsent⟩
    exact ⟨text, _, hfault, rfl⟩
  obtain ⟨text, d, hfault, hmessage⟩ := harity (date.toList.length + pattern.toList.length)
  refine ⟨text, d, ?_, hmessage⟩
  rw [← hfault]
  cases date with
  | none => cases pattern <;> rfl
  | some d =>
    cases pattern with
    | none => rfl
    | some p =>
      rcases h with h | h
      · cases h
      · cases h

/-- What the call was given is read, in the order of its checks, and the date denotes an instant. -/
def IsReadAsValid (date pattern : Option Argument) (options : Argument) : Prop :=
  ∃ d p text o given, date = some d ∧ pattern = some p ∧ p.IsPattern ∧ p.display = .ok text ∧
    Options.ofArgument options = .ok o ∧
    Dated.ofArgument d (.number (o.additionalDigits.getD (.integer 2))) = .ok given ∧
    given.isValid = .ok true

variable {options l registry} {s : Session} {f : Fault}

/-- A complaint about a run of letters comes only after all other checks. -/
theorem isReadAsValid_of_directiveComplaint
    (h : ((format date pattern options l registry).run.run s).1 = .error f)
    (hf : f.IsDirectiveComplaint) : IsReadAsValid date pattern options := by
  -- Each check that fails has a fault of its own.
  have hthrown {g : Fault} (hg : ¬ g.IsDirectiveComplaint)
      (hfails : format date pattern options l registry = throw g) : False := by
    rw [hfails] at h
    cases h
    exact hg hf
  by_cases hmissing : date = none ∨ pattern = none
  · obtain ⟨text, d, hfails, -⟩ := exists_format_of_missing options l registry hmissing
    exact (hthrown (Fault.not_isDirectiveComplaint (by simp)) hfails).elim
  · obtain ⟨hdate, hpattern⟩ := not_or.mp hmissing
    obtain ⟨d, rfl⟩ := Option.ne_none_iff_exists'.mp hdate
    obtain ⟨p, rfl⟩ := Option.ne_none_iff_exists'.mp hpattern
    cases htext : patternText p with
    | error g =>
      exact (hthrown (patternText_not_isDirectiveComplaint htext)
        (format_of_pattern_error l registry htext)).elim
    | ok text =>
      cases ho : Options.ofArgument options with
      | error g =>
        exact (hthrown (Options.ofArgument_not_isDirectiveComplaint ho)
          (format_of_options_error l registry htext ho)).elim
      | ok o =>
        cases hd : Dated.ofArgument d (.number o.digitCount) with
        | error g =>
          have hnot := Dated.ofArgument_neverComplains d (.number o.digitCount) g hd
          exact (hthrown (fun hg => hnot hg.isComplaint)
            (format_of_date_error l registry htext ho hd)).elim
        | ok given =>
          obtain ⟨hpattern, hdisplay⟩ := patternText_eq_ok_iff.mp htext
          cases hvalid : given.isValid with
          | error g =>
            have hnot := Fault.argument_not_isComplaint g
            exact (hthrown (fun hg => hnot hg.isComplaint)
              (format_of_validity_error l registry htext ho hd hvalid)).elim
          | ok valid =>
            cases valid with
            | true => exact ⟨d, p, text, o, given, rfl, rfl, hpattern, hdisplay, ho, hd, hvalid⟩
            | false =>
              rw [format_of_invalid l registry htext ho hd hvalid] at h
              cases h

/-- The checks of a call come in one order, whatever is wrong with it. It fails for a missing date or
pattern, with the number of those given; else for a pattern that is no text and has none of its own;
else as the options do. With a date that denotes no instant it has the same text for every pattern.
None of these asks the localizer, makes a note or changes the store. A run of letters is complained
about only behind all that. A pattern of a kind with texts of its own may still have none: an exact
fraction with too long a numeral, or an object whose code fails. Then that is the call's fault, before
the options are looked at. -/
theorem format_precedence (date pattern : Option Argument) (options : Argument)
    (l : Option Localizer) (registry : LocaleRegistry) (s : Session) :
    let outcome := (format date pattern options l registry).run.run s
    (date = none ∨ pattern = none →
      ∃ text d, outcome = (.error (.complaint ⟨.arity, text, some d⟩), s) ∧
        d.message = .text ("format() requires 2 arguments (date, pattern), but only " ++
          toString (date.toList.length + pattern.toList.length) ++ " present")) ∧
    (∀ given p, date = some given → pattern = some p →
      (¬ p.IsPattern → ∃ text d, outcome = (.error (.complaint ⟨.pattern, text, some d⟩), s) ∧
        d.message = .text ("Pattern must be a string, got " ++ p.kindName)) ∧
      (∀ f, p.IsPattern → p.display = .error f → outcome = (.error (.argument f), s) ∧
        ((∃ q, p = .number (.ratio q) ∧ f = .numeralTooLong) ∨ ∃ r, f = .raised r)) ∧
      ∀ text, p.IsPattern → p.display = .ok text →
        (∀ f, Options.ofArgument options = .error f → outcome = (.error f, s)) ∧
        ∀ o d, Options.ofArgument options = .ok o →
          Dated.ofArgument given (.number (o.additionalDigits.getD (.integer 2))) = .ok d →
          d.isValid = .ok false → outcome = (.ok "Invalid Date", s)) ∧
    ∀ f, outcome.1 = .error f → f.IsDirectiveComplaint → IsReadAsValid date pattern options := by
  intro outcome
  have houtcome {f : Fault} (hfails : format date pattern options l registry = throw f) :
      outcome = (.error f, s) :=
    congrArg (fun x : Run String => x.run.run s) hfails
  refine ⟨fun hmissing => ?_, ?_, fun f h hf => isReadAsValid_of_directiveComplaint h hf⟩
  · obtain ⟨text, d, hfails, hmessage⟩ := exists_format_of_missing options l registry hmissing
    exact ⟨text, d, houtcome hfails, hmessage⟩
  · rintro given p rfl rfl
    refine ⟨fun hp => ?_, fun f hp hdisplay => ⟨?_, hp.display_eq_error hdisplay⟩,
      fun text hp hdisplay => ?_⟩
    · obtain ⟨text, hfault⟩ := Fault.exists_patternNotText p.kindName
      have htext := patternText_of_not_isPattern hp
      rw [hfault] at htext
      exact ⟨text, _, houtcome (format_of_pattern_error l registry htext), rfl⟩
    · have htext : patternText p = .error (.argument f) := by
        rw [patternText_of_isPattern hp, hdisplay]
        rfl
      exact houtcome (format_of_pattern_error l registry htext)
    · have htext := patternText_eq_ok_iff.mpr ⟨hp, hdisplay⟩
      refine ⟨fun f hf => houtcome (format_of_options_error l registry htext hf), ?_⟩
      intro o d ho hd hvalid
      exact congrArg (fun x : Run String => x.run.run s)
        (format_of_invalid l registry htext ho hd hvalid)

/-- A text that is no date, with an unknown option and a letter that has no field: each fault is found
once those before it are gone, and the letter only with a date. -/
theorem format_precedence_faults :
    let never : Argument := .text "never"
    let leapDay : Argument := .atom (.moment
      ⟨⟨2024, 1, 29, 12, 0, 0, 0⟩, some 1709208000000, 0, fun _ => by decide⟩)
    let unknown : Argument := .mapping [(.text "digits", .int 2)]
    let outcome (date pattern : Option Argument) (options : Argument) :=
      (format date pattern options none).run.run .start
    (∃ text d, outcome none (some (.int 5)) unknown =
        (.error (.complaint ⟨.arity, text, some d⟩), .start) ∧
      d.message = .text "format() requires 2 arguments (date, pattern), but only 1 present") ∧
    (∃ text d, outcome (some never) (some (.int 5)) unknown =
        (.error (.complaint ⟨.pattern, text, some d⟩), .start) ∧
      d.message = .text "Pattern must be a string, got int") ∧
    (∃ f, Options.ofArgument unknown = .error f ∧
      outcome (some never) (some (.text "j")) unknown = (.error f, .start)) ∧
    outcome (some never) (some (.text "j")) .absent = (.ok "Invalid Date", .start) ∧
    ∃ f, (outcome (some leapDay) (some (.text "j")) .absent).1 = .error f ∧
      f.IsDirectiveComplaint ∧ IsReadAsValid (some leapDay) (some (.text "j")) .absent := by
  intro never leapDay unknown outcome
  have hno : ¬ (Argument.int 5).IsPattern := by rintro ⟨⟩
  have hpattern : (Argument.text "j").IsPattern := rfl
  have hinvalid : Dated.ofArgument never (.number (.integer 2)) = .ok (.moment .invalid) := by
    have hchars : "never".toList = ['n', 'e', 'v', 'e', 'r'] := rfl
    have hread : Moment.ofText "never" (.number (.integer 2)) = .ok .invalid := by
      rw [Moment.ofText, hchars]
      decide +kernel
    exact congrArg (Except.map Dated.moment) hread
  obtain ⟨f, hf⟩ : ∃ f, Options.ofArgument unknown = .error f := ⟨_, rfl⟩
  have hgiven (pattern options : Argument) :=
    (format_precedence (some never) (some pattern) options none .known .start).2.1 never pattern
      rfl rfl
  have hmissing := (format_precedence none (some (.int 5)) unknown none .known .start).1 (.inl rfl)
  have honly : "format() requires 2 arguments (date, pattern), but only " ++
      toString ((none : Option Argument).toList.length + (some (Argument.int 5)).toList.length) ++
      " present" = "format() requires 2 arguments (date, pattern), but only 1 present" := by
    decide +kernel
  have hkind : "Pattern must be a string, got " ++ (Argument.int 5).kindName =
      "Pattern must be a string, got int" := by
    decide +kernel
  refine ⟨by rw [← honly]; exact hmissing, by rw [← hkind]; exact (hgiven (.int 5) unknown).1 hno,
    ⟨f, hf, ((hgiven (.text "j") unknown).2.2 "j" hpattern rfl).1 f hf⟩,
    ((hgiven (.text "j") .absent).2.2 "j" hpattern rfl).2 .unset _ rfl hinvalid rfl, ?_⟩
  have hplan : Plan.ofPattern "j" = ⟨[], some (.reserved ⟨'j', 1, 0⟩)⟩ := by
    have hchars : "j".toList = ['j'] := rfl
    rw [Plan.ofPattern, Token.scan, hchars]
    decide +kernel
  obtain ⟨text, htext⟩ := PatternFault.exists_fault_eq (f := .reserved ⟨'j', 1, 0⟩)
    (not_isTooLong_of_le_999 (by decide))
  have hfails : (outcome (some leapDay) (some (.text "j")) .absent).1 =
      .error (PatternFault.fault (.reserved ⟨'j', 1, 0⟩)) := by
    obtain ⟨m, hd, hvalid⟩ : ∃ m, Dated.ofArgument leapDay (.number Options.unset.digitCount) =
        .ok m ∧ m.isValid.mapError Fault.argument = .ok true := ⟨_, rfl, rfl⟩
    have hpatternText : patternText (.text "j") = .ok "j" := rfl
    have ho : Options.ofArgument .absent = .ok .unset := rfl
    change ((format (some leapDay) (some (.text "j")) .absent none).run.run .start).1 = _
    rw [format, Run.ofExcept_ok_bind hpatternText, Run.ofExcept_ok_bind ho,
      Run.ofExcept_ok_bind hd, Run.ofExcept_ok_bind hvalid, hplan]
    rfl
  have hdirective : (PatternFault.fault (.reserved ⟨'j', 1, 0⟩)).IsDirectiveComplaint :=
    ⟨_, _, _, _, htext⟩
  exact ⟨_, hfails, hdirective, (format_precedence (some leapDay) (some (.text "j")) .absent none
    .known .start).2.2 _ hfails hdirective⟩

theorem Argument.display_ratio_of_isTooLong {q : Rat} (h : IsTooLong q.num.natAbs) :
    (number (.ratio q)).display = .error .numeralTooLong := by
  have hnum : numeral? q.num = none := by rw [numeral?, digits?_of_isTooLong h]; rfl
  have htext : (Number.ratio q).display? = none := by rw [Number.display?, hnum]; rfl
  exact congrArg orTooLong htext

/-- An integer too long to be written, as an exact fraction, stands in place of the pattern: the
unknown option behind it is not complained about. -/
theorem format_unwrittenPattern_fails :
    let long : Argument := .number (.ratio (tenTo 4300 : Int))
    let unknown : Argument := .mapping [(.text "digits", .int 2)]
    let outcome := (format (some (.int 0)) (some long) unknown none).run.run .start
    long.IsPattern ∧ (∃ f, Options.ofArgument unknown = .error f ∧ f.IsComplaint ∧
        outcome.1 ≠ .error f) ∧
      outcome = (.error (.argument .numeralTooLong), .start) := by
  intro long unknown outcome
  have hpattern : (Argument.number (.ratio (tenTo 4300 : Int))).IsPattern := rfl
  have hlong : IsTooLong ((tenTo 4300 : Int) : Rat).num.natAbs := by
    rw [Rat.num_intCast, Int.natAbs_natCast, isTooLong_iff]
    exact Nat.le_refl _
  have htext : patternText (.number (.ratio (tenTo 4300 : Int))) =
      .error (.argument .numeralTooLong) := by
    rw [patternText_of_isPattern hpattern, Argument.display_ratio_of_isTooLong hlong]
    rfl
  have houtcome : outcome = (.error (.argument .numeralTooLong), .start) :=
    congrArg (fun x : Run String => x.run.run .start)
      (format_of_pattern_error none .known htext)
  have hoption : Options.ofArgument unknown = .error (Fault.optionUnknown (.text "digits")) := rfl
  have hkey : (Argument.text "digits").display = .ok "digits" := rfl
  obtain ⟨text, hcomplaint⟩ := Fault.exists_optionUnknown hkey
  rw [hcomplaint] at hoption
  refine ⟨hpattern, ⟨_, hoption, ⟨_, rfl⟩, ?_⟩, houtcome⟩
  rw [houtcome]
  rintro ⟨⟩

end

end DatePattern
