import DatePattern.Proofs.Localizer.EnglishAnswers
import DatePattern.Proofs.Pattern.Questions
import DatePattern.Proofs.Record.IntegerFields

/-! Ordinal numbers. The option that asks for them keeps the text of each field, and puts behind that
of a number the suffix of the number that is shown. -/
namespace DatePattern

/-- The number that the digits of a text write, whatever else stands in the text. -/
def writtenNumber (text : String) : Nat :=
  Nat.ofDigitChars 10 (text.toList.filter Char.isDigit) 0

/-- A numeral is read back, from behind its zeros and its sign. -/
theorem writtenNumber_of_paddedNumeral? {n : Nat} {width : Int} {text sign : String}
    (htext : paddedNumeral? n width = some text) (hsign : sign = "" ∨ sign = "-") :
    writtenNumber (sign ++ text) = n := by
  obtain ⟨digits, hdigits, rfl⟩ := Option.map_eq_some_iff.mp htext
  have hwritten : digits = Nat.toDigits 10 n := by
    rw [digits?] at hdigits
    split at hdigits
    · exact (Option.some.inj hdigits).symm
    · cases hdigits
  subst hwritten
  have hkept : (padZeros width (Nat.toDigits 10 n)).filter Char.isDigit =
      padZeros width (Nat.toDigits 10 n) := by
    rw [List.filter_eq_self]
    intro c hc
    have hfixed : c ∈ fixedWidth width.toNat n := hc
    exact isDigit_of_mem_fixedWidth hfixed
  have hdropped : sign.toList.filter Char.isDigit = [] := by
    rcases hsign with rfl | rfl <;> rfl
  rw [writtenNumber, String.toList_append, String.toList_ofList, List.filter_append, hdropped, hkept,
    List.nil_append]
  exact (writesNumber_fixedWidth_max width.toNat n).value

/-- A sign is a text of its own in front. -/
theorem signedText_eq_ok {signOf : Option Argument} {text shown : String}
    (h : signedText signOf text = .ok shown) :
    ∃ sign, (sign = "" ∨ sign = "-") ∧ shown = sign ++ text ∧
      ∀ other, signedText signOf other = .ok (sign ++ other) := by
  cases signOf with
  | none =>
    cases h
    exact ⟨"", .inl rfl, String.empty_append.symm, fun other => congrArg _ String.empty_append.symm⟩
  | some x =>
    rw [signedText] at h
    simp only [signedText]
    cases hbelow : x.compares .below 0 with
    | error f =>
      rw [hbelow] at h
      cases h
    | ok below =>
      rw [hbelow] at h
      cases below with
      | true =>
        cases h
        exact ⟨"-", .inr rfl, rfl, fun other => rfl⟩
      | false =>
        cases h
        exact ⟨"", .inl rfl, String.empty_append.symm,
          fun other => congrArg _ String.empty_append.symm⟩

/-- The localizer writes a number as a numeral, and an ordinal one with a suffix behind it. -/
def Localizer.WritesOrdinals (l : Localizer) (suffix : Nat → String) : Prop :=
  ∀ (n : Nat) (width : Int) (ordinal : Bool) (unit : Option CountedUnit),
    l.reply (.number (.int n) width ordinal unit) =
      match paddedNumeral? n width with
      | some digits => .ok (if ordinal then digits ++ suffix n else digits)
      | none => .error (.argument .numeralTooLong)

theorem Localizer.writesOrdinals_english :
    english.WritesOrdinals fun n => English.suffix n := by
  intro n width ordinal unit
  rw [Request.reply_english, English.answer, English.number, Argument.paddedText_int,
    English.suffixOf_int]
  cases paddedNumeral? n width <;> cases ordinal <;> rfl

/-- An ordinal number has a suffix in a locale, or is remarked to have none; the call does not
fail. -/
theorem exists_ordinalSuffix (n : Nat) (code : String) (registry : LocaleRegistry) :
    ∃ suffix? remarks, ordinalSuffix (.int n) code registry = .ok (suffix?, remarks) := by
  obtain ⟨category, hcategory⟩ :
      ∃ category, ordinalCategory (.int n) code registry = .ok category := by
    rw [ordinalCategory]
    cases registry.find (normalizeCode code) with
    | error f => exact ⟨_, rfl⟩
    | ok locale =>
      obtain ⟨category, hcategory⟩ := registry.exists_ordinalCategory locale n
      have hnumber : (Argument.int n).number? = some (.integer n) := rfl
      have hmagnitude : (Argument.int n).magnitude = .ok (.int n) := by simp
      simp only [hmagnitude, Argument.ok_bind, hnumber, hcategory]
      exact ⟨category, rfl⟩
  rw [ordinalSuffix]
  split
  · exact ⟨_, _, rfl⟩
  · rw [hcategory, Argument.ok_bind]
    split <;> exact ⟨_, _, rfl⟩

/-- The suffix of an ordinal number in the locale: the empty one where there is none. -/
def LocaleContext.suffix (ctx : LocaleContext) (registry : LocaleRegistry) (n : Nat) : String :=
  ((ordinalSuffix (.int n) ctx.locale.code registry).toOption.bind Prod.fst).getD ""

theorem LocaleContext.writesOrdinals (ctx : LocaleContext) (registry : LocaleRegistry) :
    (ctx.localizer registry).WritesOrdinals (ctx.suffix registry) := by
  intro n width ordinal unit
  obtain ⟨suffix?, remarks, hsuffix⟩ := exists_ordinalSuffix n ctx.locale.code registry
  change (ctx.answer registry (.number (.int n) width ordinal unit)).result = _
  rw [answer, number, Argument.paddedText_int, suffix, hsuffix]
  cases paddedNumeral? n width <;> cases ordinal <;> rfl

namespace Request

/-- A request whose number is asked for as an ordinal one. -/
def withOrdinal : Request → Request
  | call signOf (.number x width _ unit) => call signOf (.number x width true unit)
  | request => request

theorem withOrdinal_year (n length : Int) (o : Options) :
    (year n length o).withOrdinal = year n length o.withOrdinal := by
  rw [year, year]
  split <;> rfl

/-- A request for a number that is none below zero, and not as an ordinal one. -/
def IsNumber (request : Request) : Prop :=
  ∃ signOf width unit, ∃ n : Nat, request = call signOf (.number (.int n) width false unit)

theorem isNumber_number {o : Options} (ho : o.ordinal = false) (n length : Int)
    (unit : Option CountedUnit) : (number n length o unit).IsNumber :=
  ⟨none, length, unit, n.natAbs, by rw [number, plain, ho]⟩

theorem isNumber_year {o : Options} (ho : o.ordinal = false) (n length : Int) :
    (year n length o).IsNumber := by
  rw [year]
  split
  · exact isNumber_number ho _ _ _
  · exact isNumber_number ho _ _ _

/-- The suffix is that of the number in the text. -/
theorem answer_withOrdinal {l : Localizer} {suffix : Nat → String} (hl : l.WritesOrdinals suffix)
    {request : Request} (hnumber : request.IsNumber) {text : String}
    (h : request.answer l = .ok text) :
    request.withOrdinal.answer l = .ok (text ++ suffix (writtenNumber text)) := by
  obtain ⟨signOf, width, unit, n, rfl⟩ := hnumber
  rw [answer, hl] at h
  rw [withOrdinal, answer, hl]
  cases hdigits : paddedNumeral? n width with
  | none =>
    rw [hdigits] at h
    cases h
  | some digits =>
    rw [hdigits] at h
    change (signedText signOf digits).mapError Fault.argument = .ok text at h
    cases hshown : signedText signOf digits with
    | error f =>
      rw [hshown] at h
      cases h
    | ok shown =>
      rw [hshown] at h
      cases h
      obtain ⟨sign, hsign, rfl, hother⟩ := signedText_eq_ok hshown
      rw [writtenNumber_of_paddedNumeral? hdigits hsign, String.append_assoc]
      change (signedText signOf (digits ++ suffix n)).mapError Fault.argument = _
      rw [hother]
      rfl

end Request

namespace Field

/-- The field shows a number at a length: not a name, nor an offset. -/
def ShowsNumber (length : Int) : Field → Prop
  | era | weekday _ | halfDay | offset _ => False
  | quarter _ | month _ => length ≤ 2
  | _ => True

/-- The runs of letters that show a number. -/
def IsNumericRun (letter : Char) (length : Int) : Prop :=
  letter ∈ ['y', 'Y', 'u', 'w', 'd', 'D', 'h', 'H', 'K', 'k', 'm', 's', 'S', 't', 'T'] ∨
    letter ∈ ['Q', 'q', 'M', 'L'] ∧ length ≤ 2

instance (letter : Char) (length : Int) : Decidable (IsNumericRun letter length) :=
  inferInstanceAs (Decidable (_ ∨ _ ∧ _))

theorem showsNumber_iff {letter : Char} {f : Field} (hf : ofLetter? letter = some f)
    (length : Int) : f.ShowsNumber length ↔ IsNumericRun letter length := by
  have table : ∀ entry ∈ letters, (entry.2.ShowsNumber length ↔ IsNumericRun entry.1 length) := by
    simp [letters, ShowsNumber, IsNumericRun]
  exact table _ (mem_letters hf)

variable {m : Moment} {o : Options} {request : Request}

/-- The option for ordinal numbers changes nothing but how numbers are asked for. -/
theorem request_withOrdinal (f : Field) (length : Int) (m : Moment) (o : Options) :
    f.request length m o.withOrdinal = (f.request length m o).map Request.withOrdinal := by
  have hyear (n : Int) : Except.ok (Request.year n length o.withOrdinal) =
      (Except.ok (ε := Fault) (Request.year n length o)).map Request.withOrdinal :=
    congrArg Except.ok (Request.withOrdinal_year n length o).symm
  cases f with
  | year => exact hyear _
  | weekYear =>
    rw [request, request, Options.weekRule_withOrdinal]
    cases m.weekYear o.weekRule with
    | error f => rfl
    | ok year => exact hyear _
  | quarter context | month context =>
    rw [request, request]
    split <;> rfl
  | week =>
    rw [request, request, Options.weekRule_withOrdinal]
    cases m.week o.weekRule <;> rfl
  | dayOfYear =>
    rw [request, request]
    cases m.dayOfYear <;> rfl
  | offset zulu =>
    rw [request, request]
    cases offsetRequest zulu length m.offset <;> rfl
  | secondStamp | millisecondStamp =>
    rw [request, request]
    cases m.epochMs <;> rfl
  | _ => rfl

theorem isNumber_of_request (ho : o.ordinal = false) {f : Field} {length : Int}
    (hf : f.ShowsNumber length) (h : f.request length m o = .ok request) : request.IsNumber := by
  -- A number that is worked out with success.
  have hcomputed {e : Except Fault Int} {g : Int → Request} (hg : ∀ n, (g n).IsNumber)
      (hrequest : (do return g (← e)) = Except.ok request) : request.IsNumber := by
    cases e with
    | error f => cases hrequest
    | ok n =>
      cases hrequest
      exact hg n
  have hnumber (n : Int) (unit : Option CountedUnit) : (Request.number n length o unit).IsNumber :=
    Request.isNumber_number ho n length unit
  cases f with
  | era | weekday context | halfDay | offset zulu => exact hf.elim
  | quarter context | month context =>
    cases (if_pos hf).symm.trans h
    exact hnumber _ _
  | year =>
    cases h
    exact Request.isNumber_year ho _ length
  | signedYear =>
    cases h
    exact ⟨some (.int m.wall.year), length, some .year, m.wall.year.natAbs, by
      rw [Request.signedNumber, ho]⟩
  | weekYear => exact hcomputed (fun year => Request.isNumber_year ho _ length) h
  | week | dayOfYear | secondStamp | millisecondStamp => exact hcomputed (fun n => hnumber _ _) h
  | dayOfMonth | hourTo12 | hourTo23 | hourTo11 | hourTo24 | minute | second | fraction =>
    cases h
    exact hnumber _ _

theorem withOrdinal_of_request {f : Field} {length : Int} (hf : ¬ f.ShowsNumber length)
    (h : f.request length m o = .ok request) : request.withOrdinal = request := by
  cases f with
  | era | weekday context | halfDay =>
    cases h
    rfl
  | quarter context | month context =>
    cases (if_neg hf).symm.trans h
    rfl
  | offset zulu =>
    rw [Field.request] at h
    cases htext : offsetRequest zulu length m.offset with
    | error f =>
      rw [htext] at h
      cases h
    | ok text =>
      rw [htext] at h
      cases h
      rfl
  | _ => exact absurd trivial hf

variable {letter : Char} {f : Field} {d : Dated} {length : Int} {s t : Session}

/-- The text of a field as an ordinal number, where the localizer does not look back. -/
theorem outcome_withOrdinal {l : Localizer} {suffix : Nat → String} (hl : l.IsStateless)
    (hsuffix : l.WritesOrdinals suffix) (hf : ofLetter? letter = some f) (hd : d.Shows m)
    (ho : o.ordinal = false) {text : String}
    (h : ((f.render length d.reading l o).run.run s).1 = .ok text) :
    ((f.render length d.reading l o.withOrdinal).run.run t).1 =
      .ok (text ++ if IsNumericRun letter length then suffix (writtenNumber text) else "") := by
  rw [f.gives_render hl, hd.reading_eq, Moment.reading] at h
  rw [f.gives_render hl, hd.reading_eq, Moment.reading, request_withOrdinal]
  cases hrequest : f.request length m o with
  | error fault =>
    rw [hrequest] at h
    cases h
  | ok request =>
    rw [hrequest] at h
    change request.withOrdinal.answer l = _
    by_cases hnumeric : IsNumericRun letter length
    · rw [if_pos hnumeric]
      have hnumber := isNumber_of_request ho ((showsNumber_iff hf length).mpr hnumeric) hrequest
      exact Request.answer_withOrdinal hsuffix hnumber h
    · rw [if_neg hnumeric, String.append_empty,
        withOrdinal_of_request (mt (showsNumber_iff hf length).mp hnumeric) hrequest]
      exact h

/-- Asking for ordinal numbers keeps the text of a field. Behind the text of a number stands the
suffix of the number that is shown: of the last two digits of a year, of a year within its era and
without its sign, of an hour on its dial. The text of a name or an offset stays as it is. The suffix
is that of English for the fixed names, and else that of the locale in its registry, if it has one. -/
theorem render_withOrdinal (hf : ofLetter? letter = some f) (hd : d.Shows m)
    (ho : o.ordinal = false) (length : Int) (s t : Session) :
    let outcome (l : Localizer) (o : Options) (s : Session) :=
      ((f.render length d.reading l o).run.run s).1
    (∀ text, outcome .english o s = .ok text →
      outcome .english o.withOrdinal t = .ok
        (text ++ if IsNumericRun letter length then English.suffix (writtenNumber text) else "")) ∧
    ∀ (registry : LocaleRegistry) (ctx : LocaleContext) text,
      outcome (ctx.localizer registry) o s = .ok text →
      ∃ suffix? remarks,
        ordinalSuffix (.int (writtenNumber text)) ctx.locale.code registry =
          .ok (suffix?, remarks) ∧
        outcome (ctx.localizer registry) o.withOrdinal t = .ok
          (text ++ if IsNumericRun letter length then suffix?.getD "" else "") := by
  intro outcome
  refine ⟨fun text h => ?_, fun registry ctx text h => ?_⟩
  · exact outcome_withOrdinal (Localizer.isStateless_ofFunction _) Localizer.writesOrdinals_english
      hf hd ho h
  · obtain ⟨suffix?, remarks, hsuffix⟩ :=
      exists_ordinalSuffix (writtenNumber text) ctx.locale.code registry
    have hshown : ctx.suffix registry (writtenNumber text) = suffix?.getD "" := by
      rw [LocaleContext.suffix, hsuffix]
      rfl
    refine ⟨suffix?, remarks, hsuffix, ?_⟩
    rw [← hshown]
    exact outcome_withOrdinal (Localizer.isStateless_ofFunction _) (ctx.writesOrdinals registry) hf
      hd ho h

/-- Two letters of the year 111 before the era, with half a millisecond in the instant. The suffix is
that of the eleven that is shown. -/
theorem render_withOrdinal_eleven :
    let m : Moment := ⟨⟨-110, 0, 1, 0, 0, 0, 0⟩, some 0, 0, fun _ => by decide⟩
    let d : Dated := .record
      { MomentFields.ofIntegers m.wall 0 0 with instant := .number (.binary (.finite false 1 (-1))) }
    let outcome (l : Localizer) (o : Options) :=
      ((year.render 2 d.reading l o).run.run .start).1
    let french := (LocaleContext.lenient "fr-FR").localizer
    ofLetter? 'y' = some year ∧ d.Shows m ∧ Options.unset.ordinal = false ∧
    outcome .english .unset = .ok "11" ∧ outcome .english Options.unset.withOrdinal = .ok "11th" ∧
    outcome french .unset = .ok "11" ∧ outcome french Options.unset.withOrdinal = .ok "11e" := by
  intro m d outcome french
  have hd : d.Shows m := ⟨rfl, rfl, rfl, rfl, rfl, rfl, rfl, rfl, rfl, 0, rfl, rfl⟩
  have hnumeric : IsNumericRun 'y' 2 := .inl (by decide)
  have hwritten : writtenNumber "11" = 11 := rfl
  have hplain : outcome .english .unset = .ok "11" := by decide +kernel
  have hfrench : outcome french .unset = .ok "11" := by decide +kernel
  have hletter : ofLetter? 'y' = some year := rfl
  have hsuffixes := render_withOrdinal hletter hd (o := .unset) rfl 2 .start .start
  have hth := hsuffixes.1 "11" hplain
  rw [if_pos hnumeric, hwritten] at hth
  obtain ⟨suffix?, remarks, hsuffix, he⟩ := hsuffixes.2 .known (.lenient "fr-FR") "11" hfrench
  rw [if_pos hnumeric] at he
  rw [hwritten] at hsuffix
  have hknown : suffix? = some "e" := by
    have hcomputed : ordinalSuffix (.int (11 : Nat)) (LocaleContext.lenient "fr-FR").locale.code =
        .ok (some "e", []) := by decide +kernel
    cases hcomputed.symm.trans hsuffix
    rfl
  subst hknown
  exact ⟨hletter, hd, rfl, hplain, hth, hfrench, he⟩

end Field

end DatePattern
