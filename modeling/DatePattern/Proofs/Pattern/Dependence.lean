import DatePattern.Proofs.Pattern.Questions
import DatePattern.Proofs.Record.IntegerFields

/-! What the text of a date depends on: of the date, only the parts that the letters of the pattern
read; of the options, only the one for ordinal numbers and the rule of weeks. -/
namespace DatePattern

/-- A part of a date that letters read as a whole: the calendar day, or one of the other fields. -/
inductive DatePart
  | day
  | hour
  | minute
  | second
  | millisecond
  | offset
  | instant
deriving DecidableEq

/-- The letters that read a part. -/
def DatePart.letters : DatePart → List Char
  | day => ['G', 'y', 'Y', 'u', 'Q', 'q', 'M', 'L', 'w', 'd', 'D', 'E', 'e', 'c']
  | hour => ['a', 'h', 'H', 'K', 'k']
  | minute => ['m']
  | second => ['s']
  | millisecond => ['S']
  | offset => ['X', 'x']
  | instant => ['t', 'T']

/-- The part that a field reads. -/
def Field.source : Field → DatePart
  | halfDay | hourTo12 | hourTo23 | hourTo11 | hourTo24 => .hour
  | minute => .minute
  | second => .second
  | fraction => .millisecond
  | offset _ => .offset
  | secondStamp | millisecondStamp => .instant
  | _ => .day

theorem Field.mem_letters_source {letter : Char} {f : Field} (hf : ofLetter? letter = some f) :
    letter ∈ f.source.letters := by
  have table : ∀ entry ∈ letters, entry.1 ∈ entry.2.source.letters := by
    simp [letters, source, DatePart.letters]
  exact table _ (mem_letters hf)

namespace MomentFields

variable {r q : MomentFields Argument}

/-- The records agree on a part. Instants agree where their whole milliseconds do. -/
def AgreeOn (r q : MomentFields Argument) : DatePart → Prop
  | .day => r.year = q.year ∧ r.month = q.month ∧ r.day = q.day
  | .hour => r.hour = q.hour
  | .minute => r.minute = q.minute
  | .second => r.second = q.second
  | .millisecond => r.millisecond = q.millisecond
  | .offset => r.offset = q.offset
  | .instant => r.instant.wholePart = q.instant.wholePart

theorem date_congr (h : r.AgreeOn q .day) : r.date = q.date := by
  obtain ⟨hyear, hmonth, hday⟩ := h
  rw [date, date, hyear, hmonth, hday]

theorem weekday_congr (h : r.AgreeOn q .day) : r.weekday = q.weekday := by
  rw [weekday, weekday, dayCount, dayCount, date_congr h]

/-- Valid records of one day have the same numbers that are read off it. -/
theorem ofValid_congr (hr : r.isValid = .ok true) (hq : q.isValid = .ok true)
    (h : r.AgreeOn q .day) (operation : String) (compute : DateRecord → Computed) :
    r.ofValid operation (do compute (← r.date)) = q.ofValid operation (do compute (← q.date)) := by
  rw [ofValid_of_valid hr, ofValid_of_valid hq, date_congr h]

/-- A field asks the same of valid records that agree on the part it reads. -/
theorem request_congr (hr : r.isValid = .ok true) (hq : q.isValid = .ok true) {f : Field}
    (h : r.AgreeOn q f.source) (length : Int) (o : Options) :
    request f length r o = request f length q o := by
  cases f with
  | era => rw [request, request, era, era, h.1]
  | year => rw [request, request, h.1]
  | weekYear =>
    rw [request, request, weekYear, weekYear,
      ofValid_congr hr hq h "iso_week_year" fun date => date.weekYear o.weekRule.record]
  | signedYear => rw [request, request, h.1]
  | quarter context => rw [request, request, quarter, quarter, h.2.1]
  | month context => rw [request, request, h.2.1]
  | week =>
    rw [request, request, week, week,
      ofValid_congr hr hq h "iso_week" fun date => date.week o.weekRule.record]
  | dayOfMonth => rw [request, request, h.2.2]
  | dayOfYear =>
    rw [request, request, dayOfYear, dayOfYear,
      ofValid_congr hr hq h "day_of_year" DateRecord.dayOfYear]
  | weekday context => rw [request, request, weekday_congr h]
  | halfDay | hourTo12 | hourTo23 | hourTo11 | hourTo24 =>
    have hhour : r.hour = q.hour := h
    simp only [request, dialHour, hhour]
  | minute =>
    have hminute : r.minute = q.minute := h
    rw [request, request, hminute]
  | second =>
    have hsecond : r.second = q.second := h
    rw [request, request, hsecond]
  | fraction =>
    have hmillisecond : r.millisecond = q.millisecond := h
    rw [request, request, fraction, fraction, hmillisecond]
  | offset zulu =>
    have hoffset : r.offset = q.offset := h
    simp only [request, offsetText, hours, hoursAndMinutes, offsetSign, hoffset]
  | secondStamp | millisecondStamp =>
    have hinstant : r.epochMs = q.epochMs := h
    rw [request, request, hinstant]

/-- A field asks the same with options that say the same of ordinal numbers and, if it reads weeks, of
the rule of weeks. -/
theorem request_options {o p : Options} (hordinal : o.ordinal = p.ordinal) {f : Field}
    (hrule : f = .week ∨ f = .weekYear → o.weekRule = p.weekRule) (length : Int)
    (r : MomentFields Argument) : request f length r o = request f length r p := by
  have hmagnitude (x : Argument) (length : Int) (unit : Option CountedUnit) :
      Request.magnitude x length o unit = Request.magnitude x length p unit := by
    rw [Request.magnitude, Request.magnitude, hordinal]
  have hyear (x : Argument) :
      Request.yearOfRecord x length o = Request.yearOfRecord x length p := by
    simp only [Request.yearOfRecord, hmagnitude]
  cases f with
  | year => simp only [request, hyear]
  | weekYear => simp only [request, hyear, hrule (.inr rfl)]
  | week => simp only [request, hmagnitude, hrule (.inl rfl)]
  | signedYear => simp only [request, Request.signedMagnitude, hordinal]
  | secondStamp | millisecondStamp => simp only [request, Request.number, hordinal]
  | _ => simp only [request, hmagnitude]

end MomentFields

section

variable {l : Localizer}

/-- What a date comes to in a pattern: what the options do, then the text of an invalid date or the
answer of the pattern's plan. -/
theorem gives_format_dated {registry : LocaleRegistry} (d : Dated) (hl : l.IsStateless)
    (pattern : String) (options : Argument) :
    (format (some d.argument) (some (.text pattern)) options (some l) registry).Gives (do
      let o ← Options.ofArgument options
      let valid ← d.isValid.mapError Fault.argument
      if valid then (Plan.ofPattern pattern).answer d.reading l o else return invalidDateText) := by
  have htext : patternText (.text pattern) = .ok pattern := rfl
  rw [format, Run.ofExcept_ok_bind htext]
  refine (Run.gives_ofExcept _).bind fun o => ?_
  rw [Run.ofExcept_ok_bind (d.ofArgument_argument _)]
  refine (Run.gives_ofExcept _).bind fun valid => ?_
  cases valid with
  | false => exact Run.gives_pure invalidDateText
  | true => exact (Plan.ofPattern pattern).gives_render hl d.reading

variable {pattern : String}

/-- The answer in a pattern depends on what the fields of its runs ask for. -/
theorem Plan.answer_of_requests {asks asks' : Reading} {o p : Options}
    (h : ∀ r f, .run r ∈ Token.scan pattern → Field.ofLetter? r.letter = some f →
      ∀ ordinal : Bool, asks f r.length (if ordinal then o.withOrdinal else o) =
        asks' f r.length (if ordinal then p.withOrdinal else p)) :
    (Plan.ofPattern pattern).answer asks l o = (Plan.ofPattern pattern).answer asks' l p := by
  have hproper : ∀ t ∈ Token.scan pattern, t.IsProper :=
    Token.isProper_of_mem_scanAfter [] pattern.toList
  refine Plan.answer_congr _ fun step hstep => ?_
  cases step with
  | literal cs => rfl
  | field f r ordinal =>
    obtain ⟨hr, hletter⟩ := Token.run_mem_of_field_mem hproper hstep
    rw [Step.answer, Step.answer, h r f hr hletter ordinal]

variable {a b : Dated}

theorem Plan.answer_of_agree (ha : a.fields.isValid = .ok true) (hb : b.fields.isValid = .ok true)
    (hagree : ∀ r, .run r ∈ Token.scan pattern → ∀ part, r.letter ∈ part.letters →
      a.fields.AgreeOn b.fields part) (o : Options) :
    (Plan.ofPattern pattern).answer a.reading l o =
      (Plan.ofPattern pattern).answer b.reading l o := by
  refine Plan.answer_of_requests fun r f hr hletter ordinal => ?_
  have hsource := hagree r hr f.source (Field.mem_letters_source hletter)
  rw [← Dated.reading_fields ha, ← Dated.reading_fields hb]
  exact MomentFields.request_congr ha hb hsource r.length _

/-- Two dates that agree on the parts which the letters of a pattern read come to the same in it, with
any options and any localizer that does not look back: to the same text, or the same fault. So the
offset and the instant do not matter without a letter for them, even if they do not fit the rest. -/
theorem format_reads_parts (ha : a.fields.isValid = .ok true) (hb : b.fields.isValid = .ok true)
    (hl : l.IsStateless) (pattern : String) (options : Argument) (registry : LocaleRegistry)
    (s t : Session) :
    let outcome (d : Dated) (s : Session) :=
      ((format (some d.argument) (some (.text pattern)) options (some l) registry).run.run s).1
    ((∀ r, .run r ∈ Token.scan pattern → ∀ part : DatePart, r.letter ∈ part.letters →
      a.fields.AgreeOn b.fields part) → outcome a s = outcome b t) ∧
    ((∀ r, .run r ∈ Token.scan pattern → r.letter ∉ ['X', 'x', 't', 'T']) →
      (∀ part : DatePart, part ≠ .offset → part ≠ .instant → a.fields.AgreeOn b.fields part) →
      outcome a s = outcome b t) := by
  intro outcome
  have hsame (hagree : ∀ r, .run r ∈ Token.scan pattern → ∀ part : DatePart,
      r.letter ∈ part.letters → a.fields.AgreeOn b.fields part) : outcome a s = outcome b t := by
    have hplans (o : Options) := Plan.answer_of_agree (l := l) ha hb hagree o
    refine (gives_format_dated a hl pattern options s).trans ?_
    refine Eq.trans ?_ (gives_format_dated b hl pattern options t).symm
    rw [Dated.isValid_of_fields ha, Dated.isValid_of_fields hb]
    simp only [hplans]
  refine ⟨hsame, fun hletters hagree => hsame fun r hr part hpart => ?_⟩
  refine hagree part ?_ ?_
  · rintro rfl
    exact hletters r hr (List.mem_append_left ['t', 'T'] hpart)
  · rintro rfl
    exact hletters r hr (List.mem_append_right ['X', 'x'] hpart)

/-- Noon of the leap day, and the noon of another day with an offset and an instant that do not fit
it. -/
theorem format_reads_parts_noon :
    let m : Moment := ⟨⟨2024, 1, 29, 12, 0, 0, 0⟩, some 1709208000000, 0, fun _ => by decide⟩
    let n : Moment := ⟨⟨-43, 2, 15, 12, 0, 0, 0⟩, some 7, 90, fun _ => by decide⟩
    let outcome (m : Moment) := ((format (some (Dated.moment m).argument) (some (.text "h 'h'"))
      .absent (some .english)).run.run .start).1
    (Dated.moment m).fields.isValid = .ok true ∧ (Dated.moment n).fields.isValid = .ok true ∧
    outcome m = outcome n ∧ outcome n = .ok "12 h" := by
  intro m n outcome
  have hm : (Dated.moment m).fields.isValid = .ok true := by decide +kernel
  have hn : (Dated.moment n).fields.isValid = .ok true := by decide +kernel
  have hscan : Token.scan "h 'h'" = [.run ⟨'h', 1, 0⟩, .literal [' ', 'h']] := by
    have hchars : "h 'h'".toList = ['h', ' ', quote, 'h', quote] := rfl
    rw [Token.scan, hchars]
    decide +kernel
  have hagree : ∀ r, .run r ∈ Token.scan "h 'h'" → ∀ part : DatePart, r.letter ∈ part.letters →
      (Dated.moment m).fields.AgreeOn (Dated.moment n).fields part := by
    rw [hscan]
    intro r hr part hpart
    have hletter : r = ⟨'h', 1, 0⟩ := by simpa using hr
    subst hletter
    cases part with
    | hour => rfl
    | _ => exact absurd hpart (by decide)
  have hsame := (format_reads_parts hm hn (l := .english) (Localizer.isStateless_ofFunction _) "h 'h'"
    .absent .known .start .start).1 hagree
  have htext : outcome n = .ok "12 h" := by
    have hplan : Plan.ofPattern "h 'h'" =
        ⟨[.field .hourTo12 ⟨'h', 1, 0⟩ false, .literal [' ', 'h']], none⟩ := by
      rw [Plan.ofPattern, hscan]
      decide +kernel
    refine (gives_format_english (m := n) rfl "h 'h'" .unset .start).trans ?_
    rw [hplan]
    decide +kernel
  exact ⟨hm, hn, hsame, htext⟩

/-- The letters that read weeks. -/
theorem Field.readsWeeks_iff {letter : Char} {f : Field} (hf : ofLetter? letter = some f) :
    f = week ∨ f = weekYear ↔ letter = 'w' ∨ letter = 'Y' := by
  have table : ∀ entry ∈ letters,
      (entry.2 = week ∨ entry.2 = weekYear ↔ entry.1 = 'w' ∨ entry.1 = 'Y') := by
    simp [letters]
  exact table _ (mem_letters hf)

variable {d : Dated} {options others : Argument} {o p : Options}

theorem Plan.answer_of_options (hvalid : d.fields.isValid = .ok true)
    (hordinal : o.ordinal = p.ordinal)
    (hrule : ∀ r, .run r ∈ Token.scan pattern → r.letter = 'w' ∨ r.letter = 'Y' →
      o.weekRule = p.weekRule) :
    (Plan.ofPattern pattern).answer d.reading l o =
      (Plan.ofPattern pattern).answer d.reading l p := by
  refine Plan.answer_of_requests fun r f hr hletter ordinal => ?_
  have hweeks : f = .week ∨ f = .weekYear → o.weekRule = p.weekRule := fun hf =>
    hrule r hr ((Field.readsWeeks_iff hletter).mp hf)
  rw [← Dated.reading_fields hvalid]
  cases ordinal with
  | false => exact MomentFields.request_options hordinal hweeks r.length d.fields
  | true =>
    exact MomentFields.request_options (o := o.withOrdinal) (p := p.withOrdinal) rfl hweeks
      r.length d.fields

/-- Two options that say the same of ordinal numbers make no difference to a date in a pattern if they
have one rule of weeks, or if no letter of the pattern reads weeks: the text is the same, or the
fault. The digits of expanded years and the acknowledgements do not matter, though the latter decide
on warnings. -/
theorem format_reads_weekRule (ho : Options.ofArgument options = .ok o)
    (hp : Options.ofArgument others = .ok p) (hordinal : o.ordinal = p.ordinal)
    (hrule : o.weekRule = p.weekRule ∨
      ∀ r, .run r ∈ Token.scan pattern → r.letter ≠ 'w' ∧ r.letter ≠ 'Y')
    (hvalid : d.fields.isValid = .ok true) (hl : l.IsStateless) (registry : LocaleRegistry)
    (s t : Session) :
    let outcome (options : Argument) (s : Session) :=
      ((format (some d.argument) (some (.text pattern)) options (some l) registry).run.run s).1
    outcome options s = outcome others t := by
  intro outcome
  have hgives {options : Argument} {o : Options} (ho : Options.ofArgument options = .ok o)
      (s : Session) : outcome options s = (Plan.ofPattern pattern).answer d.reading l o :=
    gives_format ho (d.ofArgument_argument _) (Dated.isValid_of_fields hvalid) hl pattern s
  rw [hgives ho, hgives hp]
  refine Plan.answer_of_options hvalid hordinal fun r hr hletter => ?_
  rcases hrule with hsame | hnone
  · exact hsame
  · obtain ⟨hw, hY⟩ := hnone r hr
    exact absurd hletter (not_or.mpr ⟨hw, hY⟩)

/-- A day of the year that is warned of with some options and not with others, whose weeks begin on
another day too. -/
theorem format_reads_weekRule_dayOfYear :
    let m : Moment := ⟨⟨2024, 1, 29, 12, 0, 0, 0⟩, some 1709208000000, 0, fun _ => by decide⟩
    let p : Options :=
      { Options.unset with
        weekStartsOn := some 6
        acknowledgesDayOfYear := true
        weekStartsOn_inRange := by decide }
    let outcome (options : Argument) := ((format (some (Dated.moment m).argument) (some (.text "D"))
      options (some .english)).run.run .start).1
    (Dated.moment m).fields.isValid = .ok true ∧ Options.unset.weekRule ≠ p.weekRule ∧
    (∀ r, .run r ∈ Token.scan "D" → r.letter ≠ 'w' ∧ r.letter ≠ 'Y') ∧
    outcome (.atom (.options .unset)) = outcome (.atom (.options p)) ∧
    outcome (.atom (.options p)) = .ok "60" := by
  intro m p outcome
  have hvalid : (Dated.moment m).fields.isValid = .ok true := by decide +kernel
  have hscan : Token.scan "D" = [.run ⟨'D', 1, 0⟩] := by
    have hchars : "D".toList = ['D'] := rfl
    rw [Token.scan, hchars]
    decide +kernel
  have hnone : ∀ r, .run r ∈ Token.scan "D" → r.letter ≠ 'w' ∧ r.letter ≠ 'Y' := by
    rw [hscan]
    simp
  have ho : Options.ofArgument (.atom (.options .unset)) = .ok .unset := rfl
  have hp : Options.ofArgument (.atom (.options p)) = .ok p := rfl
  have hsame := format_reads_weekRule ho hp rfl (.inr hnone) hvalid (l := .english)
    (Localizer.isStateless_ofFunction _) .known .start .start
  have htext : outcome (.atom (.options p)) = .ok "60" := by
    have hplan : Plan.ofPattern "D" = ⟨[.field .dayOfYear ⟨'D', 1, 0⟩ false], none⟩ := by
      rw [Plan.ofPattern, hscan]
      decide +kernel
    refine (gives_format_english (m := m) rfl "D" p .start).trans ?_
    rw [hplan]
    decide +kernel
  exact ⟨hvalid, by decide, hnone, hsame, htext⟩

end

end DatePattern
