import DatePattern.Proofs.Pattern.Failure
import DatePattern.Proofs.Pattern.PlanByPlace
import DatePattern.Proofs.Record.IntegerFields

/-! What a pattern asks of its localizer: one question for each of its fields but the offsets, in the
order of the pattern, and each within what localizers are told to expect. -/
namespace DatePattern

/-- A question that localizers expect: an era, quarter, month, weekday or hour that exists, and a
width at which there are names for all of them; or a number without sign, of a length, and as an
ordinal or not. -/
def Call.IsExpected (length : Int) (ordinal : Bool) : Call → Prop
  | era x width => (x = .int 1 ∨ x = .int (-1)) ∧ English.HasNames English.eras width 2
  | quarter x width _ =>
    (∃ n : Int, x = .int n ∧ 1 ≤ n ∧ n ≤ 4) ∧ English.HasNames English.quarters width 4
  | month x width _ =>
    (∃ n : Int, x = .int n ∧ 0 ≤ n ∧ n ≤ 11) ∧ English.HasNames English.months width 12
  | weekday x width _ =>
    (∃ n : Int, x = .int n ∧ 0 ≤ n ∧ n ≤ 6) ∧ English.HasNames English.weekdays width 7
  | timeOfDay x _ => ∃ n : Int, x = .int n ∧ 0 ≤ n ∧ n ≤ 23
  | number x leadingZeros isOrdinal _ =>
    (∃ n : Nat, x = .int n) ∧ leadingZeros = length ∧ isOrdinal = ordinal

/-- An expected question is for a number, or has an answer in English. -/
theorem Call.IsExpected.exists_name {length : Int} {ordinal : Bool} {c : Call}
    (h : c.IsExpected length ordinal) :
    (∃ value leadingZeros isOrdinal unit, c = .number value leadingZeros isOrdinal unit) ∨
      ∃ name, English.answer c = .ok name := by
  cases c with
  | era x width =>
    obtain ⟨hx, hnames⟩ := h
    rcases hx with rfl | rfl
    · exact .inr (English.exists_era hnames (.inl rfl))
    · exact .inr (English.exists_era hnames (.inr rfl))
  | quarter x width context =>
    obtain ⟨⟨n, rfl, hn⟩, hnames⟩ := h
    exact .inr (English.exists_quarter hnames hn context)
  | month x width context =>
    obtain ⟨⟨n, rfl, hn⟩, hnames⟩ := h
    exact .inr (English.exists_month hnames hn context)
  | weekday x width context =>
    obtain ⟨⟨n, rfl, hn⟩, hnames⟩ := h
    exact .inr (English.exists_weekday hnames hn context)
  | timeOfDay x width =>
    obtain ⟨n, rfl, -⟩ := h
    exact .inr (English.exists_timeOfDay n width)
  | number x leadingZeros isOrdinal unit => exact .inl ⟨_, _, _, _, rfl⟩

/-- The field is not an offset, which is shown without a question. -/
def Field.Asks (f : Field) : Prop := ∀ zulu, f ≠ .offset zulu

namespace Field

variable {m : Moment} {ms length : Int} {o : Options}

/-- What a field asks of a valid moment. It may be asked by the sign of a year, which is no part of
the question. -/
def Puts (f : Field) (length : Int) (m : Moment) (o : Options) : Prop :=
  ∃ signOf c, f.request length m o = .ok (.call signOf c) ∧ c.IsExpected length o.ordinal ∧
    ∀ hour width, c = .timeOfDay hour width → f = halfDay

theorem puts_call {f : Field} {signOf : Option Argument} {c : Call}
    (h : f.request length m o = .ok (.call signOf c)) (hc : c.IsExpected length o.ordinal)
    (hhour : ∀ hour width, c ≠ .timeOfDay hour width) : f.Puts length m o :=
  ⟨signOf, c, h, hc, fun hour width hsame => absurd hsame (hhour hour width)⟩

theorem puts_number {f : Field} (n : Int) (unit : Option CountedUnit)
    (h : f.request length m o = .ok (.number n length o unit)) : f.Puts length m o :=
  puts_call h ⟨⟨n.natAbs, rfl⟩, rfl, rfl⟩ (by simp)

theorem puts_year {f : Field} {n : Int} (h : f.request length m o = .ok (.year n length o)) :
    f.Puts length m o := by
  rw [Request.year] at h
  split at h
  case isTrue htwo =>
    subst htwo
    exact puts_number _ _ h
  case isFalse => exact puts_number _ _ h

/-- A field of a valid moment, other than the offset, puts a question that localizers expect. -/
theorem puts_of_asks (hms : m.instant = some ms) (f : Field) (hf : f.Asks) (length : Int)
    (o : Options) : f.Puts length m o := by
  obtain ⟨⟨hmonth, hmonth'⟩, -, hhour, -⟩ := m.wall_inRange hms
  cases f with
  | era =>
    refine puts_call rfl ⟨?_, English.hasNames_eras length⟩ (by simp)
    split
    · exact .inl rfl
    · exact .inr rfl
  | year => exact puts_year rfl
  | weekYear =>
    refine puts_year (n := yearOfEra (m.date.weekYear o.weekRule)) ?_
    rw [request, Moment.weekYear, Moment.ofValid_eq_ok hms]
    rfl
  | signedYear => exact puts_call rfl ⟨⟨_, rfl⟩, rfl, rfl⟩ (by simp)
  | quarter context =>
    by_cases hlength : length ≤ 2
    · exact puts_number _ _ (if_pos hlength)
    · refine puts_call (if_neg hlength) ⟨⟨_, rfl, ?_⟩, English.hasNames_quarters length⟩ (by simp)
      omega
  | month context =>
    by_cases hlength : length ≤ 2
    · exact puts_number _ _ (if_pos hlength)
    · exact puts_call (if_neg hlength)
        ⟨⟨_, rfl, hmonth, hmonth'⟩, English.hasNames_months length⟩ (by simp)
  | week =>
    refine puts_number (m.date.week o.weekRule) (some .week) ?_
    rw [request, Moment.week, Moment.ofValid_eq_ok hms]
    rfl
  | dayOfMonth => exact puts_number _ _ rfl
  | dayOfYear =>
    refine puts_number m.date.dayOfYear (some .dayOfYear) ?_
    rw [request, Moment.dayOfYear, Moment.ofValid_eq_ok hms]
    rfl
  | weekday context =>
    exact puts_call rfl ⟨⟨_, rfl, m.weekday_mem⟩, English.hasNames_weekdays length⟩ (by simp)
  | halfDay => exact ⟨none, _, rfl, ⟨_, rfl, hhour⟩, fun _ _ _ => rfl⟩
  | hourTo12 => exact puts_number _ _ rfl
  | hourTo23 => exact puts_number _ _ rfl
  | hourTo11 => exact puts_number _ _ rfl
  | hourTo24 => exact puts_number _ _ rfl
  | minute => exact puts_number _ _ rfl
  | second => exact puts_number _ _ rfl
  | fraction => exact puts_number _ _ rfl
  | offset zulu => exact absurd rfl (hf zulu)
  | secondStamp =>
    refine puts_number (ms / 1000) (some .timestamp) ?_
    rw [request, Moment.epochMs_eq_ok hms]
    rfl
  | millisecondStamp =>
    refine puts_number ms (some .timestamp) ?_
    rw [request, Moment.epochMs_eq_ok hms]
    rfl

end Field

namespace Run

variable {α β : Type} {x : Run α} {calls more : List Call}

/-- Where the run succeeds, it has put these calls behind those of before. -/
def Records (x : Run α) (calls : List Call) : Prop :=
  ∀ s a t, x.run.run s = (.ok a, t) → t.history = s.history ++ calls

theorem records_pure (a : α) : (pure a : Run α).Records [] := by
  intro s b t h
  cases h
  exact (List.append_nil _).symm

theorem records_throw (f : Fault) (calls : List Call) : (throw f : Run α).Records calls := by
  intro s b t h
  cases h

theorem records_warn (text : Option String) : (warn text).Records [] := by
  intro s a t h
  cases text <;> cases h <;> exact (List.append_nil _).symm

theorem records_ask (l : Localizer) (c : Call) : (ask l c).Records [c] := by
  intro s a t h
  rw [run_ask] at h
  obtain ⟨-, rfl⟩ := Prod.mk.inj h
  exact List.reverse_cons

theorem Records.bind {f : α → Run β} (hx : x.Records calls) (hf : ∀ a, (f a).Records more) :
    (x >>= f).Records (calls ++ more) := by
  intro s b u h
  rw [run_bind] at h
  cases hrun : x.run.run s with
  | mk r t =>
    rw [hrun] at h
    cases r with
    | error fault => cases h
    | ok a => rw [hf a t b u h, hx s a t hrun, List.append_assoc]

theorem records_ofExcept_bind {e : Except Fault α} {f : α → Run β}
    (h : ∀ a, e = .ok a → (f a).Records calls) : (ofExcept e >>= f).Records calls := by
  cases e with
  | ok a =>
    rw [ofExcept_ok_bind rfl]
    exact h a rfl
  | error fault =>
    rw [ofExcept_error_bind rfl]
    exact records_throw fault calls

theorem filterMap_cons_eq_append {γ : Type} (g : α → Option γ) (a : α) (as : List α) :
    (a :: as).filterMap g = (g a).toList ++ as.filterMap g := by
  cases ha : g a <;> simp [ha]

theorem records_mapM {f : α → Run β} {call? : α → Option Call}
    (h : ∀ a, (f a).Records (call? a).toList) (as : List α) :
    (as.mapM f).Records (as.filterMap call?) := by
  induction as with
  | nil => exact records_pure []
  | cons a as ih =>
    rw [List.mapM_cons, filterMap_cons_eq_append]
    refine (h a).bind fun b => ?_
    rw [← List.append_nil (as.filterMap call?)]
    exact ih.bind fun bs => records_pure (b :: bs)

end Run

/-- The question of a request, if it is one. -/
def Request.call? : Request → Option Call
  | text _ => none
  | call _ c => some c

/-- The question of a step, if its field asks one. -/
def Step.call? (asks : Reading) (o : Options) : Step → Option Call
  | .literal _ => none
  | .field f r ordinal =>
    (asks f r.length (if ordinal then o.withOrdinal else o)).toOption.bind Request.call?

section

variable (l : Localizer) (asks : Reading) (o : Options)

theorem Request.records_render (request : Request) :
    (request.render l).Records request.call?.toList := by
  cases request with
  | text s => exact Run.records_pure s
  | call signOf c =>
    refine (Run.records_ask l c).bind fun s => ?_
    cases (signedText signOf s).mapError Fault.argument with
    | ok shown => exact Run.records_pure shown
    | error f => exact Run.records_throw f []

theorem Step.records_render (step : Step) :
    (step.render asks l o).Records (step.call? asks o).toList := by
  cases step with
  | literal cs => exact Run.records_pure (String.ofList cs)
  | field f r ordinal =>
    refine (Run.records_warn _).bind fun _ => ?_
    refine Run.records_ofExcept_bind fun request hrequest => ?_
    rw [Step.call?, hrequest]
    exact request.records_render l

theorem Plan.records_render (p : Plan) :
    (p.render asks l o).Records (p.steps.filterMap (Step.call? asks o)) := by
  rw [← List.append_nil (p.steps.filterMap _)]
  refine (Run.records_mapM (Step.records_render l asks o) p.steps).bind fun texts => ?_
  cases p.fault? with
  | some f => exact Run.records_throw f.fault []
  | none => exact Run.records_pure (String.join texts)

/-- A plan with a fault has no text. -/
theorem Plan.fault?_of_render {p : Plan} {s t : Session} {text : String}
    (h : (p.render asks l o).run.run s = (.ok text, t)) : p.fault? = none := by
  cases hf : p.fault? with
  | none => rfl
  | some f =>
    rw [Plan.render, Run.run_bind, hf] at h
    split at h <;> cases h

end

/-- Of items that have a property, and of those alone, something is made that is related to them. -/
theorem forall₂_filter_filterMap {α β : Type} {related : α → β → Prop} {p : α → Prop}
    [DecidablePred p] {make? : α → Option β} {as : List α}
    (h : ∀ a ∈ as, p a ∧ (∃ b, make? a = some b ∧ related a b) ∨ ¬ p a ∧ make? a = none) :
    List.Forall₂ related (as.filter fun a => decide (p a)) (as.filterMap make?) := by
  induction as with
  | nil => exact .nil
  | cons a as ih =>
    obtain ⟨first, rest⟩ := List.forall_mem_cons.mp h
    rcases first with ⟨ha, b, hb, hab⟩ | ⟨ha, hnone⟩
    · rw [List.filter_cons, if_pos (decide_eq_true ha), List.filterMap_cons_some hb]
      exact .cons hab (ih rest)
    · rw [List.filter_cons, if_neg (by simpa using ha), List.filterMap_cons_none hnone]
      exact ih rest

namespace Field

theorem mem_letters {letter : Char} {f : Field} (h : ofLetter? letter = some f) :
    (letter, f) ∈ letters := by
  obtain ⟨before, behind, hsplit, -⟩ := List.lookup_eq_some_iff.mp h
  rw [hsplit]
  exact List.mem_append_right before List.mem_cons_self

/-- All fields ask but those of the letters for an offset. -/
theorem asks_iff {letter : Char} {f : Field} (h : ofLetter? letter = some f) :
    f.Asks ↔ letter ≠ 'X' ∧ letter ≠ 'x' := by
  have table : ∀ entry ∈ letters,
      (entry.2 = .offset true ∨ entry.2 = .offset false ↔ entry.1 = 'X' ∨ entry.1 = 'x') := by
    simp [letters]
  rw [← not_or, ← table _ (mem_letters h), Asks, Bool.forall_bool, not_or, and_comm]

theorem exists_offset_of_not_asks {f : Field} (h : ¬ f.Asks) : ∃ zulu, f = .offset zulu := by
  rw [Asks, not_forall] at h
  obtain ⟨zulu, hzulu⟩ := h
  exact ⟨zulu, not_not.mp hzulu⟩

end Field

/-- An offset is a text, or cannot be written. -/
theorem Step.call?_of_not_asks {f : Field} (h : ¬ f.Asks) (r : LetterRun) (ordinal : Bool)
    (m : Moment) (o : Options) : (Step.field f r ordinal).call? m.reading o = none := by
  obtain ⟨zulu, rfl⟩ := Field.exists_offset_of_not_asks h
  rw [call?, Moment.reading, Field.request]
  cases offsetRequest zulu r.length m.offset <;> rfl

namespace Token

/-- A run that asks its localizer: not of the ordinal letter, nor of a letter for an offset. -/
def AsksAt (tokens : List Token) (k : Nat) : Prop :=
  ∃ r ∈ runAt? tokens k, r.letter ≠ Field.ordinalLetter ∧ r.letter ≠ 'X' ∧ r.letter ≠ 'x'

instance (tokens : List Token) (k : Nat) : Decidable (AsksAt tokens k) :=
  inferInstanceAs (Decidable (∃ r ∈ runAt? tokens k, _))

/-- The places of the runs that ask, in the order of the pattern. -/
def asking (tokens : List Token) : List Nat :=
  (List.range tokens.length).filter fun k => decide (AsksAt tokens k)

/-- The question of the field at a place, as an ordinal number where the next token applies, and one
that localizers expect. -/
def IsQuestionAt (tokens : List Token) (m : Moment) (o : Options) (k : Nat) (c : Call) : Prop :=
  ∃ r ∈ runAt? tokens k, ∃ f ∈ Field.ofLetter? r.letter, ∃ signOf,
    f.request r.length m (if IsAppliedAt tokens (k + 1) then o.withOrdinal else o) =
      .ok (.call signOf c) ∧
    c.IsExpected r.length (decide (IsAppliedAt tokens (k + 1)) || o.ordinal)

variable {tokens : List Token} {k : Nat} {m : Moment} {ms : Int}

theorem IsQuestionAt.exists_name {o : Options} {c : Call} (h : IsQuestionAt tokens m o k c) :
    (∃ value leadingZeros isOrdinal unit, c = .number value leadingZeros isOrdinal unit) ∨
      ∃ name, English.answer c = .ok name := by
  obtain ⟨r, -, f, -, signOf, -, hexpected⟩ := h
  exact hexpected.exists_name

/-- Literal text asks nothing. -/
theorem call?_of_not_run (h : runAt? tokens k = none) (asks : Reading) (o : Options) :
    (shownAt tokens k).bind (Step.call? asks o) = none := by
  rw [runAt?] at h
  rw [shownAt]
  cases ht : tokens[k]? with
  | none => rfl
  | some t =>
    cases t with
    | literal cs => rfl
    | run r =>
      rw [ht] at h
      cases h

theorem exists_isQuestionAt (hms : m.instant = some ms) (o : Options) {r : LetterRun} {f : Field}
    (hr : runAt? tokens k = some r) (hf : Field.ofLetter? r.letter = some f) (hasks : f.Asks) :
    ∃ c, (shownAt tokens k).bind (Step.call? m.reading o) = some c ∧
      IsQuestionAt tokens m o k c := by
  obtain ⟨signOf, c, hrequest, hexpected, -⟩ := f.puts_of_asks hms hasks r.length
    (if IsAppliedAt tokens (k + 1) then o.withOrdinal else o)
  refine ⟨c, ?_, r, hr, f, hf, signOf, hrequest, ?_⟩
  · rw [shownAt_run (runAt?_eq_some.mp hr), hf]
    simp only [Option.map_some, Option.bind_some, Step.call?, Moment.reading, decide_eq_true_eq,
      hrequest]
    rfl
  · convert hexpected
    split_ifs with h
    · rw [decide_eq_true h]
      rfl
    · rw [decide_eq_false h, Bool.false_or]

/-- A token that does not offend shows a question if it asks, and else none. -/
theorem question_shownAt (hms : m.instant = some ms) (o : Options)
    (hgood : ¬ IsOffendingAt tokens k) :
    AsksAt tokens k ∧ (∃ c, (shownAt tokens k).bind (Step.call? m.reading o) = some c ∧
        IsQuestionAt tokens m o k c) ∨
      ¬ AsksAt tokens k ∧ (shownAt tokens k).bind (Step.call? m.reading o) = none := by
  cases hr : runAt? tokens k with
  | none =>
    refine .inr ⟨fun ⟨r, hasks, _⟩ => ?_, call?_of_not_run hr m.reading o⟩
    cases hr.symm.trans hasks
  | some r =>
    have hasks : AsksAt tokens k ↔
        r.letter ≠ Field.ordinalLetter ∧ r.letter ≠ 'X' ∧ r.letter ≠ 'x' := by
      simp [AsksAt, hr]
    have hshown := shownAt_run (runAt?_eq_some.mp hr)
    by_cases hletter : r.letter = Field.ordinalLetter
    · refine .inr ⟨fun h => (hasks.mp h).1 hletter, ?_⟩
      rw [hshown, hletter]
      rfl
    · obtain ⟨f, hf⟩ : ∃ f, Field.ofLetter? r.letter = some f := by
        rw [← Option.ne_none_iff_exists']
        intro hnone
        exact hgood ⟨r, hr, by rwa [if_neg hletter]⟩
      rw [hasks, and_iff_right hletter, ← Field.asks_iff hf]
      by_cases hfield : f.Asks
      · exact .inl ⟨hfield, exists_isQuestionAt hms o hr hf hfield⟩
      · refine .inr ⟨hfield, ?_⟩
        rw [hshown, hf]
        exact Step.call?_of_not_asks hfield r _ m o

/-- What is planned is what the tokens before a place show: all of them where none offends, and
else there is a fault, that of the first one that does. -/
theorem exists_ofTokens_eq (hproper : ∀ t ∈ tokens, t.IsProper) :
    (∀ k, ¬ IsOffendingAt tokens k) ∧
        Plan.ofTokens tokens = ⟨shownBefore tokens tokens.length, none⟩ ∨
      ∃ k f, IsOffendingAt tokens k ∧ (∀ j < k, ¬ IsOffendingAt tokens j) ∧
        Plan.ofTokens tokens = ⟨shownBefore tokens (renderedBefore tokens k), some f⟩ := by
  by_cases h : ∃ k, IsOffendingAt tokens k
  · have hfirst : ∀ j < Nat.find h, ¬ IsOffendingAt tokens j := fun j hj => Nat.find_min h hj
    obtain ⟨r, -, hplan⟩ := ofTokens_of_offender hproper (Nat.find_spec h) hfirst
    exact .inr ⟨_, _, Nat.find_spec h, hfirst, hplan⟩
  · have hgood : ∀ k, ¬ IsOffendingAt tokens k := not_exists.mp h
    exact .inl ⟨hgood, ofTokens_of_no_offender hproper hgood⟩

/-- Each field that is planned is that of a run. -/
theorem run_mem_of_field_mem (hproper : ∀ t ∈ tokens, t.IsProper) {f : Field} {r : LetterRun}
    {ordinal : Bool} (h : .field f r ordinal ∈ (Plan.ofTokens tokens).steps) :
    .run r ∈ tokens ∧ Field.ofLetter? r.letter = some f := by
  obtain ⟨n, hn⟩ : ∃ n, (Plan.ofTokens tokens).steps = shownBefore tokens n := by
    rcases exists_ofTokens_eq hproper with ⟨-, hplan⟩ | ⟨k, fault, -, -, hplan⟩
    · exact ⟨_, by rw [hplan]⟩
    · exact ⟨_, by rw [hplan]⟩
  rw [hn, shownBefore, List.mem_filterMap] at h
  obtain ⟨k, -, hk⟩ := h
  rw [shownAt] at hk
  split at hk
  case h_1 cs ht => cases hk
  case h_2 s ht =>
    obtain ⟨g, hg, heq⟩ := Option.map_eq_some_iff.mp hk
    cases heq
    exact ⟨List.mem_of_getElem? ht, hg⟩
  case h_3 ht => cases hk

end Token

section

variable {m : Moment} {d : Dated} {date options : Argument} {o : Options} {pattern text : String}
  {l : Localizer} {registry : LocaleRegistry} {s t : Session}

/-- Where a valid date in a pattern has a text, its localizer was asked one question for each run of a
letter other than the ordinal one and those for an offset, in the order of the pattern, and none for
any other token. A question is that of the run's field, as an ordinal number where the next token or
the options say so, and is one that localizers expect; so no name is missing. -/
theorem format_questions (ho : Options.ofArgument options = .ok o)
    (hdate : Dated.ofArgument date (.number o.digitCount) = .ok d) (hd : d.Shows m)
    (h : (format (some date) (some (.text pattern)) options (some l) registry).run.run s =
      (.ok text, t)) :
    let tokens := Token.scan pattern
    ∃ asked, t.history = s.history ++ asked ∧
      List.Forall₂ (Token.IsQuestionAt tokens m o) (Token.asking tokens) asked ∧
      ∀ c ∈ asked,
        (∃ value leadingZeros isOrdinal unit, c = .number value leadingZeros isOrdinal unit) ∨
          ∃ name, English.answer c = .ok name := by
  intro tokens
  obtain ⟨ms, hms⟩ := hd.exists_instant
  have hproper : ∀ t ∈ tokens, t.IsProper := Token.isProper_of_mem_scanAfter [] pattern.toList
  rw [format_eq_render ho hdate hd.isValid, hd.reading_eq] at h
  have hfault := Plan.fault?_of_render l m.reading o h
  have hcalls := Plan.records_render l m.reading o (Plan.ofPattern pattern) s text t h
  rw [Plan.ofPattern] at hfault hcalls
  obtain ⟨hgood, hplan⟩ | ⟨k, f, -, -, hplan⟩ := Token.exists_ofTokens_eq hproper
  case inr =>
    rw [hplan] at hfault
    cases hfault
  rw [hplan] at hcalls
  have hquestions : List.Forall₂ (Token.IsQuestionAt tokens m o) (Token.asking tokens)
      ((Token.shownBefore tokens tokens.length).filterMap (Step.call? m.reading o)) := by
    rw [Token.shownBefore, List.filterMap_filterMap]
    exact forall₂_filter_filterMap fun k _ => Token.question_shownAt hms o (hgood k)
  refine ⟨_, hcalls, hquestions, ?_⟩
  have hnames := hquestions.flip.imp fun c k hc => And.intro (Token.IsQuestionAt.exists_name hc) hc
  exact ((List.forall₂_and_left _ _).mp hnames).1

/-- An era, an ordinal year before it, and an offset, which is not asked for. The instant has half a
millisecond. -/
theorem format_questions_ides :
    let m : Moment := ⟨⟨-43, 2, 15, 12, 0, 0, 0⟩, some (-63517780800000), 0, fun _ => by decide⟩
    let record : MomentFields Argument :=
      { MomentFields.ofIntegers m.wall 0 0 with
        instant := .number (.binary (.finite true 127035561600001 (-1))) }
    let t : Session := ⟨.empty, [.number (.int 44) 1 true (some .year), .era (.int (-1)) .wide], []⟩
    Options.ofArgument .absent = .ok .unset ∧ (Dated.record record).Shows m ∧
    (format (some (.record record)) (some (.text "GGGG yo x")) .absent
      (some .english)).run.run .start = (.ok "Before Christ 44th +00", t) ∧
    ∃ asked, t.history = asked ∧
      List.Forall₂ (Token.IsQuestionAt (Token.scan "GGGG yo x") m .unset) [0, 2] asked ∧
      ∀ c ∈ asked,
        (∃ value leadingZeros isOrdinal unit, c = .number value leadingZeros isOrdinal unit) ∨
          ∃ name, English.answer c = .ok name := by
  intro m record t
  have ho : Options.ofArgument .absent = .ok .unset := rfl
  have hdate : Dated.ofArgument (.record record) (.number Options.unset.digitCount) =
      .ok (.record record) := rfl
  have hd : (Dated.record record).Shows m :=
    ⟨rfl, rfl, rfl, rfl, rfl, rfl, rfl, rfl, rfl, _, rfl, rfl⟩
  have hscan : Token.scan "GGGG yo x" = [.run ⟨'G', 4, 0⟩, .literal [' '], .run ⟨'y', 1, 5⟩,
      .run ⟨'o', 1, 6⟩, .literal [' '], .run ⟨'x', 1, 8⟩] := by
    have hchars : "GGGG yo x".toList = ['G', 'G', 'G', 'G', ' ', 'y', 'o', ' ', 'x'] := rfl
    rw [Token.scan, hchars]
    decide +kernel
  have hplan : Plan.ofPattern "GGGG yo x" =
      ⟨[.field .era ⟨'G', 4, 0⟩ false, .literal [' '], .field .year ⟨'y', 1, 5⟩ true,
        .literal [' '], .field (.offset false) ⟨'x', 1, 8⟩ false], none⟩ := by
    rw [Plan.ofPattern, hscan]
    decide +kernel
  have hrun : (format (some (.record record)) (some (.text "GGGG yo x")) .absent
      (some .english)).run.run .start = (.ok "Before Christ 44th +00", t) := by
    rw [format_eq_render ho hdate hd.isValid, hd.reading_eq, hplan]
    exact Prod.ext (by decide +kernel) (by decide +kernel)
  have hasking : Token.asking (Token.scan "GGGG yo x") = [0, 2] := by
    rw [hscan]
    decide
  obtain ⟨asked, hhistory, hquestions, hnames⟩ := format_questions ho hdate hd hrun
  rw [hasking] at hquestions
  exact ⟨ho, hd, hrun, asked, hhistory, hquestions, hnames⟩

end

end DatePattern
