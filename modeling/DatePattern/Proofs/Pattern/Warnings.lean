import DatePattern.Proofs.Locale.Transparency
import DatePattern.Proofs.Pattern.Precedence
import DatePattern.Proofs.Pattern.Questions
import DatePattern.Proofs.Record.IntegerFields

/-! The warnings of a call: one for each run of letters that is easily taken for another one, in the
order of the pattern, up to where the call fails. -/
namespace DatePattern

/-- The warning about a run of letters: of a week year in two or four letters, and of a day of the
year in one or two, unless the options acknowledge it. It quotes the run, and a run of the usual
letter that is as long. -/
def LetterRun.warning? (r : LetterRun) (o : Options) : Option String :=
  let warning (usual : Char) (option : String) : String :=
    "Pattern uses '" ++ r.text ++ "'; did you mean '" ++
      String.ofList (List.replicate r.length usual) ++ "'? Set " ++ option ++ "=True if '" ++
      r.text ++ "' is intended"
  if r.letter = 'Y' ∧ (r.length = 2 ∨ r.length = 4) ∧ o.acknowledgesWeekYear = false then
    some (warning 'y' "use_additional_week_year_token")
  else if r.letter = 'D' ∧ (r.length = 1 ∨ r.length = 2) ∧ o.acknowledgesDayOfYear = false then
    some (warning 'd' "use_additional_day_of_year_token")
  else none

/-- Literal text is never warned of. -/
def Token.warning? (o : Options) : Token → Option String
  | literal _ => none
  | run r => r.warning? o

def Step.warning? (o : Options) : Step → Option String
  | .literal _ => none
  | .field f r _ => confusion? f r o

def Note.warning? : Note → Option String
  | warning text => some text
  | remark _ => none

/-- The warnings of a session, the oldest first. -/
def Session.warnings (s : Session) : List String := s.log.filterMap Note.warning?

/-- Notes that are made in a session, the newest first, come behind those of before. -/
theorem Session.warnings_eq_append {s t : Session} {notes : List Note}
    (h : t.notes = notes ++ s.notes) :
    t.warnings = s.warnings ++ notes.reverse.filterMap Note.warning? := by
  rw [warnings, log, h, List.reverse_append, List.filterMap_append]
  rfl

namespace Run

variable {α β : Type} {x : Run α}

/-- The run makes warnings in this order: all of them if it succeeds, and else the first few. -/
def Warns (x : Run α) (due : List String) : Prop :=
  ∀ s, ∃ made, (x.run.run s).2.warnings = s.warnings ++ made ∧ made <+: due ∧
    ∀ a, (x.run.run s).1 = .ok a → made = due

/-- A run that makes no notes. -/
theorem warns_of_silent (h : ∀ s, (x.run.run s).2.warnings = s.warnings) : x.Warns [] :=
  fun s => ⟨[], by rw [h, List.append_nil], List.prefix_rfl, fun _ _ => rfl⟩

theorem warns_pure (a : α) : (pure a : Run α).Warns [] := warns_of_silent fun _ => rfl

theorem warns_throw (f : Fault) : (throw f : Run α).Warns [] := warns_of_silent fun _ => rfl

theorem warns_ofExcept (e : Except Fault α) : (ofExcept e).Warns [] := by
  cases e with
  | ok a => exact warns_pure a
  | error f => exact warns_throw f

theorem warns_warn (text : Option String) : (warn text).Warns text.toList := by
  cases text with
  | none => exact warns_pure ()
  | some text =>
    have hnote (s : Session) : ((warn (some text)).run.run s).2.notes =
        [Note.warning text] ++ s.notes := rfl
    exact fun s => ⟨[text], Session.warnings_eq_append (hnote s), List.prefix_rfl, fun _ _ => rfl⟩

/-- The remarks of a localizer are no warnings. -/
theorem warns_ask (l : Localizer) (c : Call) : (ask l c).Warns [] := by
  refine warns_of_silent fun s => ?_
  have hremarks : (((l.answer s.calls c).remarks.map Note.remark).reverse.reverse).filterMap
      Note.warning? = [] := by
    rw [List.reverse_reverse, List.filterMap_map, List.filterMap_eq_nil_iff]
    exact fun remark _ => rfl
  rw [run_ask, Session.warnings_eq_append (s := s) rfl, hremarks, List.append_nil]

theorem Warns.bind {f : α → Run β} {due rest : List String} (hx : x.Warns due)
    (hf : ∀ a, (f a).Warns rest) : (x >>= f).Warns (due ++ rest) := by
  intro s
  obtain ⟨made, hmade, hfew, hall⟩ := hx s
  rw [run_bind]
  cases hrun : x.run.run s with
  | mk result t =>
    rw [hrun] at hmade hall
    cases result with
    | error fault =>
      refine ⟨made, hmade, hfew.trans (List.prefix_append due rest), ?_⟩
      rintro b ⟨⟩
    | ok a =>
      obtain ⟨more, hmore, hfew', hall'⟩ := hf a t
      obtain rfl : made = due := hall a rfl
      refine ⟨made ++ more, ?_, (List.prefix_append_right_inj made).mpr hfew', fun b hb => ?_⟩
      · rw [← List.append_assoc, ← hmade]
        exact hmore
      · rw [hall' b hb]

theorem warns_mapM {f : α → Run β} {warning? : α → Option String}
    (h : ∀ a, (f a).Warns (warning? a).toList) (as : List α) :
    (as.mapM f).Warns (as.filterMap warning?) := by
  induction as with
  | nil => exact warns_pure []
  | cons a as ih =>
    rw [List.mapM_cons, filterMap_cons_eq_append]
    refine (h a).bind fun b => ?_
    rw [← List.append_nil (as.filterMap warning?)]
    exact ih.bind fun bs => warns_pure (b :: bs)

end Run

/-- The localizer fails in this way itself, behind some calls. -/
def Localizer.Raises (l : Localizer) (f : Fault) : Prop :=
  ∃ history c, (l.answer history c).result = .error f

/-- A localizer of a locale never fails with a complaint. -/
theorem LocaleContext.not_raises (ctx : LocaleContext) (registry : LocaleRegistry) {f : Fault}
    (hf : f.IsComplaint) : ¬ (ctx.localizer registry).Raises f := by
  rintro ⟨history, c, h⟩
  have hplain (e : Except ArgumentFault String) (hresult : (Answer.plain e).result = .error f) :
      False :=
    neverComplains_argument e f hresult hf
  change (ctx.answer registry c).result = .error f at h
  cases c with
  | number value leadingZeros ordinal unit =>
    rw [answer] at h
    split at h
    · cases h
    · exact hplain _ h
  | _ => exact hplain _ h

namespace Run

variable {α β : Type} {x : Run α} {p : Fault → Prop}

/-- A run that fails has a fault with the property. -/
def FailsWith (p : Fault → Prop) (x : Run α) : Prop := ∀ s f, (x.run.run s).1 = .error f → p f

theorem failsWith_pure (a : α) : (pure a : Run α).FailsWith p := by
  rintro s f ⟨⟩

theorem failsWith_ofExcept {e : Except Fault α} (h : ∀ f, e = .error f → p f) :
    (ofExcept e).FailsWith p := by
  intro s f hfails
  cases e with
  | ok a => cases hfails
  | error fault =>
    cases hfails
    exact h f rfl

theorem failsWith_warn (text : Option String) : (warn text).FailsWith p := by
  intro s f hfails
  cases text <;> cases hfails

theorem failsWith_ask {l : Localizer} (h : ∀ f, l.Raises f → p f) (c : Call) :
    (ask l c).FailsWith p := by
  intro s f hfails
  rw [run_ask] at hfails
  exact h f ⟨s.calls, c, hfails⟩

theorem FailsWith.bind {f : α → Run β} (hx : x.FailsWith p) (hf : ∀ a, (f a).FailsWith p) :
    (x >>= f).FailsWith p := by
  intro s fault hfails
  have hfirst := hx s fault
  rw [run_bind] at hfails
  cases hrun : x.run.run s with
  | mk result t =>
    rw [hrun] at hfails hfirst
    cases result with
    | error e =>
      cases hfails
      exact hfirst rfl
    | ok a => exact hf a t fault hfails

theorem failsWith_mapM {f : α → Run β} (h : ∀ a, (f a).FailsWith p) (as : List α) :
    (as.mapM f).FailsWith p := by
  induction as with
  | nil => exact failsWith_pure []
  | cons a as ih =>
    rw [List.mapM_cons]
    exact (h a).bind fun b => ih.bind fun bs => failsWith_pure (b :: bs)

end Run

/-- What fields ask for is a computation without complaints. -/
def Reading.NeverComplains (asks : Reading) : Prop :=
  ∀ f length o, DatePattern.NeverComplains (asks f length o)

section

variable (l : Localizer) (asks : Reading) (o : Options)

theorem Request.warns_render (request : Request) : (request.render l).Warns [] := by
  cases request with
  | text s => exact Run.warns_pure s
  | call signOf c => exact (Run.warns_ask l c).bind fun s => Run.warns_ofExcept _

/-- The warning of a step comes before its field, and is there even if the field fails. -/
theorem Step.warns_render (step : Step) :
    (step.render asks l o).Warns (step.warning? o).toList := by
  cases step with
  | literal cs => exact Run.warns_pure (String.ofList cs)
  | field f r ordinal =>
    rw [← List.append_nil (Step.warning? o _).toList]
    refine (Run.warns_warn (confusion? f r o)).bind fun _ => ?_
    exact (Run.warns_ofExcept _).bind fun request => request.warns_render l

theorem Plan.warns_render (p : Plan) :
    (p.render asks l o).Warns (p.steps.filterMap (Step.warning? o)) := by
  rw [← List.append_nil (p.steps.filterMap _)]
  refine (Run.warns_mapM (Step.warns_render l asks o) p.steps).bind fun texts => ?_
  cases p.fault? with
  | some f => exact Run.warns_throw f.fault
  | none => exact Run.warns_pure (String.join texts)

section

variable {p : Fault → Prop} (hplain : ∀ f : Fault, ¬ f.IsComplaint → p f)
  (hl : ∀ f, l.Raises f → p f)

include hplain hl

theorem Request.failsWith_render (request : Request) : (request.render l).FailsWith p := by
  cases request with
  | text s => exact Run.failsWith_pure s
  | call signOf c =>
    exact (Run.failsWith_ask hl c).bind fun s =>
      Run.failsWith_ofExcept fun f h => hplain f (neverComplains_argument _ f h)

variable {asks}

/-- A step that fails does so as the localizer does, or with no complaint. -/
theorem Step.failsWith_render (hasks : asks.NeverComplains) (step : Step) :
    (step.render asks l o).FailsWith p := by
  cases step with
  | literal cs => exact Run.failsWith_pure (String.ofList cs)
  | field f r ordinal =>
    refine (Run.failsWith_warn _).bind fun _ => ?_
    refine (Run.failsWith_ofExcept fun fault h => ?_).bind fun request =>
      request.failsWith_render l hplain hl
    exact hplain fault (hasks f r.length _ fault h)

end

variable {asks l o}

/-- The fault of a plan comes after all its warnings. -/
theorem Plan.warnings_of_directiveComplaint (hasks : asks.NeverComplains) (p : Plan) {s : Session}
    {f : Fault} (h : ((p.render asks l o).run.run s).1 = .error f) (hf : f.IsDirectiveComplaint)
    (hl : ¬ l.Raises f) :
    p.fault? ≠ none ∧ ((p.render asks l o).run.run s).2.warnings =
      s.warnings ++ p.steps.filterMap (Step.warning? o) := by
  have hstep := Step.failsWith_render l o
    (p := fun f => f.IsDirectiveComplaint → l.Raises f)
    (fun f hnot hf => absurd hf.isComplaint hnot) (fun f hraises _ => hraises) hasks
  have hoffends := Run.failsWith_mapM hstep p.steps s f
  obtain ⟨made, hmade, -, hall⟩ := Run.warns_mapM (Step.warns_render l asks o) p.steps s
  rw [render, Run.run_bind] at h ⊢
  cases hrun : (p.steps.mapM (Step.render asks l o)).run.run s with
  | mk result t =>
    rw [hrun] at h hoffends hmade hall
    cases result with
    | error fault =>
      cases h
      exact absurd (hoffends rfl hf) hl
    | ok texts =>
      rw [hall texts rfl] at hmade
      cases hfault : p.fault? with
      | none =>
        rw [hfault] at h
        cases h
      | some fault => exact ⟨by simp, hmade⟩

end

theorem offsetRequest_neverComplains (zulu : Bool) (length minutes : Int) :
    NeverComplains (offsetRequest zulu length minutes) := by
  intro f h
  rcases succeeds_offsetRequest minutes zulu length with ⟨-, herror⟩ | ⟨-, text, htext⟩
  · cases herror.symm.trans h
    exact Fault.argument_not_isComplaint _
  · cases htext.symm.trans h

theorem Moment.reading_neverComplains {m : Moment} (hvalid : m.isValid = true) :
    m.reading.NeverComplains := by
  intro f length o
  obtain ⟨ms, hms⟩ : ∃ ms, m.instant = some ms := Option.isSome_iff_exists.mp hvalid
  rw [reading]
  by_cases hf : f.Asks
  · obtain ⟨signOf, c, hrequest, -⟩ := f.puts_of_asks hms hf length o
    rw [hrequest]
    exact neverComplains_ok _
  · obtain ⟨zulu, rfl⟩ := Field.exists_offset_of_not_asks hf
    exact (offsetRequest_neverComplains zulu length m.offset).bind fun text => neverComplains_ok _

theorem MomentFields.reading_neverComplains {r : MomentFields Argument}
    (hvalid : r.isValid = .ok true) : r.reading.NeverComplains := by
  -- What is worked out with values of any kind fails with no complaint, nor what is made of it.
  have hlift {α : Type} (e : Except ArgumentFault α) (g : α → Except Fault Request)
      (hg : ∀ a, NeverComplains (g a)) :
      NeverComplains (e.mapError Fault.argument >>= g) :=
    (neverComplains_argument e).bind hg
  have hcomputed (operation : String) (x : Computed) (g : Argument → Except ArgumentFault Request) :
      NeverComplains (r.ofValid operation x >>= fun a => (g a).mapError Fault.argument) := by
    rw [ofValid_of_valid hvalid]
    exact hlift x _ fun a => neverComplains_argument _
  intro f length o
  cases f with
  | era => exact hlift _ _ fun _ => neverComplains_ok _
  | year => exact neverComplains_argument _
  | weekYear => exact hcomputed _ _ _
  | signedYear => exact neverComplains_argument _
  | quarter context =>
    refine hlift _ _ fun quarter => ?_
    split
    · exact neverComplains_argument _
    · exact neverComplains_ok _
  | month context =>
    rw [reading, request]
    split
    · exact hlift _ _ fun _ => neverComplains_argument _
    · exact neverComplains_ok _
  | week => exact hcomputed _ _ _
  | dayOfMonth => exact neverComplains_argument _
  | dayOfYear => exact hcomputed _ _ _
  | weekday context => exact hlift _ _ fun _ => neverComplains_ok _
  | halfDay => exact neverComplains_ok _
  | hourTo12 => exact hlift _ _ fun _ => neverComplains_argument _
  | hourTo23 => exact neverComplains_argument _
  | hourTo11 => exact hlift _ _ fun _ => neverComplains_argument _
  | hourTo24 => exact neverComplains_argument _
  | minute => exact neverComplains_argument _
  | second => exact neverComplains_argument _
  | fraction => exact hlift _ _ fun _ => neverComplains_argument _
  | offset zulu => exact hlift _ _ fun _ => neverComplains_ok _
  | secondStamp => exact hlift _ _ fun _ => neverComplains_ok _
  | millisecondStamp => exact hlift _ _ fun _ => neverComplains_ok _

theorem Dated.reading_neverComplains {d : Dated} (hvalid : d.isValid = .ok true) :
    d.reading.NeverComplains := by
  cases d with
  | moment m => exact m.reading_neverComplains (Except.ok.inj hvalid)
  | record r => exact r.reading_neverComplains hvalid

theorem LetterRun.warning?_of_letter {r : LetterRun} (hY : r.letter ≠ 'Y') (hD : r.letter ≠ 'D')
    (o : Options) : r.warning? o = none := by
  rw [warning?, if_neg (fun h => hY h.1), if_neg (fun h => hD h.1)]

/-- The texts of the warnings are those that the fields make. -/
theorem LetterRun.warning?_eq (r : LetterRun) (o : Options) : r.warning? o =
    let warning (usual : Char) (option : OptionName) : String :=
      Diagnostic.protectedTokenText r.text (String.ofList (List.replicate r.length usual))
        option.snake
    if r.letter = 'Y' ∧ (r.length = 2 ∨ r.length = 4) ∧ o.acknowledgesWeekYear = false then
      some (warning 'y' .weekYear)
    else if r.letter = 'D' ∧ (r.length = 1 ∨ r.length = 2) ∧ o.acknowledgesDayOfYear = false then
      some (warning 'd' .dayOfYear)
    else none :=
  rfl

/-- A field is warned of by its letter. -/
theorem confusion?_eq_warning? {r : LetterRun} {f : Field} (hf : Field.ofLetter? r.letter = some f)
    (o : Options) : confusion? f r o = r.warning? o := by
  have table : ∀ entry ∈ Field.letters, (entry.1 = 'Y' ↔ entry.2 = .weekYear) ∧
      (entry.1 = 'D' ↔ entry.2 = .dayOfYear) := by
    simp [Field.letters]
  obtain ⟨hY, hD⟩ := table _ (Field.mem_letters hf)
  cases f with
  | weekYear =>
    have hletter : r.letter = 'Y' := hY.mpr rfl
    simp [confusion?, r.warning?_eq, hletter]
  | dayOfYear =>
    have hletter : r.letter = 'D' := hD.mpr rfl
    simp [confusion?, r.warning?_eq, hletter]
  | _ => exact (r.warning?_of_letter (mt hY.mp (by simp)) (mt hD.mp (by simp)) o).symm

namespace Token

variable {tokens : List Token}

theorem warning?_of_no_field {r : LetterRun} (hf : Field.ofLetter? r.letter = none) (o : Options) :
    r.warning? o = none := by
  refine r.warning?_of_letter ?_ ?_ o
  · intro hletter
    rw [hletter] at hf
    cases hf
  · intro hletter
    rw [hletter] at hf
    cases hf

/-- What a token shows is warned of as the token is. -/
theorem warning?_shownAt (tokens : List Token) (k : Nat) (o : Options) :
    (shownAt tokens k).bind (Step.warning? o) = tokens[k]?.bind (warning? o) := by
  rw [shownAt]
  cases tokens[k]? with
  | none => rfl
  | some t =>
    cases t with
    | literal cs => rfl
    | run r =>
      change ((Field.ofLetter? r.letter).map _).bind _ = r.warning? o
      cases hf : Field.ofLetter? r.letter with
      | none => exact (warning?_of_no_field hf o).symm
      | some f => exact confusion?_eq_warning? hf o

theorem warnings_shownBefore (tokens : List Token) (n : Nat) (o : Options) :
    (shownBefore tokens n).filterMap (Step.warning? o) =
      (tokens.take n).filterMap (warning? o) := by
  induction n with
  | zero => rfl
  | succ n ih =>
    have hone {α : Type} (a? : Option α) (g : α → Option String) :
        a?.toList.filterMap g = (a?.bind g).toList := by
      cases a? with
      | none => rfl
      | some a => cases hg : g a <;> simp [hg]
    rw [shownBefore_succ, List.filterMap_append, ih, List.take_add_one, List.filterMap_append, hone,
      hone, warning?_shownAt]

end Token

/-- A localizer is there without a warning, since the default code names a locale. What it raises
about runs of letters is of a given one. -/
theorem exists_run_localizerOf (localizer : Option Localizer) (registry : LocaleRegistry)
    (s : Session) :
    ∃ l t, (localizerOf localizer registry).run.run s = (.ok l, t) ∧ t.warnings = s.warnings ∧
      ∀ f : Fault, f.IsDirectiveComplaint → l.Raises f → ∃ given ∈ localizer, given.Raises f := by
  cases localizer with
  | some l => exact ⟨l, s, rfl, rfl, fun f _ h => ⟨l, rfl, h⟩⟩
  | none =>
    have hfound : registry.find (normalizeCode defaultLocaleCode) = .ok registry.lastResort :=
      registry.find_lastResort
    have hwarning : s.store.createWarning? defaultLocaleCode registry = none :=
      LocaleStore.createWarning?_of_found hfound
    rw [localizerOf, Run.run_bind, Run.run_createContext, hwarning]
    exact ⟨_, _, rfl, rfl, fun f hf h => absurd h (LocaleContext.not_raises _ registry hf.isComplaint)⟩

section

variable {date options : Argument} {d : Dated} {o : Options}

/-- The warnings of a call with a valid date. They are made in the order of the pattern, once for each
run of letters that is easily taken for another one and not acknowledged, whether an ordinal letter
follows it or not. All of them are there if there is a text; if the call fails, the first few. If a
run of letters is complained about, and not by the localizer, they are those of what is rendered
before the first token that offends. -/
theorem format_warnings (ho : Options.ofArgument options = .ok o)
    (hd : Dated.ofArgument date (.number o.digitCount) = .ok d) (hvalid : d.isValid = .ok true)
    (pattern : String) (localizer : Option Localizer) (registry : LocaleRegistry) (s : Session) :
    let tokens := Token.scan pattern
    let warnings (tokens : List Token) : List String := tokens.filterMap (Token.warning? o)
    let run := (format (some date) (some (.text pattern)) options localizer registry).run.run s
    ∃ made, run.2.warnings = s.warnings ++ made ∧ made <+: warnings tokens ∧
      (∀ text, run.1 = .ok text → made = warnings tokens) ∧
      ∀ f, run.1 = .error f → f.IsDirectiveComplaint →
        (∃ l ∈ localizer, l.Raises f) ∨
          ∃ k, Token.IsOffendingAt tokens k ∧ (∀ j < k, ¬ Token.IsOffendingAt tokens j) ∧
            made = warnings (tokens.take (Token.renderedBefore tokens k)) := by
  intro tokens warnings run
  have hproper : ∀ t ∈ tokens, t.IsProper := Token.isProper_of_mem_scanAfter [] pattern.toList
  obtain ⟨l, t, hlocalizer, hsilent, hraises⟩ := exists_run_localizerOf localizer registry s
  have hrun : run = ((Plan.ofTokens tokens).render d.reading l o).run.run t := by
    change (format _ _ _ _ _).run.run s = _
    rw [format_eq_bind ho hd hvalid, Run.run_bind, hlocalizer]
    rfl
  obtain ⟨made, hmade, hfew, hall⟩ := (Plan.ofTokens tokens).warns_render l d.reading o t
  have hcomplaint {f : Fault} (h : run.1 = .error f) (hf : f.IsDirectiveComplaint)
      (hl : ¬ l.Raises f) : (Plan.ofTokens tokens).fault? ≠ none ∧
        made = (Plan.ofTokens tokens).steps.filterMap (Step.warning? o) := by
    rw [hrun] at h
    obtain ⟨hfault, hlate⟩ := Plan.warnings_of_directiveComplaint
      (d.reading_neverComplains hvalid) (Plan.ofTokens tokens) h hf hl
    exact ⟨hfault, List.append_cancel_left (hmade.symm.trans hlate)⟩
  refine ⟨made, by rw [hrun, hmade, hsilent], ?_⟩
  rw [← hrun] at hall
  obtain ⟨hgood, hplan⟩ | ⟨k, fault, hk, hfirst, hplan⟩ := Token.exists_ofTokens_eq hproper
  · have hdue : (Plan.ofTokens tokens).steps.filterMap (Step.warning? o) = warnings tokens := by
      rw [hplan, Token.warnings_shownBefore, List.take_length]
    rw [hdue] at hfew hall
    refine ⟨hfew, hall, fun f h hf => .inl (hraises f hf ?_)⟩
    by_contra hl
    exact (hcomplaint h hf hl).1 (by rw [hplan])
  · have hdue : (Plan.ofTokens tokens).steps.filterMap (Step.warning? o) =
        warnings (tokens.take (Token.renderedBefore tokens k)) := by
      rw [hplan, Token.warnings_shownBefore]
    refine ⟨?_, fun text h => ?_, fun f h hf => ?_⟩
    · rw [hdue] at hfew
      exact hfew.trans ((List.take_prefix _ tokens).filterMap _)
    · have htext : ((Plan.ofTokens tokens).render d.reading l o).run.run t = (.ok text, run.2) :=
        hrun.symm.trans (Prod.ext h rfl)
      have hnone := Plan.fault?_of_render l d.reading o htext
      rw [hplan] at hnone
      cases hnone
    · by_cases hl : l.Raises f
      · exact .inl (hraises f hf hl)
      · exact .inr ⟨k, hk, hfirst, by rw [(hcomplaint h hf hl).2, hdue]⟩

/-- A week year and an ordinal day of the year are warned of, with letters in quotes between them. A
day of the year that is hidden by a longer run of ordinal letters is not rendered, nor warned of. -/
theorem format_warnings_leapDay :
    let m : Moment := ⟨⟨2024, 1, 29, 12, 0, 0, 0⟩, some 1709208000000, 0, fun _ => by decide⟩
    let run (pattern : String) := (format (some (.atom (.moment m))) (some (.text pattern)) .absent
      none).run.run .start
    Options.ofArgument .absent = .ok .unset ∧
    Dated.ofArgument (.atom (.moment m)) (.number Options.unset.digitCount) = .ok (.moment m) ∧
    (Dated.moment m).isValid = .ok true ∧
    (run "YYYY'D'Do").1 = .ok "2024D60th" ∧
    (run "YYYY'D'Do").2.warnings =
      ["Pattern uses 'YYYY'; did you mean 'yyyy'? Set use_additional_week_year_token=True if " ++
          "'YYYY' is intended",
        "Pattern uses 'D'; did you mean 'd'? Set use_additional_day_of_year_token=True if 'D' " ++
          "is intended"] ∧
    (run "YY Doo").1 = .error (PatternFault.strayOrdinal ⟨'o', 2, 4⟩).fault ∧
    (run "YY Doo").2.warnings =
      ["Pattern uses 'YY'; did you mean 'yy'? Set use_additional_week_year_token=True if 'YY' " ++
          "is intended"] := by
  intro m run
  have ho : Options.ofArgument .absent = .ok .unset := rfl
  have hd : Dated.ofArgument (.atom (.moment m)) (.number Options.unset.digitCount) =
      .ok (.moment m) := rfl
  have hvalid : (Dated.moment m).isValid = .ok true := rfl
  have hgood : Token.scan "YYYY'D'Do" =
      [.run ⟨'Y', 4, 0⟩, .literal ['D'], .run ⟨'D', 1, 7⟩, .run ⟨'o', 1, 8⟩] := by
    have hchars : "YYYY'D'Do".toList = ['Y', 'Y', 'Y', 'Y', quote, 'D', quote, 'D', 'o'] := rfl
    rw [Token.scan, hchars]
    decide +kernel
  have hspoiled : Token.scan "YY Doo" =
      [.run ⟨'Y', 2, 0⟩, .literal [' '], .run ⟨'D', 1, 3⟩, .run ⟨'o', 2, 4⟩] := by
    have hchars : "YY Doo".toList = ['Y', 'Y', ' ', 'D', 'o', 'o'] := rfl
    rw [Token.scan, hchars]
    decide +kernel
  have htext : (run "YYYY'D'Do").1 = .ok "2024D60th" := by
    have hplan : Plan.ofPattern "YYYY'D'Do" = ⟨[.field .weekYear ⟨'Y', 4, 0⟩ false, .literal ['D'],
        .field .dayOfYear ⟨'D', 1, 7⟩ true], none⟩ := by
      rw [Plan.ofPattern, hgood]
      decide +kernel
    change ((format _ _ _ _).run.run _).1 = _
    rw [format_eq_bind ho hd hvalid, hplan]
    decide +kernel
  have herror : (run "YY Doo").1 = .error (PatternFault.strayOrdinal ⟨'o', 2, 4⟩).fault := by
    have hplan : Plan.ofPattern "YY Doo" = ⟨[.field .weekYear ⟨'Y', 2, 0⟩ false, .literal [' ']],
        some (.strayOrdinal ⟨'o', 2, 4⟩)⟩ := by
      rw [Plan.ofPattern, hspoiled]
      decide +kernel
    change ((format _ _ _ _).run.run _).1 = _
    rw [format_eq_bind ho hd hvalid, hplan]
    decide +kernel
  refine ⟨ho, hd, hvalid, htext, ?_, herror, ?_⟩
  · obtain ⟨made, hmade, -, hall, -⟩ := format_warnings ho hd hvalid "YYYY'D'Do" none .known .start
    rw [hgood] at hall
    rw [hmade, hall _ htext]
    decide +kernel
  · obtain ⟨text, hfault⟩ := PatternFault.exists_fault_eq (f := .strayOrdinal ⟨'o', 2, 4⟩)
      (not_isTooLong_of_le_999 (by decide))
    obtain ⟨made, hmade, -, -, hlate⟩ := format_warnings ho hd hvalid "YY Doo" none .known .start
    rw [hspoiled] at hlate
    obtain ⟨l, hl, -⟩ | ⟨k, hk, hfirst, rfl⟩ := hlate _ herror ⟨_, _, _, _, hfault⟩
    case inl => cases hl
    have hlast : k = 3 := by
      have hbefore : ∀ j < 3, ¬ Token.IsOffendingAt [.run ⟨'Y', 2, 0⟩, .literal [' '],
          .run ⟨'D', 1, 3⟩, .run ⟨'o', 2, 4⟩] j := by decide
      rcases Nat.lt_trichotomy k 3 with h | h | h
      · exact absurd hk (hbefore k h)
      · exact h
      · exact absurd (by decide) (hfirst 3 h)
    rw [hmade, hlast]
    decide +kernel

end

end DatePattern
