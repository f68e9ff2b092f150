import DatePattern.Pattern.Format
import DatePattern.Proofs.Numeral.FixedWidth
import Mathlib.Data.List.Forall2

/-! What a course of a call comes to, from any session, when its localizer writes numbers. -/
namespace DatePattern

namespace Run

variable {α β : Type} {x : Run α} {p : α → Prop} {q : β → Prop}

/-- What comes next goes on in the session that the run leaves, unless the run fails. -/
theorem run_bind (x : Run α) (f : α → Run β) (s : Session) :
    (x >>= f).run.run s =
      match x.run.run s with
      | (.ok a, t) => (f a).run.run t
      | (.error e, t) => (.error e, t) := by
  change (match (x.run.run s : Except Fault α × Session) with
    | (r, t) => (ExceptT.bindCont f r).run t) = _
  cases x.run.run s with
  | mk r t => cases r <;> rfl

theorem ofExcept_error_bind {e : Except Fault α} {f : Fault} (h : e = .error f) (g : α → Run β) :
    (ofExcept e >>= g) = throw f := by
  rw [h]
  rfl

theorem ofExcept_ok_bind {e : Except Fault α} {a : α} (h : e = .ok a) (g : α → Run β) :
    (ofExcept e >>= g) = g a := by
  rw [h, ofExcept, pure_bind]

/-- The session behind a call to a localizer. -/
def asked (l : Localizer) (call : Call) (s : Session) : Session :=
  { s with
    calls := call :: s.calls
    notes := ((l.answer s.calls call).remarks.map Note.remark).reverse ++ s.notes }

theorem run_ask (l : Localizer) (call : Call) (s : Session) :
    (ask l call).run.run s = ((l.answer s.calls call).result, asked l call s) := by
  change (ofExcept (l.answer s.calls call).result : Run String).run.run (asked l call s) = _
  cases (l.answer s.calls call).result <;> rfl

/-- From every session the run succeeds, with a value of the property. -/
def Yields (x : Run α) (p : α → Prop) : Prop :=
  ∀ s, ∃ a s', x.run.run s = (.ok a, s') ∧ p a

theorem yields_pure {a : α} (h : p a) : (pure a : Run α).Yields p :=
  fun s => ⟨a, s, rfl, h⟩

theorem Yields.bind {f : α → Run β} (hx : x.Yields p) (hf : ∀ a, p a → (f a).Yields q) :
    (x >>= f).Yields q := by
  intro s
  obtain ⟨a, s', hrun, ha⟩ := hx s
  obtain ⟨b, s'', hrun', hb⟩ := hf a ha s'
  refine ⟨b, s'', ?_, hb⟩
  rw [run_bind, hrun]
  exact hrun'

theorem yields_ofExcept {y : Except Fault α} {a : α} (h : y = .ok a) :
    (ofExcept y).Yields (· = a) := by
  rw [h]
  exact yields_pure rfl

theorem yields_warn (text : Option String) : (warn text).Yields fun _ => True := by
  cases text with
  | none => exact yields_pure trivial
  | some text => exact fun s => ⟨(), _, rfl, trivial⟩

theorem yields_ask {l : Localizer} {call : Call} {text : String}
    (h : ∀ history, (l.answer history call).result = .ok text) :
    (ask l call).Yields (· = text) :=
  fun s => ⟨text, asked l call s, by rw [run_ask, h], rfl⟩

theorem yields_createContext (code : String) (registry : LocaleRegistry) :
    (createContext code registry).Yields fun _ => True := by
  have hget : (get : Run Session).Yields fun _ => True := fun s => ⟨s, s, rfl, trivial⟩
  have hmodify (f : Session → Session) : (modify f : Run Unit).Yields fun _ => True :=
    fun s => ⟨(), f s, rfl, trivial⟩
  refine hget.bind fun session _ => ?_
  refine (yields_warn _).bind fun _ _ => ?_
  exact (hmodify _).bind fun _ _ => yields_pure trivial

theorem yields_mapM {f : α → Run β} {as : List α} {bs : List β}
    (h : List.Forall₂ (fun a b => (f a).Yields (· = b)) as bs) : (as.mapM f).Yields (· = bs) := by
  induction h with
  | nil => exact yields_pure rfl
  | cons hhead _ ih =>
    rw [List.mapM_cons]
    refine hhead.bind ?_
    rintro _ rfl
    refine ih.bind ?_
    rintro _ rfl
    exact yields_pure rfl

end Run

/-- The localizer answers with the decimal numeral of any integer that is no ordinal, whatever it
has been asked before. -/
def Localizer.WritesNumbers (l : Localizer) : Prop :=
  ∀ (history : List Call) (n width : Int) (unit : Option CountedUnit) (text : String),
    paddedNumeral? n width = some text →
      (l.answer history (.number (.int n) width false unit)).result = .ok text

/-- So do those of all locales, whatever else is known of them. -/
theorem LocaleContext.writesNumbers (ctx : LocaleContext) (registry : LocaleRegistry) :
    (ctx.localizer registry).WritesNumbers := by
  intro history n width unit text h
  have hnumber : ctx.number registry (.int n) width false = .ok (text, []) := by
    simp only [LocaleContext.number, Argument.paddedText_int, h]
    rfl
  change (ctx.answer registry _).result = _
  rw [LocaleContext.answer, hnumber]

theorem yields_localizerOf_none (registry : LocaleRegistry) :
    (localizerOf none registry).Yields Localizer.WritesNumbers :=
  (Run.yields_createContext _ registry).bind fun made _ =>
    Run.yields_pure (made.context.writesNumbers registry)

theorem signedText_int (n : Int) (text : String) :
    signedText (some (.int n)) text = .ok (if n < 0 then "-" ++ text else text) := by
  have hbelow : (Argument.int n).compares .below 0 = .ok (Comparison.holdsInt .below n 0) :=
    Argument.compares_int n 0 .below
  rw [signedText, hbelow, Argument.ok_bind]
  by_cases h : n < 0
  · rw [if_pos h]
    exact if_pos (decide_eq_true h)
  · rw [if_neg h]
    exact if_neg (by simpa [Comparison.holdsInt] using h)

theorem signedText_ofList (n : Int) (cs : List Char) :
    signedText (some (.int n)) (String.ofList cs) =
      .ok (String.ofList ((if n < 0 then ['-'] else []) ++ cs)) := by
  rw [signedText_int, String.ofList_append]
  split
  · rfl
  · rw [String.ofList_nil, String.empty_append]

theorem Request.yields_render {l : Localizer} (hl : l.WritesNumbers) {n width : Int}
    {unit : Option CountedUnit} {signOf : Option Argument} {text shown : String}
    (htext : paddedNumeral? n width = some text) (hsign : signedText signOf text = .ok shown) :
    ((Request.call signOf (.number (.int n) width false unit)).render l).Yields (· = shown) := by
  refine (Run.yields_ask fun history => hl history n width unit text htext).bind ?_
  rintro _ rfl
  exact Run.yields_ofExcept (by rw [hsign]; rfl)

variable {m : Moment} {o : Options}

/-- The step is rendered as a text, whoever writes the numbers. -/
def Step.Writes (m : Moment) (o : Options) (step : Step) (cs : List Char) : Prop :=
  ∀ l : Localizer, l.WritesNumbers → (step.render m.reading l o).Yields (· = String.ofList cs)

namespace Step

theorem writes_literal (cs : List Char) : (literal cs).Writes m o cs :=
  fun _ _ => Run.yields_pure rfl

/-- A field is rendered as its request is. -/
theorem writes_field {f : Field} {r : LetterRun} {request : Request} {cs : List Char}
    (hf : f.request r.length m o = .ok request)
    (hrequest : ∀ l : Localizer, l.WritesNumbers → (request.render l).Yields (· = String.ofList cs)) :
    (field f r false).Writes m o cs := by
  intro l hl
  refine (Run.yields_warn _).bind fun _ _ => ?_
  refine (Run.yields_ofExcept hf).bind ?_
  rintro _ rfl
  exact hrequest l hl

theorem writes_text {f : Field} {r : LetterRun} {cs : List Char}
    (hf : f.request r.length m o = .ok (.text (String.ofList cs))) :
    (field f r false).Writes m o cs :=
  writes_field hf fun _ _ => Run.yields_pure rfl

variable {f : Field} {r : LetterRun} {n : Int} {unit : Option CountedUnit}

/-- A field that asks for a number in so many digits as it fits into. -/
theorem writes_number (ho : o.ordinal = false) (hr : 0 < r.length) (hle : r.length ≤ digitLimit)
    (hn : n.natAbs < tenTo r.length)
    (hf : f.request r.length m o = .ok (.number n r.length o unit)) :
    (field f r false).Writes m o (fixedWidth r.length n.natAbs) := by
  refine writes_field hf fun l hl => ?_
  rw [Request.number, Request.plain, ho]
  exact Request.yields_render hl (paddedNumeral?_eq_some hr hle hn) rfl

theorem writes_signedNumber (ho : o.ordinal = false) (hr : 0 < r.length)
    (hle : r.length ≤ digitLimit) (hn : n.natAbs < tenTo r.length)
    (hf : f.request r.length m o = .ok (.signedNumber n r.length o unit)) :
    (field f r false).Writes m o
      ((if n < 0 then ['-'] else []) ++ fixedWidth r.length n.natAbs) := by
  refine writes_field hf fun l hl => ?_
  rw [Request.signedNumber, ho]
  exact Request.yields_render hl (paddedNumeral?_eq_some hr hle hn) (signedText_ofList n _)

end Step

/-- A plan without a fault is rendered as the texts of its steps one behind the other. -/
theorem Plan.yields_render {steps : List Step} {texts : List (List Char)}
    (h : List.Forall₂ (Step.Writes m o) steps texts) {l : Localizer} (hl : l.WritesNumbers) :
    ((⟨steps, none⟩ : Plan).render m.reading l o).Yields (· = String.ofList texts.flatten) := by
  have hparts : List.Forall₂ (fun step text => (step.render m.reading l o).Yields (· = text))
      steps (texts.map String.ofList) := by
    rw [List.forall₂_map_right_iff]
    exact h.imp fun step cs hw => hw l hl
  refine (Run.yields_mapM hparts).bind ?_
  rintro _ rfl
  refine Run.yields_pure ?_
  apply String.toList_injective
  rw [String.toList_join, String.toList_ofList, List.flatMap_map]
  simp only [String.toList_ofList, List.flatMap_id']

/-- A moment in a pattern without a fault, with options and localizer left out. -/
theorem yields_format {pattern : String} {steps : List Step} {texts : List (List Char)}
    (hm : m.isValid = true) (hp : Plan.ofPattern pattern = ⟨steps, none⟩)
    (h : List.Forall₂ (Step.Writes m .unset) steps texts) (registry : LocaleRegistry) :
    (format (some (.atom (.moment m))) (some (.text pattern)) .absent none registry).Yields
      (· = String.ofList texts.flatten) := by
  refine (Run.yields_ofExcept (a := pattern) rfl).bind ?_
  rintro _ rfl
  refine (Run.yields_ofExcept (a := Options.unset) rfl).bind ?_
  rintro _ rfl
  refine (Run.yields_ofExcept (a := Dated.moment m) rfl).bind ?_
  rintro _ rfl
  refine (Run.yields_ofExcept (a := m.isValid) rfl).bind ?_
  rintro _ rfl
  rw [if_pos hm]
  refine (yields_localizerOf_none registry).bind fun l hl => ?_
  rw [hp]
  exact Plan.yields_render h hl

section

variable {date options : Argument} {d : Dated} (ho : Options.ofArgument options = .ok o)
  (hd : Dated.ofArgument date (.number o.digitCount) = .ok d) (hvalid : d.isValid = .ok true)
  (pattern : String) (registry : LocaleRegistry)
include ho hd hvalid

/-- A valid date with options that pass is rendered as the plan of the pattern, once there is a
localizer. -/
theorem format_eq_bind (localizer : Option Localizer) :
    format (some date) (some (.text pattern)) options localizer registry =
      localizerOf localizer registry >>= fun l => (Plan.ofPattern pattern).render d.reading l o := by
  have htext : patternText (.text pattern) = .ok pattern := rfl
  have hmap : d.isValid.mapError Fault.argument = .ok true := by rw [hvalid]; rfl
  rw [format, Run.ofExcept_ok_bind htext, Run.ofExcept_ok_bind ho, Run.ofExcept_ok_bind hd,
    Run.ofExcept_ok_bind hmap, if_pos rfl]

theorem format_eq_render (l : Localizer) :
    format (some date) (some (.text pattern)) options (some l) registry =
      (Plan.ofPattern pattern).render d.reading l o := by
  rw [format_eq_bind ho hd hvalid, localizerOf, pure_bind]

end

end DatePattern
