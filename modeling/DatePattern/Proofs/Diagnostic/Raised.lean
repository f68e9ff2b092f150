import DatePattern.Proofs.Argument.Literal
import DatePattern.Proofs.Pattern.Warnings

/-! The messages of the diagnostics that calls fail with. Each is on one line but for what it quotes of
a value as it is: the text of a key that names no option, and what the code of a caller's class gives as
a literal or is called. -/
namespace DatePattern

/-- The message of a diagnostic ends with this, which is quoted as it is: the text of a key that names
no option, with a quote behind it; or, if a caller's classes have a part in the values, the literal or
the kind of one that such a class has a part in. -/
inductive Diagnostic.Quotes (foreign : Prop) : Diagnostic → String → Prop
  | key {key : Argument} {text : String} (h : key.display = .ok text) :
    Quotes foreign (.optionUnknown ⟨key, text⟩) (text ++ "'")
  | value {name allowed literal : String} {x : Argument} (hforeign : foreign) (hx : ¬ x.IsBuiltIn)
      (h : x.literal = .ok literal) :
    Quotes foreign (.optionOutOfRange name literal allowed) literal
  | kind {name literal expected : String} {x : Argument} (hforeign : foreign) (hx : ¬ x.IsBuiltIn)
      (h : x.literal = .ok literal) :
    Quotes foreign (.optionTypeMismatch name x.kindName literal expected) x.kindName
  | pattern {x : Argument} (hforeign : foreign) (hx : ¬ x.IsBuiltIn) :
    Quotes foreign (.patternNotText x.kindName) x.kindName

/-- The message is a text on one line, and behind it at most what is quoted of a value. -/
def Diagnostic.HasPlainMessage (foreign : Prop) (d : Diagnostic) : Prop :=
  ∃ before tail : String, d.message = .text (before ++ tail) ∧ IsUnbroken before.toList ∧
    (tail = "" ∨ d.Quotes foreign tail)

/-- The diagnostic of the fault, if it has one, has a plain message. -/
def Fault.IsPlain (foreign : Prop) (f : Fault) : Prop :=
  ∀ d, f.diagnostic? = some d → d.HasPlainMessage foreign

variable {foreign : Prop}

theorem Diagnostic.hasPlainMessage_of_isUnbroken {d : Diagnostic} {s : String}
    (h : d.message = .text s) (hs : IsUnbroken s.toList) : d.HasPlainMessage foreign :=
  ⟨s, "", by rw [String.append_empty, h], hs, .inl rfl⟩

/-- What is said of a value behind the words is on one line, or else quoted. -/
theorem Diagnostic.hasPlainMessage_of_value {d : Diagnostic} {before tail : String} {x : Argument}
    (h : d.message = .text (before ++ tail)) (hbefore : IsUnbroken before.toList)
    (hx : x.IsBuiltIn ∨ foreign) (hplain : x.IsBuiltIn → IsUnbroken tail.toList)
    (hquotes : foreign → ¬ x.IsBuiltIn → d.Quotes foreign tail) : d.HasPlainMessage foreign := by
  by_cases hbuiltIn : x.IsBuiltIn
  · exact hasPlainMessage_of_isUnbroken h (isUnbroken_concat.mpr ⟨hbefore, hplain hbuiltIn⟩)
  · exact ⟨before, tail, h, hbefore, .inr (hquotes (hx.resolve_left hbuiltIn) hbuiltIn)⟩

theorem Argument.IsBuiltIn.isUnbroken_kindName {x : Argument} (hx : x.IsBuiltIn) :
    IsUnbroken x.kindName.toList := by
  unfold kindName
  split
  case h_1 a =>
    obtain ⟨ha⟩ := hx
    unfold Atom.kindName
    split
    case h_3 x =>
      unfold Number.kindName
      split <;> decide
    case h_6 o => cases ha
    all_goals decide
  all_goals decide

theorem OptionName.isUnbroken_snake (name : OptionName) : IsUnbroken name.snake.toList := by
  cases name <;> decide

namespace Fault

theorem isPlain_of_not_isComplaint {f : Fault} (h : ¬ f.IsComplaint) :
    f.IsPlain foreign := by
  intro d hd
  cases f with
  | complaint c => exact absurd ⟨c, rfl⟩ h
  | _ => cases hd

theorem isPlain_argument (f : ArgumentFault) : (argument f).IsPlain foreign :=
  isPlain_of_not_isComplaint (argument_not_isComplaint f)

theorem isPlain_ofDiagnostic {d : Diagnostic} (h : d.HasPlainMessage foreign)
    (kind : ComplaintKind) : (ofDiagnostic kind d).IsPlain foreign := by
  rw [ofDiagnostic, Complaint.ofDiagnostic]
  cases d.text with
  | ok text =>
    rintro d' ⟨⟩
    exact h
  | error f => exact isPlain_argument f

theorem isPlain_arity (received : Nat) : (arity received).IsPlain foreign := by
  refine isPlain_ofDiagnostic (Diagnostic.hasPlainMessage_of_isUnbroken rfl ?_) _
  exact isUnbroken_between (by decide) (isUnbroken_toString_nat received) (by decide)

theorem isPlain_patternNotText {x : Argument} (hx : x.IsBuiltIn ∨ foreign) :
    (patternNotText x.kindName).IsPlain foreign := by
  have hbefore : IsUnbroken "Pattern must be a string, got ".toList := by decide
  exact isPlain_ofDiagnostic (Diagnostic.hasPlainMessage_of_value rfl hbefore hx
    Argument.IsBuiltIn.isUnbroken_kindName .pattern) _

theorem isPlain_optionUnknown (key : Argument) : (optionUnknown key).IsPlain foreign := by
  rw [optionUnknown]
  cases hkey : key.display with
  | error f => exact isPlain_argument f
  | ok text =>
    have hmessage : (Diagnostic.optionUnknown ⟨key, text⟩).message =
        .text ("Unknown format option '" ++ (text ++ "'")) :=
      congrArg Argument.text String.append_assoc
    exact isPlain_ofDiagnostic ⟨_, _, hmessage, by decide, .inr (.key hkey)⟩ _

section

variable {name : String} (hname : IsUnbroken name.toList)
include hname

/-- The words before the value, which say what the option must be. -/
theorem isUnbroken_requirement {expected : String} (hexpected : IsUnbroken expected.toList) :
    IsUnbroken (name ++ " must be " ++ expected ++ ", got ").toList :=
  isUnbroken_concat.mpr ⟨isUnbroken_between hname (by decide) hexpected, by decide⟩

variable {x : Argument} (hx : x.IsBuiltIn ∨ foreign)
include hx

/-- The value is quoted as a literal. -/
theorem isPlain_optionOutOfRange {allowed : String} (hallowed : IsUnbroken allowed.toList) :
    (optionOutOfRange name x allowed).IsPlain foreign := by
  rw [optionOutOfRange]
  cases hliteral : x.literal with
  | error f => exact isPlain_argument f
  | ok literal =>
    have hbefore := isUnbroken_requirement hname hallowed
    exact isPlain_ofDiagnostic (Diagnostic.hasPlainMessage_of_value rfl hbefore hx
      (fun hbuiltIn => x.isUnbroken_literal hbuiltIn literal hliteral)
      fun hforeign hnot => .value hforeign hnot hliteral) _

/-- Of the value only its kind is told. -/
theorem isPlain_optionTypeMismatch {expected : String} (hexpected : IsUnbroken expected.toList) :
    (optionTypeMismatch name x expected).IsPlain foreign := by
  rw [optionTypeMismatch]
  cases hliteral : x.literal with
  | error f => exact isPlain_argument f
  | ok literal =>
    have hbefore := isUnbroken_requirement hname hexpected
    exact isPlain_ofDiagnostic (Diagnostic.hasPlainMessage_of_value rfl hbefore hx
      Argument.IsBuiltIn.isUnbroken_kindName fun hforeign hnot => .kind hforeign hnot hliteral) _

end

end Fault

/-- A pattern letter is no line break, so that a message that quotes it is on one line. -/
theorem PatternFault.isPlain_fault {f : PatternFault} (h : isPatternLetter f.run.letter = true) :
    f.fault.IsPlain foreign := by
  have hletter (c : Char) (hc : isPatternLetter c = true) : IsUnbroken c.toString.toList := by
    have hne : c ≠ '\n' := by
      rintro rfl
      cases hc
    have hchars : c.toString.toList = [c] := String.toList_singleton c
    rw [hchars]
    exact isUnbroken_cons.mpr ⟨hne, isUnbroken_nil⟩
  refine Fault.isPlain_ofDiagnostic ?_ _
  cases f with
  | unknown r =>
    exact Diagnostic.hasPlainMessage_of_isUnbroken rfl
      (isUnbroken_between (by decide) (hletter _ h) (by decide))
  | reserved r =>
    exact Diagnostic.hasPlainMessage_of_isUnbroken rfl
      (isUnbroken_between (by decide) (hletter _ h) (by decide))
  | strayOrdinal r => exact Diagnostic.hasPlainMessage_of_isUnbroken rfl (by decide)

/-! ### Options -/

/-- The computation fails with no diagnostic but such as have plain messages. -/
def FailsPlainly {α : Type} (foreign : Prop) (e : Except Fault α) : Prop :=
  ∀ f, e = .error f → f.IsPlain foreign

section

variable {α β : Type}

theorem failsPlainly_ok (a : α) : FailsPlainly foreign (.ok a) := by
  rintro f ⟨⟩

theorem failsPlainly_error {f : Fault} (h : f.IsPlain foreign) :
    FailsPlainly foreign (.error f : Except Fault α) := by
  rintro f' ⟨⟩
  exact h

/-- What comes behind a result may rely on it. -/
theorem FailsPlainly.bind {e : Except Fault α} {g : α → Except Fault β}
    (he : FailsPlainly foreign e) (hg : ∀ a, e = .ok a → FailsPlainly foreign (g a)) :
    FailsPlainly foreign (e >>= g) := by
  cases e with
  | error f => exact failsPlainly_error (he f rfl)
  | ok a => exact hg a rfl

end

section

variable {x : Argument} (hx : x.IsBuiltIn ∨ foreign)

theorem failsPlainly_integerValue? (x : Argument) : FailsPlainly foreign (integerValue? x) := by
  intro f h
  refine Fault.isPlain_of_not_isComplaint ?_
  rintro ⟨c, rfl⟩
  unfold integerValue? at h
  split at h
  case h_3 q => split at h <;> cases h
  case h_4 s =>
    dsimp only at h
    split at h
    · split at h <;> cases h
    · cases h
  all_goals cases h

include hx

theorem isPlain_digitCountFault : (digitCountFault x).IsPlain foreign :=
  Fault.isPlain_optionOutOfRange (OptionName.isUnbroken_snake _) hx (by decide)

theorem failsPlainly_normalizeDigits : FailsPlainly foreign (normalizeDigits x) := by
  unfold normalizeDigits
  split
  case h_1 => exact failsPlainly_ok none
  case h_2 =>
    refine (failsPlainly_integerValue? x).bind fun n? _ => ?_
    cases n? with
    | none => exact failsPlainly_error (isPlain_digitCountFault hx)
    | some n =>
      dsimp only
      split
      · exact failsPlainly_ok (some n)
      · exact failsPlainly_error (isPlain_digitCountFault hx)

theorem failsPlainly_checkDigits : FailsPlainly foreign (checkDigits x) := by
  unfold checkDigits
  split
  case h_1 => exact failsPlainly_ok _
  case h_2 x =>
    split
    · exact failsPlainly_error (Fault.isPlain_argument _)
    · split
      · exact failsPlainly_ok _
      · exact failsPlainly_error (isPlain_digitCountFault hx)
  case h_3 => exact failsPlainly_error (isPlain_digitCountFault hx)

theorem failsPlainly_checkInt (name : OptionName) {allowed : String}
    (hallowed : IsUnbroken allowed.toList) (p : Int → Prop) [DecidablePred p] :
    FailsPlainly foreign (checkInt name allowed p x) := by
  have hname := name.isUnbroken_snake
  unfold checkInt
  split
  case h_1 => exact failsPlainly_ok _
  case h_2 n =>
    split
    · exact failsPlainly_ok _
    · exact failsPlainly_error (Fault.isPlain_optionOutOfRange hname hx hallowed)
  case h_3 => exact failsPlainly_error (Fault.isPlain_optionTypeMismatch hname hx (by decide))

theorem failsPlainly_checkFlag (name : OptionName) : FailsPlainly foreign (checkFlag name x) := by
  unfold checkFlag
  split
  case h_1 b => exact failsPlainly_ok b
  case h_2 =>
    exact failsPlainly_error
      (Fault.isPlain_optionTypeMismatch name.isUnbroken_snake hx (by decide))

end

/-- No value of the draft has a part of a caller's class, unless such classes count. -/
def Draft.IsBuiltInOr (d : Draft) (foreign : Prop) : Prop :=
  ∀ name, (d.value name).IsBuiltIn ∨ foreign

namespace Draft

variable {d : Draft}

theorem isBuiltInOr_empty : ({} : Draft).IsBuiltInOr foreign := by
  rintro (_ | _ | _ | _ | _ | _) <;> exact .inl (.atom rfl)

theorem IsBuiltInOr.set (h : d.IsBuiltInOr foreign) (name : OptionName) {v : Argument}
    (hv : v.IsBuiltIn ∨ foreign) : (d.set name v).IsBuiltInOr foreign := by
  intro other
  rw [value_set]
  split
  · exact hv
  · exact h other

theorem IsBuiltInOr.failsPlainly_check (h : d.IsBuiltInOr foreign) :
    FailsPlainly foreign d.check := by
  refine (failsPlainly_checkDigits (h .additionalDigits)).bind fun digits _ => ?_
  refine (failsPlainly_checkInt (h .weekStartsOn) _ (by decide) _).bind fun starts _ => ?_
  refine (failsPlainly_checkInt (h .firstWeekContains) _ (by decide) _).bind fun contains _ => ?_
  refine (failsPlainly_checkFlag (h .weekYear) _).bind fun weekYear _ => ?_
  refine (failsPlainly_checkFlag (h .dayOfYear) _).bind fun dayOfYear _ => ?_
  exact (failsPlainly_checkFlag (h .ordinal) _).bind fun ordinal _ => failsPlainly_ok _

theorem failsPlainly_ofEntries (d : Draft) (entries : List (Argument × Argument)) :
    FailsPlainly foreign (d.ofEntries entries) := by
  induction entries generalizing d with
  | nil => exact failsPlainly_ok d
  | cons entry rest ih =>
    obtain ⟨key, value⟩ := entry
    rw [ofEntries]
    split
    case h_1 name hname => exact ih _
    case h_2 hname => exact failsPlainly_error (Fault.isPlain_optionUnknown key)

theorem IsBuiltInOr.ofEntries {draft : Draft} {entries : List (Argument × Argument)}
    (h : d.IsBuiltInOr foreign) (hentries : ∀ e ∈ entries, e.2.IsBuiltIn ∨ foreign)
    (hdraft : d.ofEntries entries = .ok draft) : draft.IsBuiltInOr foreign := by
  induction entries generalizing d with
  | nil =>
    cases hdraft
    exact h
  | cons entry rest ih =>
    obtain ⟨key, v⟩ := entry
    obtain ⟨hv, hentries⟩ := List.forall_mem_cons.mp hentries
    rw [Draft.ofEntries] at hdraft
    split at hdraft
    case h_1 name hname => exact ih (h.set name hv) hentries hdraft
    case h_2 => cases hdraft

end Draft

/-- The values that options may be refused for: those of a mapping, or the argument itself. -/
def Argument.optionValues : Argument → List Argument
  | .mapping entries => entries.map Prod.snd
  | x => [x]

theorem Argument.mem_optionValues_self {x : Argument} (h : ∀ entries, x ≠ .mapping entries) :
    x ∈ x.optionValues := by
  unfold optionValues
  split
  case h_1 entries => exact absurd rfl (h entries)
  case h_2 => exact List.mem_singleton_self _

theorem Options.failsPlainly_ofArgument {x : Argument}
    (hx : ∀ v ∈ x.optionValues, v.IsBuiltIn ∨ foreign) : FailsPlainly foreign (ofArgument x) := by
  unfold ofArgument
  split
  case h_1 => exact failsPlainly_ok _
  case h_2 => exact failsPlainly_ok _
  case h_3 entries =>
    have hentries : ∀ e ∈ entries, e.2.IsBuiltIn ∨ foreign := List.forall_mem_map.mp hx
    refine (Draft.failsPlainly_ofEntries {} entries).bind fun d hd => ?_
    have hdraft := Draft.isBuiltInOr_empty.ofEntries hentries hd
    refine (failsPlainly_normalizeDigits (hdraft .additionalDigits)).bind fun digits _ => ?_
    refine (hdraft.set .additionalDigits (.inl ?_)).failsPlainly_check
    cases digits <;> exact .atom rfl
  case h_4 hmapping =>
    have hself := hx x (Argument.mem_optionValues_self hmapping)
    exact failsPlainly_error (Fault.isPlain_optionTypeMismatch (by decide) hself (by decide))

/-! ### Patterns and calls -/

/-- What is wrong with tokens is wrong with a run among them. -/
theorem Token.run_mem_of_fault {tokens : List Token} (hproper : ∀ t ∈ tokens, t.IsProper)
    {f : PatternFault} (h : (Plan.ofTokens tokens).fault? = some f) : .run f.run ∈ tokens := by
  by_cases hoffender : ∃ k, IsOffendingAt tokens k
  · obtain ⟨r, hr, hplan⟩ := ofTokens_of_offender hproper (Nat.find_spec hoffender)
      fun j hj => Nat.find_min hoffender hj
    rw [hplan] at h
    cases h
    rw [PatternFault.run_ofOffender]
    exact List.mem_of_getElem? hr
  · rw [ofTokens_of_no_offender hproper (not_exists.mp hoffender)] at h
    cases h

theorem Plan.isPlain_of_ofPattern {pattern : String} {f : PatternFault}
    (h : (ofPattern pattern).fault? = some f) : f.fault.IsPlain foreign := by
  have hproper : ∀ t ∈ Token.scan pattern, t.IsProper :=
    Token.isProper_of_mem_scanAfter [] pattern.toList
  exact PatternFault.isPlain_fault (hproper _ (Token.run_mem_of_fault hproper h)).1

theorem isPlain_of_patternText {pattern : Argument} (hpattern : pattern.IsBuiltIn ∨ foreign)
    {f : Fault} (h : patternText pattern = .error f) : f.IsPlain foreign := by
  by_cases hp : pattern.IsPattern
  · rw [patternText_of_isPattern hp] at h
    exact Fault.isPlain_of_not_isComplaint (neverComplains_argument _ f h)
  · rw [patternText_of_not_isPattern hp] at h
    cases h
    exact Fault.isPlain_patternNotText hpattern

/-- The localizer's own faults have no diagnostics. -/
def Localizer.AttachesNone (l : Localizer) : Prop := ∀ f, l.Raises f → f.diagnostic? = none

theorem LocaleContext.attachesNone (ctx : LocaleContext) (registry : LocaleRegistry) :
    (ctx.localizer registry).AttachesNone := by
  intro f h
  cases f with
  | complaint c => exact absurd h (ctx.not_raises registry ⟨c, rfl⟩)
  | _ => rfl

namespace Run

variable {α β : Type} {p : Fault → Prop}

theorem failsWith_throw {f : Fault} (h : p f) : (throw f : Run α).FailsWith p := by
  rintro s f' ⟨⟩
  exact h

/-- What comes behind a result may rely on it. -/
theorem failsWith_ofExcept_bind {e : Except Fault α} {g : α → Run β} (he : ∀ f, e = .error f → p f)
    (hg : ∀ a, e = .ok a → (g a).FailsWith p) : (ofExcept e >>= g).FailsWith p := by
  cases e with
  | error f =>
    rw [ofExcept_error_bind rfl]
    exact failsWith_throw (he f rfl)
  | ok a =>
    rw [ofExcept_ok_bind rfl]
    exact hg a rfl

theorem Yields.failsWith_bind {x : Run α} {q : α → Prop} {g : α → Run β} (hx : x.Yields q)
    (hg : ∀ a, q a → (g a).FailsWith p) : (x >>= g).FailsWith p := by
  intro s f hfails
  obtain ⟨a, t, hrun, ha⟩ := hx s
  rw [run_bind, hrun] at hfails
  exact hg a ha t f hfails

end Run

theorem yields_localizerOf {localizer : Option Localizer} (hl : ∀ l ∈ localizer, l.AttachesNone)
    (registry : LocaleRegistry) :
    (localizerOf localizer registry).Yields Localizer.AttachesNone := by
  cases localizer with
  | some l => exact Run.yields_pure (hl l rfl)
  | none =>
    exact (Run.yields_createContext _ registry).bind fun made _ =>
      Run.yields_pure (made.context.attachesNone registry)

/-- A plan fails plainly if its fault is plain. -/
theorem Plan.failsWith_render {plan : Plan} {l : Localizer} {asks : Reading} (o : Options)
    (hl : l.AttachesNone) (hasks : asks.NeverComplains)
    (hfault : ∀ f, plan.fault? = some f → f.fault.IsPlain foreign) :
    (plan.render asks l o).FailsWith (Fault.IsPlain foreign) := by
  have hraised (f : Fault) (h : l.Raises f) : f.IsPlain foreign := by
    intro d hd
    rw [hl f h] at hd
    cases hd
  have hstep := Step.failsWith_render l o (fun f => Fault.isPlain_of_not_isComplaint) hraised hasks
  refine (Run.failsWith_mapM hstep plan.steps).bind fun texts => ?_
  cases h : plan.fault? with
  | some f => exact Run.failsWith_throw (hfault f h)
  | none => exact Run.failsWith_pure _

theorem failsWith_format {localizer : Option Localizer} (hl : ∀ l ∈ localizer, l.AttachesNone)
    (date : Option Argument) {pattern : Option Argument} {options : Argument}
    (hpattern : ∀ p ∈ pattern, p.IsBuiltIn ∨ foreign)
    (hoptions : ∀ v ∈ options.optionValues, v.IsBuiltIn ∨ foreign) (registry : LocaleRegistry) :
    (format date pattern options localizer registry).FailsWith (Fault.IsPlain foreign) := by
  unfold format
  split
  case h_1 date pattern =>
    refine Run.failsWith_ofExcept_bind (fun f h => isPlain_of_patternText (hpattern pattern rfl) h)
      fun text _ => ?_
    refine Run.failsWith_ofExcept_bind (Options.failsPlainly_ofArgument hoptions) fun o _ => ?_
    refine Run.failsWith_ofExcept_bind (fun f h => Fault.isPlain_of_not_isComplaint
      (Dated.ofArgument_neverComplains _ _ f h)) fun d _ => ?_
    refine Run.failsWith_ofExcept_bind (fun f h => Fault.isPlain_of_not_isComplaint
      (neverComplains_argument _ f h)) fun valid hvalid => ?_
    cases valid with
    | false => exact Run.failsWith_pure _
    | true =>
      have hvalid' : d.isValid = .ok true := by
        cases hd : d.isValid with
        | error f =>
          rw [hd] at hvalid
          cases hvalid
        | ok b =>
          rw [hd] at hvalid
          cases hvalid
          rfl
      refine (yields_localizerOf hl registry).failsWith_bind fun l hl => ?_
      exact Plan.failsWith_render o hl (d.reading_neverComplains hvalid')
        fun f => Plan.isPlain_of_ofPattern
  case h_2 => exact Run.failsWith_throw (Fault.isPlain_arity 0)
  case h_3 => exact Run.failsWith_throw (Fault.isPlain_arity 1)

/-- A call has failed with the diagnostic: one that resolves options, or one that formats and whose
localizer, if one is given, has no diagnostics of its own. No caller's class has a part in the pattern
or in the values of options, unless such classes count. -/
inductive Diagnostic.IsRaised (foreign : Prop) : Diagnostic → Prop
  | resolving {options : Argument} {f : Fault} {d : Diagnostic}
      (hoptions : ∀ v ∈ options.optionValues, v.IsBuiltIn ∨ foreign)
      (h : Options.ofArgument options = .error f) (hd : f.diagnostic? = some d) : IsRaised foreign d
  | formatting {date pattern : Option Argument} {options : Argument} {localizer : Option Localizer}
      {registry : LocaleRegistry} {s : Session} {f : Fault} {d : Diagnostic}
      (hpattern : ∀ p ∈ pattern, p.IsBuiltIn ∨ foreign)
      (hoptions : ∀ v ∈ options.optionValues, v.IsBuiltIn ∨ foreign)
      (hl : ∀ l ∈ localizer, l.AttachesNone)
      (h : ((format date pattern options localizer registry).run.run s).1 = .error f)
      (hd : f.diagnostic? = some d) : IsRaised foreign d

namespace Diagnostic

/-- A diagnostic that a call fails with has its message on one line, but for what it quotes. -/
theorem IsRaised.hasPlainMessage {d : Diagnostic} (h : d.IsRaised foreign) :
    d.HasPlainMessage foreign := by
  cases h with
  | resolving hoptions h hd => exact Options.failsPlainly_ofArgument hoptions _ h d hd
  | formatting hpattern hoptions hl h hd =>
    exact failsWith_format hl _ hpattern hoptions _ _ _ h d hd

/-- Every key that names no option and has a text is complained about. -/
theorem isRaised_optionUnknown {key : Argument} {text : String}
    (hkey : OptionName.ofKey? key = none) (htext : key.display = .ok text) :
    (optionUnknown ⟨key, text⟩).IsRaised foreign := by
  obtain ⟨shown, hshown⟩ := Fault.exists_optionUnknown htext
  have hfault : Options.ofArgument (.mapping [(key, .absent)]) = .error (.optionUnknown key) := by
    rw [Options.ofArgument, Options.ofEntries, Draft.ofEntries, hkey]
    rfl
  have hvalues : ∀ v ∈ (Argument.mapping [(key, .absent)]).optionValues, v.IsBuiltIn ∨ foreign :=
    List.forall_mem_singleton.mpr (.inl (.atom rfl))
  refine .resolving hvalues hfault ?_
  rw [hshown]
  rfl

end Diagnostic

end DatePattern
