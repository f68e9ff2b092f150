import DatePattern.Options.Draft
import DatePattern.Proofs.Diagnostic.Wording
import Mathlib.Data.List.DropRight

/-! How the options of a call are resolved: to options in range, or to a complaint that names the
option; and the values for which there is neither. -/
namespace DatePattern

/-- A text that looks like a number of digits but cannot be read as one, since a character of it
only looks like a digit or since there are too many; or a fraction beyond the doubles. -/
def Argument.HasUnreadableDigits : Argument → Prop
  | .atom (.text s) =>
    let cs := trimBlanks s.toList
    cs ≠ [] ∧ (∀ c ∈ cs, looksLikeDigit c = true) ∧
      ((∃ c ∈ cs, digitValue? c = none) ∨ digitLimit < cs.length)
  | .atom (.number (.ratio q)) => (Binary64.ofRat q).isFinite = false
  | _ => False

/-- The value has no literal: a numeral in it is too long, or it comes from code of the caller's that
fails. -/
def Argument.LacksLiteral (x : Argument) : Prop := ∃ f, x.literal = .error f

/-- The value has no text for reading, for one of these causes. -/
def Argument.LacksText (x : Argument) : Prop := ∃ f, x.display = .error f

namespace OptionName

/-- The options in the order of the checks. -/
def checked : List OptionName := settable ++ [ordinal]

/-- The option accepts the value. -/
def Accepts (name : OptionName) (value : Argument) : Prop :=
  match name with
  | additionalDigits =>
    value = .absent ∨ ∃ n, integerValue? value = .ok (some n) ∧ (n = 0 ∨ n = 1 ∨ n = 2)
  | weekStartsOn => value = .absent ∨ ∃ n, value = .int n ∧ IsWeekday n
  | firstWeekContains => value = .absent ∨ ∃ n, value = .int n ∧ IsFirstWeekDay n
  | weekYear | dayOfYear | ordinal => ∃ b, value = .flag b

/-- A value of the option that cannot be complained about: it is not read, or cannot be written. -/
def Escapes (name : OptionName) (value : Argument) : Prop :=
  (name = additionalDigits ∧ value.HasUnreadableDigits) ∨ value.LacksLiteral

end OptionName

namespace Draft

def value (d : Draft) : OptionName → Argument
  | .additionalDigits => d.additionalDigits
  | .weekStartsOn => d.weekStartsOn
  | .firstWeekContains => d.firstWeekContains
  | .weekYear => d.weekYear
  | .dayOfYear => d.dayOfYear
  | .ordinal => d.ordinal

theorem value_set (d : Draft) (name other : OptionName) (v : Argument) :
    (d.set name v).value other = if other = name then v else d.value other := by
  cases name <;> cases other <;> rfl

/-- The first of the options whose value is not accepted has one that escapes. -/
def EscapesAmong (d : Draft) (names : List OptionName) : Prop :=
  ∃ before name after, names = before ++ name :: after ∧
    (∀ earlier ∈ before, earlier.Accepts (d.value earlier)) ∧
    ¬ name.Accepts (d.value name) ∧ name.Escapes (d.value name)

end Draft

/-- The options argument is neither resolved nor complained about: its first unknown key cannot be
written, or else the value of the first option that is refused, or it is itself no options and
cannot be written. -/
def Options.Escapes : Argument → Prop
  | .atom .absent => False
  | .atom (.options _) => False
  | .mapping entries =>
    match entries.find? fun entry => (OptionName.ofKey? entry.1).isNone with
    | some (key, _) => key.LacksText
    | none => ∃ d, Draft.ofEntries {} entries = .ok d ∧ d.EscapesAmong OptionName.checked
  | x => x.LacksLiteral

/-- A complaint about an option, with its diagnostic. -/
def Fault.IsOptionComplaint (f : Fault) : Prop :=
  ∃ name text d, f = .complaint ⟨.option name, text, some d⟩

def Fault.IsComplaint (f : Fault) : Prop := ∃ c, f = .complaint c

/-- The fault is a complaint about an option, but no complaint at all under the condition. -/
def Fault.ComplainsUnless (f : Fault) (p : Prop) : Prop :=
  (¬ p → f.IsOptionComplaint) ∧ (p → ¬ f.IsComplaint)

/-- The result is a value or a complaint about an option, and another fault exactly under the
condition. -/
def ResolvesUnless {α : Type} (e : Except Fault α) (p : Prop) : Prop :=
  (¬ p → (∃ a, e = .ok a) ∨ ∃ f, e = .error f ∧ f.IsOptionComplaint) ∧
  (p → ∃ f, e = .error f ∧ ¬ f.IsComplaint)

namespace Fault

variable {x : Argument}

theorem argument_not_isComplaint (f : ArgumentFault) : ¬ (argument f).IsComplaint := by
  rintro ⟨c, hc⟩
  cases hc

theorem numeral_not_isComplaint (f : NotationFault) : ¬ (numeral f).IsComplaint := by
  rintro ⟨c, hc⟩
  cases hc

theorem isOptionComplaint_ofDiagnostic {d : Diagnostic} (hd : d.IsWritten) (key : Argument) :
    (ofDiagnostic (.option key) d).IsOptionComplaint := by
  obtain ⟨text, htext⟩ := exists_ofDiagnostic_eq (.option key) hd
  exact ⟨key, text, d, htext⟩

/-- A complaint that quotes a value is made unless the value cannot be written. -/
theorem complainsUnless_literal {d : String → Diagnostic} (hd : ∀ literal, (d literal).IsWritten)
    (key x : Argument) :
    (match x.literal with
      | .ok literal => ofDiagnostic (.option key) (d literal)
      | .error f => argument f).ComplainsUnless x.LacksLiteral := by
  cases hx : x.literal with
  | ok literal =>
    refine ⟨fun _ => isOptionComplaint_ofDiagnostic (hd literal) key, ?_⟩
    rintro ⟨f, hf⟩
    cases hx.symm.trans hf
  | error f => exact ⟨fun h => absurd ⟨f, hx⟩ h, fun _ => argument_not_isComplaint f⟩

theorem optionOutOfRange_complains (name : String) (x : Argument) (allowed : String) :
    (optionOutOfRange name x allowed).ComplainsUnless x.LacksLiteral := by
  have hwritten (literal : String) :
      (Diagnostic.optionOutOfRange name literal allowed).IsWritten := by
    have htext := Argument.isWritten_text
    have habsent := Argument.isWritten_absent
    exact ⟨htext _, habsent, habsent, htext _, htext _, habsent, habsent⟩
  exact complainsUnless_literal hwritten (.text name) x

theorem optionTypeMismatch_complains (name : String) (x : Argument) (expected : String) :
    (optionTypeMismatch name x expected).ComplainsUnless x.LacksLiteral := by
  have hwritten (literal : String) :
      (Diagnostic.optionTypeMismatch name x.kindName literal expected).IsWritten := by
    have htext := Argument.isWritten_text
    have habsent := Argument.isWritten_absent
    exact ⟨htext _, habsent, habsent, htext _, htext _, habsent, habsent⟩
  exact complainsUnless_literal hwritten (.text name) x

/-- The complaint about an unknown key names it, and quotes its text for reading. -/
theorem exists_optionUnknown {key : Argument} {text : String} (hkey : key.display = .ok text) :
    ∃ shown, optionUnknown key =
      .complaint ⟨.option key, shown, some (.optionUnknown ⟨key, text⟩)⟩ := by
  have hwritten : (Diagnostic.optionUnknown ⟨key, text⟩).IsWritten := by
    have htext := Argument.isWritten_text
    have habsent := Argument.isWritten_absent
    exact ⟨htext _, habsent, habsent, ⟨text, hkey⟩, habsent, htext _, habsent⟩
  rw [optionUnknown, hkey]
  exact exists_ofDiagnostic_eq (.option key) hwritten

theorem optionUnknown_complains (key : Argument) :
    (optionUnknown key).ComplainsUnless key.LacksText := by
  cases hkey : key.display with
  | ok text =>
    obtain ⟨shown, hshown⟩ := exists_optionUnknown hkey
    refine ⟨fun _ => ⟨key, shown, _, hshown⟩, ?_⟩
    rintro ⟨f, hf⟩
    cases hkey.symm.trans hf
  | error f =>
    rw [optionUnknown, hkey]
    exact ⟨fun h => absurd ⟨f, hkey⟩ h, fun _ => argument_not_isComplaint f⟩

end Fault

namespace ResolvesUnless

variable {α β : Type} {e : Except Fault α} {f : Fault} {p q : Prop}

theorem of_ok (h : ∃ a, e = .ok a) (hp : ¬ p) : ResolvesUnless e p :=
  ⟨fun _ => .inl h, fun hyes => absurd hyes hp⟩

theorem of_error (h : f.ComplainsUnless p) : ResolvesUnless (.error f : Except Fault α) p :=
  ⟨fun hp => .inr ⟨f, rfl, h.1 hp⟩, fun hp => ⟨f, rfl, h.2 hp⟩⟩

theorem congr (h : ResolvesUnless e p) (hpq : p ↔ q) : ResolvesUnless e q := by
  rwa [ResolvesUnless, ← hpq]

end ResolvesUnless

/-- The check of a value of an option: it succeeds if the option accepts the value, and else fails
with a complaint unless the value escapes. -/
def OptionName.Checks {α : Type} (name : OptionName) (value : Argument) (e : Except Fault α) :
    Prop :=
  (name.Accepts value → ∃ a, e = .ok a) ∧
  (¬ name.Accepts value → ∃ f, e = .error f ∧ f.ComplainsUnless (name.Escapes value))

namespace Draft

variable {d : Draft} {name : OptionName} {rest : List OptionName}

theorem escapesAmong_nil : ¬ d.EscapesAmong [] := by
  rintro ⟨before, name, after, hnames, -⟩
  cases before <;> cases hnames

theorem escapesAmong_cons :
    d.EscapesAmong (name :: rest) ↔
      (¬ name.Accepts (d.value name) ∧ name.Escapes (d.value name)) ∨
        (name.Accepts (d.value name) ∧ d.EscapesAmong rest) := by
  constructor
  · rintro ⟨before, first, after, hnames, hbefore, hrefused, hescapes⟩
    cases before with
    | nil =>
      cases hnames
      exact .inl ⟨hrefused, hescapes⟩
    | cons earlier before =>
      cases hnames
      obtain ⟨hearlier, hbefore⟩ := List.forall_mem_cons.mp hbefore
      exact .inr ⟨hearlier, before, first, after, rfl, hbefore, hrefused, hescapes⟩
  · rintro (⟨hrefused, hescapes⟩ | ⟨haccepts, before, first, after, rfl, hbefore, hfirst⟩)
    · exact ⟨[], name, rest, rfl, List.forall_mem_nil _, hrefused, hescapes⟩
    · have hall : ∀ earlier ∈ name :: before, earlier.Accepts (d.value earlier) :=
        List.forall_mem_cons.mpr ⟨haccepts, hbefore⟩
      exact ⟨name :: before, first, after, rfl, hall, hfirst⟩

/-- The check of one option, and then those of the rest. -/
theorem resolvesUnless_bind {α β : Type} {e : Except Fault α} {f : α → Except Fault β}
    (he : name.Checks (d.value name) e)
    (hf : ∀ a, e = .ok a → ResolvesUnless (f a) (d.EscapesAmong rest)) :
    ResolvesUnless (e >>= f) (d.EscapesAmong (name :: rest)) := by
  by_cases haccepts : name.Accepts (d.value name)
  · obtain ⟨a, rfl⟩ := he.1 haccepts
    refine (hf a rfl).congr ?_
    rw [escapesAmong_cons]
    simp [haccepts]
  · obtain ⟨fault, rfl, hfault⟩ := he.2 haccepts
    have hescapes : d.EscapesAmong (name :: rest) ↔ name.Escapes (d.value name) := by
      rw [escapesAmong_cons]
      simp [haccepts]
    exact (ResolvesUnless.of_error hfault).congr hescapes.symm

end Draft

/-- A text that has been trimmed has no blanks to trim. -/
theorem trimBlanks_trimBlanks (cs : List Char) : trimBlanks (trimBlanks cs) = trimBlanks cs := by
  have htrim (ds : List Char) : trimBlanks ds = (ds.dropWhile isBlank).rdropWhile isBlank := rfl
  have hfront : (trimBlanks cs).dropWhile isBlank = trimBlanks cs := by
    obtain ⟨behind, hbehind⟩ := List.rdropWhile_prefix isBlank (cs.dropWhile isBlank)
    rw [← htrim] at hbehind
    cases htext : trimBlanks cs with
    | nil => rfl
    | cons c ds =>
      have hhead := List.head?_dropWhile_not isBlank cs
      rw [← hbehind, htext] at hhead
      exact List.dropWhile_cons_of_neg (by simpa using hhead)
  rw [htrim (trimBlanks cs), hfront, htrim cs, List.rdropWhile_idempotent]

theorem wellDivided_of_not_mem {cs : List Char} (hne : cs ≠ []) (h : '_' ∉ cs) :
    wellDivided cs = true := by
  induction cs using wellDivided.induct with
  | case1 => exact absurd rfl hne
  | case2 rest => exact absurd List.mem_cons_self h
  | case3 c hc => rw [wellDivided]; exact hc
  | case4 c hc => exact absurd (List.mem_cons_of_mem _ List.mem_cons_self) h
  | case5 c rest hc hrest ih => exact absurd (List.mem_cons_of_mem _ List.mem_cons_self) h
  | case6 c rest hc hrest hone hnext ih =>
    rw [wellDivided]
    · exact ih hrest fun hmem => h (List.mem_cons_of_mem _ hmem)
    · exact hc
    · exact hrest
    · exact hone
    · exact hnext

theorem looksLikeDigit_ne {c : Char} (h : looksLikeDigit c = true) :
    c ≠ '-' ∧ c ≠ '+' ∧ c ≠ '_' := by
  refine ⟨?_, ?_, ?_⟩ <;>
  · rintro rfl
    revert h
    decide

section

variable {cs : List Char}

theorem splitSign_of_digits (h : ∀ c ∈ cs, looksLikeDigit c = true) :
    splitSign cs = (false, cs) := by
  cases cs with
  | nil => rfl
  | cons c cs =>
    obtain ⟨hminus, hplus, -⟩ := looksLikeDigit_ne (h c List.mem_cons_self)
    rw [splitSign]
    · rintro rest ⟨⟩
      exact hminus rfl
    · rintro rest ⟨⟩
      exact hplus rfl

/-- Without underscores among its characters, a text is a numeral to its end if all are digits. -/
theorem takeWhile_digits_eq_iff (hbare : '_' ∉ cs) :
    (cs.takeWhile fun c => c == '_' || (digitValue? c).isSome) = cs ↔
      ∀ c ∈ cs, (digitValue? c).isSome = true := by
  rw [List.takeWhile_eq_self_iff]
  refine forall₂_congr fun c hc => ?_
  have hne : c ≠ '_' := fun h => hbare (h ▸ hc)
  rw [beq_false_of_ne hne, Bool.false_or]

/-- A text whose characters all look like digits is read exactly if they all are, and not too
many. -/
theorem exists_readInteger_iff (htrim : trimBlanks cs = cs) (hne : cs ≠ [])
    (h : ∀ c ∈ cs, looksLikeDigit c = true) :
    (∃ n, readInteger (String.ofList cs) = .ok n) ↔
      (∀ c ∈ cs, (digitValue? c).isSome = true) ∧ cs.length ≤ digitLimit := by
  have hbare : '_' ∉ cs := fun hmem => (looksLikeDigit_ne (h _ hmem)).2.2 rfl
  simp only [readInteger, String.toList_ofList, htrim, splitSign_of_digits h]
  constructor
  · rintro ⟨n, hn⟩
    split at hn
    · cases hn
    split at hn
    · cases hn
    split at hn
    · cases hn
    case isFalse.isFalse.isFalse hlong hrest =>
      have hwhole : (cs.takeWhile fun c => c == '_' || (digitValue? c).isSome) = cs := by
        refine (List.takeWhile_prefix _).eq_of_length_le ?_
        simp only [Bool.or_eq_true, decide_eq_true_eq, not_or, Nat.not_lt] at hrest
        exact hrest.2
      have hdigits := (takeWhile_digits_eq_iff hbare).mp hwhole
      rw [hwhole, List.filterMap_length_eq_length.mpr hdigits] at hlong
      exact ⟨hdigits, Nat.not_lt.mp hlong⟩
  · rintro ⟨hdigits, hlength⟩
    have hwhole := (takeWhile_digits_eq_iff hbare).mpr hdigits
    have hcount := List.filterMap_length_eq_length.mpr hdigits
    have hsome : (cs.filterMap digitValue?).isEmpty = false := by
      rw [List.isEmpty_eq_false_iff, ← List.length_pos_iff, hcount]
      exact List.length_pos_iff.mpr hne
    rw [hwhole, wellDivided_of_not_mem hne hbare, hcount, if_neg (by decide),
      if_neg (Nat.not_lt.mpr hlength), hsome, Bool.false_or, if_neg (by simp)]
    exact ⟨_, rfl⟩

end

namespace OptionName

variable {value : Argument}

theorem escapes_iff {name : OptionName} (h : name ≠ additionalDigits) :
    name.Escapes value ↔ value.LacksLiteral :=
  or_iff_right fun hdigits => h hdigits.1

theorem checks_int {name : OptionName} {allowed : String} {p : Int → Prop} [DecidablePred p]
    (hname : name ≠ additionalDigits)
    (haccepts : name.Accepts value ↔ value = .absent ∨ ∃ n, value = .int n ∧ p n) :
    name.Checks value (checkInt name allowed p value) := by
  rw [Checks, escapes_iff hname, haccepts]
  unfold checkInt
  split
  case h_1 => exact ⟨fun _ => ⟨_, rfl⟩, fun h => absurd (.inl rfl) h⟩
  case h_2 n =>
    by_cases hn : p n
    · rw [dif_pos hn]
      exact ⟨fun _ => ⟨_, rfl⟩, fun h => absurd (.inr ⟨n, rfl, hn⟩) h⟩
    · rw [dif_neg hn]
      refine ⟨?_, fun _ => ⟨_, rfl, Fault.optionOutOfRange_complains _ _ _⟩⟩
      rintro (⟨⟨⟩⟩ | ⟨m, ⟨⟨⟩⟩, hm⟩)
      exact absurd hm hn
  case h_3 habsent hint =>
    refine ⟨?_, fun _ => ⟨_, rfl, Fault.optionTypeMismatch_complains _ _ _⟩⟩
    rintro (rfl | ⟨n, rfl, -⟩)
    · exact (habsent rfl).elim
    · exact (hint n rfl).elim

theorem checks_flag {name : OptionName} (hname : name ≠ additionalDigits)
    (haccepts : name.Accepts value ↔ ∃ b, value = .flag b) :
    name.Checks value (checkFlag name value) := by
  rw [Checks, escapes_iff hname, haccepts]
  unfold checkFlag
  split
  case h_1 b => exact ⟨fun _ => ⟨b, rfl⟩, fun h => absurd ⟨b, rfl⟩ h⟩
  case h_2 hflag =>
    refine ⟨?_, fun _ => ⟨_, rfl, Fault.optionTypeMismatch_complains _ _ _⟩⟩
    rintro ⟨b, rfl⟩
    exact (hflag b rfl).elim

theorem integerValue?_digits {s : String} (hne : trimBlanks s.toList ≠ [])
    (hall : ∀ c ∈ trimBlanks s.toList, looksLikeDigit c = true) :
    integerValue? (.text s) =
      match readInteger (String.ofList (trimBlanks s.toList)) with
      | .ok n => .ok (some n)
      | .error f => .error (.numeral f) := by
  have hlooks : (!(trimBlanks s.toList).isEmpty && (trimBlanks s.toList).all looksLikeDigit) =
      true := by
    rw [Bool.and_eq_true, Bool.not_eq_true', List.isEmpty_eq_false_iff, List.all_eq_true]
    exact ⟨hne, hall⟩
  cases h : readInteger (String.ofList (trimBlanks s.toList)) with
  | ok n => simp only [Argument.text, integerValue?, hlooks, if_true, h]
  | error f => simp only [Argument.text, integerValue?, hlooks, if_true, h]

theorem integerValue?_noDigits {s : String}
    (h : ¬ (trimBlanks s.toList ≠ [] ∧ ∀ c ∈ trimBlanks s.toList, looksLikeDigit c = true)) :
    integerValue? (.text s) = .ok none := by
  rw [Argument.text, integerValue?]
  refine if_neg ?_
  rw [Bool.and_eq_true, Bool.not_eq_true', List.isEmpty_eq_false_iff, List.all_eq_true]
  exact h

theorem exists_integerValue?_text {s : String} (h : ¬ (Argument.text s).HasUnreadableDigits) :
    ∃ n, integerValue? (.text s) = .ok n := by
  by_cases hlooks : trimBlanks s.toList ≠ [] ∧ ∀ c ∈ trimBlanks s.toList, looksLikeDigit c = true
  · obtain ⟨hne, hall⟩ := hlooks
    have hread : ∃ n, readInteger (String.ofList (trimBlanks s.toList)) = .ok n := by
      refine (exists_readInteger_iff (trimBlanks_trimBlanks _) hne hall).mpr ⟨?_, ?_⟩
      · intro c hc
        rw [← Option.ne_none_iff_isSome]
        exact fun hnone => h ⟨hne, hall, .inl ⟨c, hc, hnone⟩⟩
      · exact Nat.not_lt.mp fun hlong => h ⟨hne, hall, .inr hlong⟩
    obtain ⟨n, hn⟩ := hread
    rw [integerValue?_digits hne hall, hn]
    exact ⟨_, rfl⟩
  · exact ⟨none, integerValue?_noDigits hlooks⟩

theorem integerValue?_text_eq_error {s : String} (h : (Argument.text s).HasUnreadableDigits) :
    ∃ f, integerValue? (.text s) = .error (.numeral f) := by
  obtain ⟨hne, hall, hunread⟩ := h
  rw [integerValue?_digits hne hall]
  cases hread : readInteger (String.ofList (trimBlanks s.toList)) with
  | error f => exact ⟨f, rfl⟩
  | ok n =>
    obtain ⟨hdigits, hlength⟩ :=
      (exists_readInteger_iff (trimBlanks_trimBlanks _) hne hall).mp ⟨n, hread⟩
    rcases hunread with ⟨c, hc, hnone⟩ | hlong
    · exact absurd hnone (Option.ne_none_iff_isSome.mpr (hdigits c hc))
    · exact absurd hlength (Nat.not_le.mpr hlong)

theorem exists_integerValue? (h : ¬ value.HasUnreadableDigits) :
    ∃ n, integerValue? value = .ok n := by
  cases value with
  | atom a =>
    cases a with
    | text s => exact exists_integerValue?_text h
    | number x =>
      cases x with
      | ratio q =>
        have hdouble : Number.doubleOfRatio q = .ok (Binary64.ofRat q) :=
          if_pos (Bool.of_not_eq_false h)
        rw [integerValue?, hdouble]
        exact ⟨_, rfl⟩
      | integer n => exact ⟨_, rfl⟩
      | binary x => exact ⟨_, rfl⟩
      | decimal d => exact ⟨_, rfl⟩
    | _ => exact ⟨none, rfl⟩
  | _ => exact ⟨none, rfl⟩

theorem integerValue?_eq_error (h : value.HasUnreadableDigits) :
    ∃ f, integerValue? value = .error f ∧ ¬ f.IsComplaint := by
  unfold Argument.HasUnreadableDigits at h
  split at h
  case h_1 s =>
    obtain ⟨f, hf⟩ := integerValue?_text_eq_error h
    exact ⟨_, hf, Fault.numeral_not_isComplaint f⟩
  case h_2 q =>
    have hdouble : Number.doubleOfRatio q = .error .fractionTooLarge :=
      if_neg (by rw [h]; decide)
    refine ⟨.argument (.number .fractionTooLarge), ?_, Fault.argument_not_isComplaint _⟩
    rw [integerValue?, hdouble]
  case h_3 => exact h.elim

section

variable {f : Fault} {n : Int} (habsent : value ≠ .absent)
include habsent

theorem normalizeDigits_of_error (h : integerValue? value = .error f) :
    normalizeDigits value = .error f := by
  unfold normalizeDigits
  split
  case h_1 => exact absurd rfl habsent
  case h_2 =>
    rw [h]
    rfl

theorem normalizeDigits_of_none (h : integerValue? value = .ok none) :
    normalizeDigits value = .error (digitCountFault value) := by
  unfold normalizeDigits
  split
  case h_1 => exact absurd rfl habsent
  case h_2 =>
    rw [h]
    rfl

theorem normalizeDigits_of_some (h : integerValue? value = .ok (some n)) :
    normalizeDigits value =
      if n = 0 ∨ n = 1 ∨ n = 2 then .ok (some n) else .error (digitCountFault value) := by
  unfold normalizeDigits
  split
  case h_1 => exact absurd rfl habsent
  case h_2 =>
    rw [h]
    rfl

end

theorem digitCountFault_complains (h : ¬ value.HasUnreadableDigits) :
    (digitCountFault value).ComplainsUnless (additionalDigits.Escapes value) := by
  have hescapes : additionalDigits.Escapes value ↔ value.LacksLiteral :=
    or_iff_right fun hdigits => h hdigits.2
  rw [hescapes]
  exact Fault.optionOutOfRange_complains _ value _

theorem checks_digits : additionalDigits.Checks value (normalizeDigits value) := by
  by_cases habsent : value = .absent
  · subst habsent
    exact ⟨fun _ => ⟨none, rfl⟩, fun h => absurd (.inl rfl) h⟩
  have haccepts : additionalDigits.Accepts value ↔
      ∃ n, integerValue? value = .ok (some n) ∧ (n = 0 ∨ n = 1 ∨ n = 2) :=
    or_iff_right habsent
  rw [Checks, haccepts]
  by_cases hread : value.HasUnreadableDigits
  · obtain ⟨f, hf, hnot⟩ := integerValue?_eq_error hread
    rw [normalizeDigits_of_error habsent hf]
    refine ⟨?_, fun _ => ⟨f, rfl, fun h => absurd (.inl ⟨rfl, hread⟩) h, fun _ => hnot⟩⟩
    rintro ⟨n, hn, -⟩
    cases hf.symm.trans hn
  · have hfault := digitCountFault_complains hread
    obtain ⟨count, hcount⟩ := exists_integerValue? hread
    cases count with
    | none =>
      rw [normalizeDigits_of_none habsent hcount]
      refine ⟨?_, fun _ => ⟨_, rfl, hfault⟩⟩
      rintro ⟨n, hn, -⟩
      cases hcount.symm.trans hn
    | some n =>
      rw [normalizeDigits_of_some habsent hcount]
      by_cases hn : n = 0 ∨ n = 1 ∨ n = 2
      · rw [if_pos hn]
        exact ⟨fun _ => ⟨_, rfl⟩, fun h => absurd ⟨n, hcount, hn⟩ h⟩
      · rw [if_neg hn]
        refine ⟨?_, fun _ => ⟨_, rfl, hfault⟩⟩
        rintro ⟨m, hm, hm'⟩
        cases hcount.symm.trans hm
        exact absurd hm' hn

/-- What is brought to an integer is kept. -/
theorem exists_checkDigits {digits : Option Int} (h : normalizeDigits value = .ok digits) :
    ∃ x, checkDigits (match digits with | some n => .int n | none => .absent) = .ok x := by
  by_cases habsent : value = .absent
  · subst habsent
    cases h
    exact ⟨_, rfl⟩
  · obtain ⟨count, hcount⟩ : ∃ count, integerValue? value = .ok count := by
      by_contra hnone
      have hread : value.HasUnreadableDigits := by
        by_contra hread
        exact hnone (exists_integerValue? hread)
      obtain ⟨f, hf, -⟩ := integerValue?_eq_error hread
      cases (normalizeDigits_of_error habsent hf).symm.trans h
    cases count with
    | none => cases (normalizeDigits_of_none habsent hcount).symm.trans h
    | some n =>
      rw [normalizeDigits_of_some habsent hcount] at h
      split at h
      case isTrue hn =>
        cases h
        rcases hn with rfl | rfl | rfl <;> exact ⟨_, rfl⟩
      case isFalse => cases h

end OptionName

namespace Draft

/-- The checks behind that of the digits, whatever these are. -/
theorem resolvesUnless_check (d : Draft) {digits : Argument} (h : ∃ x, checkDigits digits = .ok x) :
    ResolvesUnless (d.set .additionalDigits digits).check
      (d.EscapesAmong [.weekStartsOn, .firstWeekContains, .weekYear, .dayOfYear, .ordinal]) := by
  obtain ⟨x, hx⟩ := h
  change ResolvesUnless (checkDigits digits >>= fun _ => _) _
  rw [hx]
  change ResolvesUnless (checkInt .weekStartsOn _ _ d.weekStartsOn >>= fun _ => _) _
  refine resolvesUnless_bind (OptionName.checks_int (by decide) Iff.rfl) fun starts _ => ?_
  refine resolvesUnless_bind (OptionName.checks_int (by decide) Iff.rfl) fun contains _ => ?_
  refine resolvesUnless_bind (OptionName.checks_flag (by decide) Iff.rfl) fun weekYear _ => ?_
  refine resolvesUnless_bind (OptionName.checks_flag (by decide) Iff.rfl) fun dayOfYear _ => ?_
  refine resolvesUnless_bind (OptionName.checks_flag (by decide) Iff.rfl) fun ordinal _ => ?_
  exact .of_ok ⟨_, rfl⟩ escapesAmong_nil

variable {entries : List (Argument × Argument)}

theorem ofEntries_of_unknown {entry : Argument × Argument}
    (h : (entries.find? fun entry => (OptionName.ofKey? entry.1).isNone) = some entry) (d : Draft) :
    d.ofEntries entries = .error (.optionUnknown entry.1) := by
  induction entries generalizing d with
  | nil => cases h
  | cons first rest ih =>
    obtain ⟨key, value⟩ := first
    rw [ofEntries]
    cases hkey : OptionName.ofKey? key with
    | none =>
      rw [List.find?_cons_of_pos (by rw [hkey]; rfl)] at h
      cases h
      rfl
    | some name =>
      rw [List.find?_cons_of_neg (by rw [hkey]; simp)] at h
      exact ih h _

theorem exists_ofEntries
    (h : (entries.find? fun entry => (OptionName.ofKey? entry.1).isNone) = none) (d : Draft) :
    ∃ made, d.ofEntries entries = .ok made := by
  induction entries generalizing d with
  | nil => exact ⟨d, rfl⟩
  | cons first rest ih =>
    obtain ⟨key, value⟩ := first
    rw [ofEntries]
    cases hkey : OptionName.ofKey? key with
    | none =>
      rw [List.find?_cons_of_pos (by rw [hkey]; rfl)] at h
      cases h
    | some name =>
      rw [List.find?_cons_of_neg (by rw [hkey]; simp)] at h
      exact ih h _

end Draft

namespace Options

theorem ofEntries_resolvesUnless {entries : List (Argument × Argument)} {d : Draft}
    (h : Draft.ofEntries {} entries = .ok d) :
    ResolvesUnless (ofEntries entries) (d.EscapesAmong OptionName.checked) := by
  unfold ofEntries
  rw [h]
  change ResolvesUnless (normalizeDigits d.additionalDigits >>= fun _ => _) _
  refine Draft.resolvesUnless_bind OptionName.checks_digits fun digits hdigits => ?_
  exact d.resolvesUnless_check (OptionName.exists_checkDigits hdigits)

theorem ofArgument_resolvesUnless (x : Argument) : ResolvesUnless (ofArgument x) (Escapes x) := by
  unfold ofArgument
  split
  case h_1 => exact .of_ok ⟨_, rfl⟩ id
  case h_2 o => exact .of_ok ⟨o, rfl⟩ id
  case h_3 entries =>
    rw [Escapes]
    split
    case h_1 key value hunknown =>
      have hfault : ofEntries entries = .error (.optionUnknown key) := by
        rw [ofEntries, Draft.ofEntries_of_unknown hunknown]
        rfl
      rw [hfault]
      exact .of_error (Fault.optionUnknown_complains key)
    case h_2 hknown =>
      obtain ⟨d, hd⟩ := Draft.exists_ofEntries hknown {}
      refine (ofEntries_resolvesUnless hd).congr ⟨fun h => ⟨d, hd, h⟩, ?_⟩
      rintro ⟨made, hmade, h⟩
      cases hd.symm.trans hmade
      exact h
  case h_4 habsent hoptions hmapping =>
    have hescapes : Escapes x ↔ x.LacksLiteral := by
      unfold Escapes
      split
      case h_1 => exact (habsent rfl).elim
      case h_2 o => exact (hoptions o rfl).elim
      case h_3 entries => exact (hmapping entries rfl).elim
      case h_4 => exact Iff.rfl
    have hcomplains := Fault.optionTypeMismatch_complains "options" x "FormatOptions or mapping"
    exact (ResolvesUnless.of_error hcomplains).congr hescapes.symm

/-- Resolving the options of a call, whatever is given for them, comes to options in range or to a
complaint that names an option and has its diagnostic, unless the options escape; then it comes to
neither. -/
theorem ofArgument_unless_escapes (x : Argument) :
    (¬ Escapes x →
      (∃ o, ofArgument x = .ok o ∧ (∀ n ∈ o.additionalDigits, IsDigitCount n) ∧
        (∀ n ∈ o.weekStartsOn, 0 ≤ n ∧ n ≤ 6) ∧ (∀ n ∈ o.firstWeekContains, 1 ≤ n ∧ n ≤ 7) ∧
        (0 ≤ o.weekRule.startsOn ∧ o.weekRule.startsOn ≤ 6) ∧
        (1 ≤ o.weekRule.januaryDay ∧ o.weekRule.januaryDay ≤ 7)) ∨
      ∃ name text d, ofArgument x = .error (.complaint ⟨.option name, text, some d⟩)) ∧
    (Escapes x → ∃ f, ofArgument x = .error f ∧ ∀ c, f ≠ .complaint c) := by
  obtain ⟨hresolves, hescapes⟩ := ofArgument_resolvesUnless x
  refine ⟨fun h => ?_, fun h => ?_⟩
  · rcases hresolves h with ⟨o, ho⟩ | ⟨f, hf, name, text, d, rfl⟩
    · exact .inl ⟨o, ho, o.additionalDigits_inRange, o.weekStartsOn_inRange,
        o.firstWeekContains_inRange, o.weekRule_isValid⟩
    · exact .inr ⟨name, text, d, hf⟩
  · obtain ⟨f, hf, hnot⟩ := hescapes h
    exact ⟨f, hf, fun c hc => hnot ⟨c, hc⟩⟩

/-- A superscript looks like a digit and is none. The number of extra digits is then neither read
nor complained about. -/
theorem ofArgument_superscript_escapes :
    let x : Argument := .mapping [(.text "additional_digits", .text "²")]
    ¬ ((∃ o, ofArgument x = .ok o) ∨ ∃ c, ofArgument x = .error (.complaint c)) := by
  intro x
  have hchars : "²".toList = ['²'] := rfl
  have hread : readInteger (String.ofList (trimBlanks "²".toList)) = .error (.noInteger "'²'") := by
    rw [hchars]
    decide +kernel
  have hvalue : integerValue? (.text "²") = .error (.numeral (.noInteger "'²'")) := by
    rw [OptionName.integerValue?_digits, hread]
    · rw [hchars]
      decide
    · rw [hchars]
      exact List.all_eq_true.mp (by decide)
  have hdigits := OptionName.normalizeDigits_of_error (by rintro ⟨⟩) hvalue
  have hx : ofArgument x = .error (.numeral (.noInteger "'²'")) := by
    have hdraft : Draft.ofEntries {} [(.text "additional_digits", .text "²")] =
        .ok { additionalDigits := .text "²" } := rfl
    simp only [ofArgument, ofEntries, x, hdraft, bind, Except.bind, hdigits]
  rw [hx]
  rintro (⟨o, h⟩ | ⟨c, h⟩)
  · cases h
  · cases h

end Options

end DatePattern
