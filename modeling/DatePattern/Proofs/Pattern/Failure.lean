import DatePattern.Proofs.Calendar.PivotWeek
import DatePattern.Proofs.Diagnostic.Wording
import DatePattern.Proofs.Localizer.EnglishAnswers
import DatePattern.Proofs.Moment.Instant
import DatePattern.Proofs.Pattern.Outcome
import DatePattern.Proofs.Pattern.Scanning

/-! How a valid moment in a pattern fails, with fixed English names: by the pattern's own fault, or by
a number that is too long to be written. -/
namespace DatePattern

/-- The result is that of a number too long to be written under the condition, and else a success. -/
def SucceedsUnless {α : Type} (e : Except Fault α) (p : Prop) : Prop :=
  p ∧ e = .error (.argument .numeralTooLong) ∨ ¬ p ∧ ∃ a, e = .ok a

namespace SucceedsUnless

variable {α β : Type} {e : Except Fault α} {p q : Prop}

theorem of_ok {a : α} (h : e = .ok a) (hp : ¬ p) : SucceedsUnless e p := .inr ⟨hp, a, h⟩

theorem congr (h : SucceedsUnless e p) (hpq : p ↔ q) : SucceedsUnless e q := by
  rwa [SucceedsUnless, ← hpq]

theorem bind {f : α → Except Fault β} (he : SucceedsUnless e p)
    (hf : ∀ a, SucceedsUnless (f a) q) : SucceedsUnless (e >>= f) (p ∨ q) := by
  rcases he with ⟨hp, rfl⟩ | ⟨hp, a, rfl⟩
  · exact .inl ⟨.inl hp, rfl⟩
  · exact (hf a).congr (or_iff_right hp).symm

/-- What always succeeds adds no condition. -/
theorem bind_ok {f : α → Except Fault β} (he : SucceedsUnless e p) (hf : ∀ a, ∃ b, f a = .ok b) :
    SucceedsUnless (e >>= f) p := by
  rcases he with ⟨hp, rfl⟩ | ⟨hp, a, rfl⟩
  · exact .inl ⟨hp, rfl⟩
  · exact .inr ⟨hp, hf a⟩

theorem mapM {f : α → Except Fault β} {p : α → Prop} (h : ∀ a, SucceedsUnless (f a) (p a))
    (as : List α) : SucceedsUnless (as.mapM f) (∃ a ∈ as, p a) := by
  induction as with
  | nil => exact of_ok rfl (by simp)
  | cons a as ih =>
    rw [List.mapM_cons]
    exact ((h a).bind fun b => ih.bind_ok fun bs => ⟨b :: bs, rfl⟩).congr (by simp)

end SucceedsUnless

/-- The year of a run of letters: two of them show its last two digits. -/
def shownYear (year length : Int) : Int :=
  if length = 2 then yearOfEra year % 100 else yearOfEra year

/-- The number that a field writes, where nothing but the moment or the run bounds it: a year, a
fraction of a second, or the hours of an offset. -/
def Field.magnitude (f : Field) (length : Int) (m : Moment) (rule : WeekRule) : Nat :=
  match f with
  | year => (shownYear m.wall.year length).natAbs
  | weekYear => (shownYear (m.date.weekYear rule) length).natAbs
  | signedYear => m.wall.year.natAbs
  | fraction => (fractionDigits m.wall.millisecond length).natAbs
  | offset _ => m.offset.natAbs / 60
  | _ => 0

def Step.magnitude (m : Moment) (rule : WeekRule) : Step → Nat
  | .literal _ => 0
  | .field f r _ => f.magnitude r.length m rule

/-- An instant that a double can hold has few digits. -/
theorem not_isTooLong_of_holdsInt {ms : Int} (h : Binary64.holdsInt ms = true) :
    ¬ IsTooLong ms.natAbs := by
  have hbound : Binary64.overflowBound < tenTo 400 := by decide +kernel
  rw [Binary64.holdsInt, decide_eq_true_eq] at h
  exact not_isTooLong_of_lt (k := 400) (by decide) (h.trans hbound)

namespace Request

variable {c : Call} {n : Int} (length : Int) (o : Options) (unit : Option CountedUnit)

theorem reply_english (c : Call) :
    Localizer.english.reply c = (English.answer c).mapError Fault.argument := rfl

theorem answer_call {signOf : Option Argument} {text shown : String}
    (h : English.answer c = .ok text) (hsign : signedText signOf text = .ok shown) :
    (call signOf c).answer .english = .ok shown := by
  rw [answer, reply_english, h]
  change (signedText signOf text).mapError Fault.argument = _
  rw [hsign]
  rfl

theorem answer_call_error {signOf : Option Argument} {f : ArgumentFault}
    (h : English.answer c = .error f) : (call signOf c).answer .english = .error (.argument f) := by
  rw [answer, reply_english, h]
  rfl

theorem succeeds_name (h : ∃ name, English.answer c = .ok name) :
    SucceedsUnless ((plain c).answer .english) (IsTooLong 0) := by
  obtain ⟨name, hname⟩ := h
  exact .of_ok (answer_call hname rfl) not_isTooLong_zero

theorem succeeds_signed {signOf : Option Argument}
    (hsign : ∀ text, ∃ shown, signedText signOf text = .ok shown) (n : Int) :
    SucceedsUnless
      ((call signOf (.number (.int n.natAbs) length o.ordinal unit)).answer .english)
      (IsTooLong n.natAbs) := by
  by_cases h : IsTooLong n.natAbs
  · have herror := English.number_of_isTooLong (n := n.natAbs) h length o.ordinal unit
    exact .inl ⟨h, answer_call_error herror⟩
  · obtain ⟨text, htext⟩ := English.exists_number (n := n.natAbs) h length o.ordinal unit
    obtain ⟨shown, hshown⟩ := hsign text
    exact .of_ok (answer_call htext hshown) h

theorem succeeds_number (n : Int) :
    SucceedsUnless ((number n length o unit).answer .english) (IsTooLong n.natAbs) :=
  succeeds_signed length o unit (fun text => ⟨text, rfl⟩) n

theorem succeeds_signedNumber (n : Int) :
    SucceedsUnless ((signedNumber n length o unit).answer .english) (IsTooLong n.natAbs) :=
  succeeds_signed length o unit (fun text => ⟨_, signedText_int n text⟩) n

/-- A number that is never too long. -/
theorem succeeds_bounded (h : ¬ IsTooLong n.natAbs) :
    SucceedsUnless ((number n length o unit).answer .english) (IsTooLong 0) :=
  (succeeds_number length o unit n).congr (iff_of_false h not_isTooLong_zero)

theorem succeeds_small (h : 0 ≤ n ∧ n ≤ 999) :
    SucceedsUnless ((number n length o unit).answer .english) (IsTooLong 0) :=
  succeeds_bounded length o unit (not_isTooLong_of_le_999 (by omega))

theorem succeeds_year (y : Int) :
    SucceedsUnless ((year (yearOfEra y) length o).answer .english)
      (IsTooLong (shownYear y length).natAbs) := by
  rw [year, shownYear]
  split
  · exact succeeds_number 2 o _ _
  · exact succeeds_number length o _ _

end Request

section

variable (minutes : Int)

theorem natAbs_hours : ((minutes.natAbs : Int) / 60).natAbs = minutes.natAbs / 60 := by omega

theorem succeeds_hoursAndMinutes (between : String) :
    SucceedsUnless (hoursAndMinutes minutes between) (IsTooLong (minutes.natAbs / 60)) := by
  obtain ⟨rest, hrest⟩ := exists_paddedNumeral? (n := (minutes.natAbs : Int) % 60)
    (not_isTooLong_of_le_999 (by omega)) 2
  rw [← natAbs_hours]
  by_cases h : IsTooLong ((minutes.natAbs : Int) / 60).natAbs
  · refine .inl ⟨h, ?_⟩
    rw [hoursAndMinutes, paddedNumeral?_of_isTooLong h]
  · obtain ⟨hours, hhours⟩ := exists_paddedNumeral? h 2
    refine .of_ok (a := offsetSign minutes ++ hours ++ between ++ rest) ?_ h
    rw [hoursAndMinutes, hhours, hrest]

theorem succeeds_offsetRequest (zulu : Bool) (length : Int) :
    SucceedsUnless (offsetRequest zulu length minutes) (IsTooLong (minutes.natAbs / 60)) := by
  unfold offsetRequest
  split
  case isTrue hzero =>
    rw [hzero.2]
    exact .of_ok rfl not_isTooLong_zero
  case isFalse =>
    split
    case isTrue =>
      split
      case isTrue =>
        rw [← natAbs_hours]
        by_cases h : IsTooLong ((minutes.natAbs : Int) / 60).natAbs
        · refine .inl ⟨h, ?_⟩
          rw [paddedNumeral?_of_isTooLong h]
        · obtain ⟨hours, hhours⟩ := exists_paddedNumeral? h 2
          refine .of_ok (a := offsetSign minutes ++ hours) ?_ h
          rw [hhours]
      case isFalse => exact succeeds_hoursAndMinutes minutes ""
    case isFalse =>
      split
      case isTrue => exact succeeds_hoursAndMinutes minutes ""
      case isFalse => exact succeeds_hoursAndMinutes minutes ":"

end

namespace Moment

variable {m : Moment} {ms : Int}

theorem wall_inRange (hms : m.instant = some ms) : m.wall.InRange :=
  m.inRange (by rw [hms]; rfl)

theorem date_isValid (hms : m.instant = some ms) : m.date.IsValid :=
  WallClock.date_isValid (wall_inRange hms)

theorem ofValid_eq_ok (hms : m.instant = some ms) (operation : String) (n : Int) :
    m.ofValid operation n = .ok n :=
  if_pos (by rw [isValid, hms]; rfl)

theorem weekday_mem (m : Moment) : 0 ≤ m.weekday ∧ m.weekday ≤ 6 := by
  rw [weekday, DatePattern.weekday]
  omega

theorem epochMs_eq_ok (hms : m.instant = some ms) : m.epochMs = .ok ms := by
  rw [epochMs, hms]

end Moment

section

variable {m : Moment} {ms : Int} {o : Options}

/-- What a field asks for of a valid moment is answered, unless its magnitude is too long. -/
theorem Field.succeeds_english (hms : m.instant = some ms) (hholds : Binary64.holdsInt ms = true)
    (f : Field) (length : Int) (o : Options) :
    SucceedsUnless (do
      let request ← f.request length m o
      request.answer .english) (IsTooLong (f.magnitude length m o.weekRule)) := by
  obtain ⟨⟨hmonth, hmonth'⟩, ⟨hday, hday'⟩, hhour, hminute, hsecond, -⟩ := m.wall_inRange hms
  have hmonthLength := monthLength_le m.wall.year (m.wall.month + 1)
  have hdate := m.date_isValid hms
  have hstamp := not_isTooLong_of_holdsInt hholds
  cases f with
  | era =>
    refine Request.succeeds_name (English.exists_era (English.hasNames_eras length) ?_)
    split
    · exact .inl rfl
    · exact .inr rfl
  | year => exact Request.succeeds_year length o m.wall.year
  | weekYear =>
    have hyear := Moment.ofValid_eq_ok hms "iso_week_year" (m.date.weekYear o.weekRule)
    rw [request, Moment.weekYear, hyear]
    exact Request.succeeds_year length o _
  | signedYear => exact Request.succeeds_signedNumber length o _ m.wall.year
  | quarter context =>
    rw [request]
    split
    · exact Request.succeeds_small length o _ (by omega)
    · exact Request.succeeds_name
        (English.exists_quarter (English.hasNames_quarters length) (by omega) context)
  | month context =>
    rw [request]
    split
    · exact Request.succeeds_small length o _ (by omega)
    · exact Request.succeeds_name
        (English.exists_month (English.hasNames_months length) (by omega) context)
  | week =>
    have hweek := CivilDate.week_mem o.weekRule_isValid hdate
    have hvalue := Moment.ofValid_eq_ok hms "iso_week" (m.date.week o.weekRule)
    rw [request, Moment.week, hvalue]
    exact Request.succeeds_small length o _ (by omega)
  | dayOfMonth => exact Request.succeeds_small length o _ (by omega)
  | dayOfYear =>
    have hdayOfYear := CivilDate.dayOfYear_mem hdate
    have hvalue := Moment.ofValid_eq_ok hms "day_of_year" m.date.dayOfYear
    rw [request, Moment.dayOfYear, hvalue]
    exact Request.succeeds_small length o _ (by omega)
  | weekday context =>
    exact Request.succeeds_name
      (English.exists_weekday (English.hasNames_weekdays length) m.weekday_mem context)
  | halfDay => exact Request.succeeds_name (English.exists_timeOfDay m.wall.hour .narrow)
  | hourTo12 => exact Request.succeeds_small length o _ (by split <;> omega)
  | hourTo23 => exact Request.succeeds_small length o _ (by omega)
  | hourTo11 => exact Request.succeeds_small length o _ (by omega)
  | hourTo24 => exact Request.succeeds_small length o _ (by split <;> omega)
  | minute => exact Request.succeeds_small length o _ (by omega)
  | second => exact Request.succeeds_small length o _ (by omega)
  | fraction => exact Request.succeeds_number length o _ _
  | offset zulu =>
    rw [request, bind_assoc]
    exact (succeeds_offsetRequest m.offset zulu length).bind_ok fun text => ⟨text, rfl⟩
  | secondStamp =>
    rw [request, Moment.epochMs_eq_ok hms]
    exact Request.succeeds_bounded length o _ (not_isTooLong_of_le hstamp (by omega))
  | millisecondStamp =>
    rw [request, Moment.epochMs_eq_ok hms]
    exact Request.succeeds_bounded length o _ hstamp

theorem Step.succeeds_english (hms : m.instant = some ms) (hholds : Binary64.holdsInt ms = true)
    (o : Options) (step : Step) :
    SucceedsUnless (step.answer m.reading .english o) (IsTooLong (step.magnitude m o.weekRule)) := by
  cases step with
  | literal cs => exact .of_ok rfl not_isTooLong_zero
  | field f r ordinal =>
    cases ordinal with
    | false => exact f.succeeds_english hms hholds r.length o
    | true => exact f.succeeds_english hms hholds r.length o.withOrdinal

namespace Plan

variable (p : Plan)

/-- A number that is too long ends the course of a plan before its own fault does. -/
theorem answer_of_isTooLong (hms : m.instant = some ms) (hholds : Binary64.holdsInt ms = true)
    (h : ∃ step ∈ p.steps, IsTooLong (step.magnitude m o.weekRule)) :
    p.answer m.reading .english o = .error (.argument .numeralTooLong) := by
  have hsteps := SucceedsUnless.mapM (Step.succeeds_english hms hholds o) p.steps
  obtain ⟨-, herror⟩ | ⟨hno, -⟩ := hsteps
  · rw [answer, herror]
    rfl
  · exact absurd h hno

theorem answer_of_not_isTooLong (hms : m.instant = some ms) (hholds : Binary64.holdsInt ms = true)
    (h : ∀ step ∈ p.steps, ¬ IsTooLong (step.magnitude m o.weekRule)) :
    ∃ text, p.answer m.reading .english o =
      match p.fault? with
      | some f => .error f.fault
      | none => .ok text := by
  have hsteps := SucceedsUnless.mapM (Step.succeeds_english hms hholds o) p.steps
  obtain ⟨⟨step, hstep, hlong⟩, -⟩ | ⟨-, texts, hok⟩ := hsteps
  · exact absurd hlong (h step hstep)
  · refine ⟨String.join texts, ?_⟩
    rw [answer, hok]
    rfl

end Plan

/-- The moments that are made from fields or from an instant, and are valid, have an instant that a
double can hold. -/
theorem Moment.exists_holdsInt
    (hmade : (∃ w offset, ofWallClock w offset = .ok m) ∨ ∃ x offset, ofEpoch x offset = .ok m)
    (hvalid : m.isValid = true) : ∃ ms, m.instant = some ms ∧ Binary64.holdsInt ms = true := by
  rcases hmade with ⟨w, offset, hm⟩ | ⟨x, offset, hm⟩
  · obtain ⟨hholds, -, -, hinstant, -⟩ := ofWallClock_eq_ok_iff.mp hm
    exact ⟨_, hinstant, hholds⟩
  · have hnot : m ≠ invalid := by
      rintro rfl
      cases hvalid
    rw [ofEpoch] at hm
    split at hm
    case h_1 ms hms =>
      rw [ofEpochMs] at hm
      split at hm
      case isTrue => exact absurd (Except.ok.inj hm).symm hnot
      case isFalse =>
        obtain ⟨hholds, -, -, hinstant, -⟩ := make_eq_ok_iff.mp hm
        exact ⟨_, hinstant, hholds⟩
    case h_2 => exact absurd (Except.ok.inj hm).symm hnot
    case h_3 => cases hm

theorem gives_format_english {registry : LocaleRegistry} (hvalid : m.isValid = true)
    (pattern : String) (o : Options) :
    (format (some (.atom (.moment m))) (some (.text pattern)) (.atom (.options o))
      (some .english) registry).Gives ((Plan.ofPattern pattern).answer m.reading .english o) :=
  gives_format (d := .moment m) rfl rfl (congrArg Except.ok hvalid)
    (Localizer.isStateless_ofFunction _) pattern

/-- What a valid moment in a pattern comes to with fixed English names, in any session. A number that
is too long to be written makes the call fail. Where there is none the pattern's own fault is reported
by its letter and position, and without one there is a text. So the call fails in no other way. -/
theorem format_english
    (hmade : (∃ w offset, Moment.ofWallClock w offset = .ok m) ∨
      ∃ x offset, Moment.ofEpoch x offset = .ok m)
    (hvalid : m.isValid = true) (pattern : String) (o : Options) (registry : LocaleRegistry)
    (s : Session) :
    let plan := Plan.ofPattern pattern
    let outcome := ((format (some (.atom (.moment m))) (some (.text pattern)) (.atom (.options o))
      (some .english) registry).run.run s).1
    ((∃ step ∈ plan.steps, IsTooLong (step.magnitude m o.weekRule)) →
      outcome = .error (.argument .numeralTooLong)) ∧
    ((∀ step ∈ plan.steps, ¬ IsTooLong (step.magnitude m o.weekRule)) →
      (plan.fault? = none → ∃ text, outcome = .ok text) ∧
      ∀ f, plan.fault? = some f →
        (IsTooLong f.run.position → outcome = .error (.argument .numeralTooLong)) ∧
        (¬ IsTooLong f.run.position → ∃ text, outcome = .error (.complaint
          ⟨.directive (.text f.run.letter.toString) (.int f.run.position), text,
            some f.diagnostic⟩))) := by
  intro plan outcome
  obtain ⟨ms, hms, hholds⟩ := Moment.exists_holdsInt hmade hvalid
  have houtcome : outcome = plan.answer m.reading .english o :=
    gives_format_english hvalid pattern o s
  rw [houtcome]
  refine ⟨plan.answer_of_isTooLong hms hholds, fun hshort => ?_⟩
  obtain ⟨text, hanswer⟩ := plan.answer_of_not_isTooLong hms hholds hshort
  rw [hanswer]
  refine ⟨fun hnone => ⟨text, by rw [hnone]⟩, fun f hf => ?_⟩
  rw [hf]
  constructor
  · intro hlong
    exact congrArg Except.error (PatternFault.fault_of_isTooLong hlong)
  · intro hposition
    obtain ⟨complaint, hfault⟩ := PatternFault.exists_fault_eq hposition
    exact ⟨complaint, congrArg Except.error hfault⟩

end

/-- A day in the year -43 with a letter behind its year that has no field. The letter is reported. -/
theorem format_english_ides :
    let m : Moment := ⟨⟨-43, 2, 15, 12, 0, 0, 0⟩, some (-63517780800000), 0, fun _ => by decide⟩
    ((∃ w offset, Moment.ofWallClock w offset = .ok m) ∨
      ∃ x offset, Moment.ofEpoch x offset = .ok m) ∧
    m.isValid = true ∧
    ∃ text, ((format (some (.atom (.moment m))) (some (.text "y j")) (.atom (.options .unset))
      (some .english)).run.run .start).1 = .error (.complaint
        ⟨.directive (.text "j") (.int 2), text,
          some (PatternFault.reserved ⟨'j', 1, 2⟩).diagnostic⟩) := by
  intro m
  have hmade : Moment.ofWallClock ⟨-43, 2, 15, 12, 0, 0, 0⟩ 0 = .ok m :=
    Moment.ofWallClock_eq_ok_iff.mpr ⟨by decide +kernel, by decide, rfl, by decide, rfl⟩
  have hplan : Plan.ofPattern "y j" =
      ⟨[.field .year ⟨'y', 1, 0⟩ false, .literal [' ']], some (.reserved ⟨'j', 1, 2⟩)⟩ := by
    have hchars : "y j".toList = ['y', ' ', 'j'] := rfl
    rw [Plan.ofPattern, Token.scan, hchars]
    decide +kernel
  have hvalid : m.isValid = true := rfl
  have houtcome := (format_english (.inl ⟨_, _, hmade⟩) hvalid "y j" .unset .known .start).2
  rw [hplan] at houtcome
  have hshort : ∀ step ∈ [Step.field .year ⟨'y', 1, 0⟩ false, .literal [' ']],
      ¬ IsTooLong (step.magnitude m Options.unset.weekRule) := by
    rw [List.forall_mem_cons, List.forall_mem_singleton]
    exact ⟨not_isTooLong_of_le_999 (by decide), not_isTooLong_zero⟩
  refine ⟨.inl ⟨_, _, hmade⟩, hvalid, ?_⟩
  exact ((houtcome hshort).2 _ rfl).2 (not_isTooLong_of_le_999 (by decide))

/-- A fraction of a second in more digits than may be written gives neither a text nor a complaint. -/
theorem format_longFraction_fails :
    let m : Moment := ⟨⟨2024, 0, 1, 0, 0, 0, 123⟩, some 1704067200123, 0, fun _ => by decide⟩
    let outcome := ((format (some (.atom (.moment m)))
      (some (.text (String.ofList (List.replicate 4301 'S')))) (.atom (.options .unset))
      (some .english)).run.run .start).1
    Moment.ofWallClock ⟨2024, 0, 1, 0, 0, 0, 123⟩ 0 = .ok m ∧
    ¬ ((∃ text, outcome = .ok text) ∨ ∃ c, outcome = .error (.complaint c)) := by
  intro m outcome
  have hmade : Moment.ofWallClock ⟨2024, 0, 1, 0, 0, 0, 123⟩ 0 = .ok m :=
    Moment.ofWallClock_eq_ok_iff.mpr ⟨by decide +kernel, by decide, rfl, by decide, rfl⟩
  have hplan : Plan.ofPattern (String.ofList (List.replicate 4301 'S')) =
      ⟨[.field .fraction ⟨'S', 4301, 0⟩ false], none⟩ := by
    rw [Plan.ofPattern, Token.scan_letters rfl 4300]
    rfl
  have hlong : IsTooLong (fractionDigits 123 4301).natAbs := by
    rw [isTooLong_iff]
    decide +kernel
  have houtcome : outcome = .error (.argument .numeralTooLong) := by
    refine (gives_format_english (m := m) rfl _ .unset .start).trans ?_
    rw [hplan]
    exact Plan.answer_of_isTooLong _ (show m.instant = some 1704067200123 from rfl) (by decide +kernel)
      ⟨_, List.mem_singleton_self _, hlong⟩
  rw [houtcome]
  refine ⟨hmade, ?_⟩
  rintro (⟨text, h⟩ | ⟨c, h⟩)
  · cases h
  · cases h

end DatePattern
