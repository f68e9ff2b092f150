import DatePattern.Proofs.Locale.Transparency
import DatePattern.Proofs.Pattern.Questions

/-! The American locale and the fixed English names, which are interchangeable in every pattern that
does not ask for a half of the day. -/
namespace DatePattern

theorem Argument.valueOf_int {α : Type} {items : List α} {n first : Int} (h : first ≤ n)
    (hn : (n - first).toNat < items.length) :
    (int n).valueOf items first = .ok items[(n - first).toNat] := by
  have hkey : (int n).checkKey = .ok () := rfl
  rw [valueOf, hkey, ok_bind, valueAt?_int, if_neg (by omega), List.getElem?_eq_getElem hn]
  rfl

/-- What is assumed of the data about American English: its names of eras, quarters, months and
weekdays, and the rule for its ordinal numbers, which goes by the last two digits. Its locale is the
one of last resort. -/
structure LocaleRegistry.HasAmerican (registry : LocaleRegistry) : Prop where
  code : registry.lastResort.code = "en_US"
  eras : (registry.names registry.lastResort).eras =
    ⟨["B", "A"], ["BC", "AD"], ["Before Christ", "Anno Domini"]⟩
  quarters : ∀ context, (registry.names registry.lastResort).quarters.get context =
    ⟨["1", "2", "3", "4"], ["Q1", "Q2", "Q3", "Q4"],
      ["1st quarter", "2nd quarter", "3rd quarter", "4th quarter"]⟩
  months : ∀ context, (registry.names registry.lastResort).months.get context =
    ⟨["J", "F", "M", "A", "M", "J", "J", "A", "S", "O", "N", "D"],
      ["Jan", "Feb", "Mar", "Apr", "May", "Jun", "Jul", "Aug", "Sep", "Oct", "Nov", "Dec"],
      ["January", "February", "March", "April", "May", "June", "July", "August", "September",
        "October", "November", "December"]⟩
  weekdays : ∀ context, (registry.names registry.lastResort).weekdays.get context =
    ⟨["S", "M", "T", "W", "T", "F", "S"], ["Su", "Mo", "Tu", "We", "Th", "Fr", "Sa"],
      ["Sun", "Mon", "Tue", "Wed", "Thu", "Fri", "Sat"],
      ["Sunday", "Monday", "Tuesday", "Wednesday", "Thursday", "Friday", "Saturday"]⟩
  ordinalCategory : ∀ n : Nat, registry.ordinalCategory registry.lastResort (.integer n) = .ok
    (if n % 10 = 1 ∧ n % 100 ≠ 11 then .one
    else if n % 10 = 2 ∧ n % 100 ≠ 12 then .two
    else if n % 10 = 3 ∧ n % 100 ≠ 13 then .few
    else .other)

section

variable {registry : LocaleRegistry} (hamerican : registry.HasAmerican) {width : Width}
  {names : List String}
include hamerican

theorem eras_american (h : English.eras width = some names) :
    (registry.names registry.lastResort).eras.get width = names := by
  rw [hamerican.eras]
  cases width <;> cases h <;> rfl

theorem quarters_american (h : English.quarters width = some names) (context : NameContext) :
    ((registry.names registry.lastResort).quarters.get context).get width = names := by
  rw [hamerican.quarters]
  cases width <;> cases h <;> rfl

theorem months_american (h : English.months width = some names) (context : NameContext) :
    ((registry.names registry.lastResort).months.get context).get width = names := by
  rw [hamerican.months]
  cases width <;> cases h <;> rfl

theorem weekdays_american (h : English.weekdays width = some names) (context : NameContext) :
    ((registry.names registry.lastResort).weekdays.get context).get width = names := by
  rw [hamerican.weekdays]
  cases width <;> cases h <;> rfl

end

section

variable {width : Width} {names : List String}

/-- A name at a place is the one that is counted from another first number. -/
theorem nameOf_eq_valueOf {table : Width → Option (List String)} (hnames : table width = some names)
    (hshort : names.length ≤ 12) {i : Int} (hi : 0 ≤ i ∧ i < names.length) (first : Int) :
    English.nameOf table width (.ok (.int i)) = (Argument.int (i + first)).valueOf names first := by
  have hplace : i + first - first = i := Int.add_sub_cancel i first
  rw [English.nameOf_int hnames hshort hi.1 (by omega),
    Argument.valueOf_int (by omega) (by rw [hplace]; omega)]
  simp only [hplace]

/-- The weekday behind Monday at the place of one behind Sunday. -/
theorem weekdayName_eq_nameOf {table : Width → Option (List String)}
    (hnames : table width = some names) (hlength : names.length = 7) {i : Int}
    (hi : 0 ≤ i ∧ i ≤ 6) :
    LocaleContext.weekdayName names (.int i) = English.nameOf table width (.ok (.int i)) := by
  have hadd : (Argument.int i).add 6 = .ok (.int (i + 6)) := Argument.add_int i 6
  have hmod : (Argument.int (i + 6)).mod 7 = .ok (.int ((i + 6) % 7)) := Argument.mod_int (i + 6) 7
  match names, hlength with
  | [sunday, monday, tuesday, wednesday, thursday, friday, saturday], _ =>
    have hrotated : [sunday, monday, tuesday, wednesday, thursday, friday, saturday].rotateLeft 1 =
        [monday, tuesday, wednesday, thursday, friday, saturday, sunday] := rfl
    rw [LocaleContext.weekdayName, hadd, Argument.ok_bind, hmod, Argument.ok_bind, hrotated,
      Argument.valueOf_int (by omega) (by simp; omega),
      English.nameOf_int hnames (by simp) hi.1 (by simp; omega)]
    obtain rfl | rfl | rfl | rfl | rfl | rfl | rfl :
      i = 0 ∨ i = 1 ∨ i = 2 ∨ i = 3 ∨ i = 4 ∨ i = 5 ∨ i = 6 := by omega
    all_goals rfl

end

namespace PluralRules

variable (n : Option Nat)

theorem categoryOf_cons (category : PluralCategory) (lists : List (List PluralCondition))
    (rules : PluralRules) :
    categoryOf ((category, lists) :: rules) n =
      if lists.any fun all => all.all fun c => c.holds n then category else rules.categoryOf n := by
  rw [categoryOf, List.find?_cons]
  cases lists.any fun all => all.all fun c => c.holds n <;> rfl

end PluralRules

/-- The remainder by ten decides on the category, but for the three numbers behind ten. -/
theorem ordinalCategory_fallback (n : Nat) :
    Locale.fallback.ordinalCategory (.integer n) = .ok
      (if n % 10 = 1 ∧ n % 100 ≠ 11 then .one
      else if n % 10 = 2 ∧ n % 100 ≠ 12 then .two
      else if n % 10 = 3 ∧ n % 100 ≠ 13 then .few
      else .other) := by
  have hrules : ordinalRules.lookup Locale.fallback.language = some
      [(.few, [[.inside 10 [(3, 3)], .outside 100 [(13, 13)]]]),
        (.one, [[.inside 10 [(1, 1)], .outside 100 [(11, 11)]]]),
        (.two, [[.inside 10 [(2, 2)], .outside 100 [(12, 12)]]])] := rfl
  have hlies (modulus k : Nat) : liesIn (some n) modulus [(k, k)] = decide (n % modulus = k) := by
    simp [liesIn, Nat.le_antisymm_iff, and_comm]
  rw [Locale.ordinalCategory, hrules]
  simp only [Option.getD_some, pluralOperand_integer, Int.natAbs_natCast]
  refine congrArg Except.ok ?_
  simp only [PluralRules.categoryOf_cons, PluralCondition.holds, hlies, List.any_cons, List.any_nil,
    List.all_cons, List.all_nil, Bool.and_true, Bool.or_false, Bool.and_eq_true, Bool.not_eq_true',
    decide_eq_true_eq, decide_eq_false_iff_not]
  split_ifs <;> first | rfl | omega

/-- The known locales are as is assumed. -/
theorem LocaleRegistry.hasAmerican_known : known.HasAmerican where
  code := rfl
  eras := rfl
  quarters := by rintro (_ | _) <;> rfl
  months := by rintro (_ | _) <;> rfl
  weekdays := by rintro (_ | _) <;> rfl
  ordinalCategory := ordinalCategory_fallback

theorem English.suffix_natCast (n : Nat) :
    suffix n =
      if n % 10 = 1 ∧ n % 100 ≠ 11 then "st"
      else if n % 10 = 2 ∧ n % 100 ≠ 12 then "nd"
      else if n % 10 = 3 ∧ n % 100 ≠ 13 then "rd"
      else "th" := by
  rw [suffix]
  split_ifs <;> first | rfl | omega

section

variable {registry : LocaleRegistry} (hamerican : registry.HasAmerican)
include hamerican

theorem ordinalSuffix_american (n : Nat) :
    ordinalSuffix (.int n) registry.lastResort.code registry =
      .ok (some (English.suffix n), []) := by
  have huniform : uniformSuffixes.lookup (languageOf "en_US") = none := rfl
  have hsuffixes : categorySuffixes.lookup (languageOf "en_US") =
      some [(.one, "st"), (.two, "nd"), (.few, "rd"), (.other, "th")] := rfl
  have hfind : registry.find (normalizeCode "en_US") = .ok registry.lastResort :=
    registry.find_lastResort
  have hmagnitude : (Argument.int n).magnitude = .ok (.int n) := by simp
  have hnumber : (Argument.int n).number? = some (.integer n) := rfl
  rw [hamerican.code, ordinalSuffix, huniform, hsuffixes, ordinalCategory, hfind]
  simp only [hmagnitude, Argument.ok_bind, hnumber, hamerican.ordinalCategory]
  rw [English.suffix_natCast]
  split_ifs <;> rfl

variable {ctx : LocaleContext} (hlocale : ctx.locale = registry.lastResort)
include hlocale

theorem LocaleContext.number_american (n : Nat) (leadingZeros : Int) (ordinal : Bool) :
    ctx.number registry (.int n) leadingZeros ordinal =
      (English.number (.int n) leadingZeros ordinal).map fun text => (text, []) := by
  rw [number, English.number, hlocale, ordinalSuffix_american hamerican, English.suffixOf_int]
  cases (Argument.int n).paddedText leadingZeros <;> cases ordinal <;> rfl

/-- The American locale answers what localizers expect as the fixed names do, but for a half of the
day, which has a name of its own there at each width. -/
theorem LocaleContext.reply_american {length : Int} {ordinal : Bool} {c : Call}
    (hc : c.IsExpected length ordinal) (hhour : ∀ hour width, c ≠ .timeOfDay hour width) :
    (ctx.localizer registry).reply c = Localizer.english.reply c := by
  cases c with
  | era x width =>
    obtain ⟨hx, names, hnames, hlength, hshort⟩ := hc
    change Except.mapError Fault.argument (do
      (← Call.eraPlace x).valueOf ((registry.names ctx.locale).eras.get width) 0) = _
    rw [hlocale, eras_american hamerican hnames]
    refine congrArg (Except.mapError Fault.argument) ?_
    rcases hx with rfl | rfl
    · exact (nameOf_eq_valueOf hnames (by omega) (i := 1) (by omega) 0).symm
    · exact (nameOf_eq_valueOf hnames (by omega) (i := 0) (by omega) 0).symm
  | quarter x width context =>
    obtain ⟨⟨n, rfl, hn⟩, names, hnames, hlength, hshort⟩ := hc
    change Except.mapError Fault.argument ((Argument.int n).valueOf
      (((registry.names ctx.locale).quarters.get context).get width) 1) = _
    rw [hlocale, quarters_american hamerican hnames]
    refine congrArg (Except.mapError Fault.argument) ?_
    have hname := nameOf_eq_valueOf hnames (by omega) (i := n - 1) (by omega) 1
    rw [Int.sub_add_cancel] at hname
    exact hname.symm
  | month x width context =>
    obtain ⟨⟨n, rfl, hn⟩, names, hnames, hlength, hshort⟩ := hc
    change Except.mapError Fault.argument ((Argument.int (n + 1)).valueOf
      (((registry.names ctx.locale).months.get context).get width) 1) = _
    rw [hlocale, months_american hamerican hnames]
    exact congrArg _ (nameOf_eq_valueOf hnames (by omega) (by omega) 1).symm
  | weekday x width context =>
    obtain ⟨⟨n, rfl, hn⟩, names, hnames, hlength, hshort⟩ := hc
    change Except.mapError Fault.argument (weekdayName
      (((registry.names ctx.locale).weekdays.get context).get width) (.int n)) = _
    rw [hlocale, weekdays_american hamerican hnames]
    exact congrArg _ (weekdayName_eq_nameOf hnames hlength hn)
  | timeOfDay x width => exact absurd rfl (hhour x width)
  | number x leadingZeros isOrdinal unit =>
    obtain ⟨⟨n, rfl⟩, -⟩ := hc
    change (LocaleContext.answer ctx registry _).result =
      (English.number (.int n) leadingZeros isOrdinal).mapError Fault.argument
    rw [answer, number_american hamerican hlocale]
    cases English.number (.int n) leadingZeros isOrdinal <;> rfl

end

example : (LocaleContext.lenient "en-US").localizer.reply (.timeOfDay (.int 9) .narrow) = .ok "a" ∧
    Localizer.english.reply (.timeOfDay (.int 9) .narrow) = .ok "AM" := by
  decide +kernel

theorem Field.ne_halfDay {letter : Char} {f : Field} (h : ofLetter? letter = some f)
    (ha : letter ≠ 'a') : f ≠ halfDay := by
  have table : ∀ entry ∈ letters, entry.2 = halfDay → entry.1 = 'a' := by simp [letters]
  exact fun hf => ha (table _ (mem_letters h) hf)

section

variable {m : Moment} {ms : Int} {o : Options} {l l' : Localizer}

/-- The localizers reply alike to what they expect, but for halves of the day. -/
def Localizer.RepliesAs (l l' : Localizer) : Prop :=
  ∀ length ordinal c, c.IsExpected length ordinal → (∀ hour width, c ≠ .timeOfDay hour width) →
    l.reply c = l'.reply c

theorem Step.answer_of_repliesAs (hms : m.instant = some ms) (hl : l.RepliesAs l') (o : Options)
    {step : Step} (hstep : ∀ r ordinal, step ≠ .field .halfDay r ordinal) :
    step.answer m.reading l o = step.answer m.reading l' o := by
  cases step with
  | literal cs => rfl
  | field f r ordinal =>
    by_cases hf : f.Asks
    · obtain ⟨signOf, c, hrequest, hexpected, hhour⟩ := f.puts_of_asks hms hf r.length
        (if ordinal then o.withOrdinal else o)
      have hreply : l.reply c = l'.reply c := by
        refine hl _ _ c hexpected fun hour width hc => ?_
        rw [hhour hour width hc] at hstep
        exact hstep r ordinal rfl
      rw [answer, answer, Moment.reading, hrequest]
      change Request.answer l (.call signOf c) = Request.answer l' (.call signOf c)
      rw [Request.answer, Request.answer, hreply]
    · obtain ⟨zulu, rfl⟩ := Field.exists_offset_of_not_asks hf
      rw [answer, answer, Moment.reading, Field.request]
      cases offsetRequest zulu r.length m.offset <;> rfl

theorem Plan.answer_of_repliesAs (hms : m.instant = some ms) (hl : l.RepliesAs l') (o : Options)
    {p : Plan} (hp : ∀ r ordinal, .field .halfDay r ordinal ∉ p.steps) :
    p.answer m.reading l o = p.answer m.reading l' o := by
  refine p.answer_congr fun step hstep => step.answer_of_repliesAs hms hl o ?_
  rintro r ordinal rfl
  exact hp r ordinal hstep

theorem LocaleContext.repliesAs_english {registry : LocaleRegistry} {ctx : LocaleContext}
    (hamerican : registry.HasAmerican) (hlocale : ctx.locale = registry.lastResort) :
    (ctx.localizer registry).RepliesAs .english :=
  fun _ _ _ hc hhour => ctx.reply_american hamerican hlocale hc hhour

/-- A valid date comes to the same in any pattern without a run of the letter for the half of the
day, whether the names are those of the American locale, made behind any creations, or the fixed
ones: to the same text, or the same fault. The data of the American locale are assumed. -/
theorem format_american {registry : LocaleRegistry} (hamerican : registry.HasAmerican) {d : Dated}
    (hd : d.Shows m) {pattern : String} (ha : ∀ r, .run r ∈ Token.scan pattern → r.letter ≠ 'a')
    (calls : List StoreCall) (o : Options) (s t : Session) :
    let made := ((LocaleStore.run calls registry).create "en-US" registry).1
    let outcome (l : Localizer) (s : Session) := ((format (some d.argument) (some (.text pattern))
      (.atom (.options o)) (some l) registry).run.run s).1
    outcome (made.context.localizer registry) s = outcome .english t := by
  intro made outcome
  obtain ⟨ms, hms⟩ := hd.exists_instant
  have hproper : ∀ t ∈ Token.scan pattern, t.IsProper :=
    Token.isProper_of_mem_scanAfter [] pattern.toList
  have hlocale : made.context.locale = registry.lastResort := by
    have hfind : registry.find (normalizeCode "en-US") = .ok registry.lastResort :=
      registry.find_lastResort
    refine (LocaleStore.context_create_run calls "en-US" registry).1.trans ?_
    rw [LocaleContext.lenient_of_found hfind]
  have hp : ∀ r ordinal, .field .halfDay r ordinal ∉ (Plan.ofPattern pattern).steps := by
    intro r ordinal hstep
    obtain ⟨hr, hletter⟩ := Token.run_mem_of_field_mem hproper hstep
    exact Field.ne_halfDay hletter (ha r hr) rfl
  have hgives (l : Localizer) (hl : l.IsStateless) (s : Session) :
      outcome l s = (Plan.ofPattern pattern).answer m.reading l o := by
    rw [← hd.reading_eq]
    exact gives_format rfl (Dated.ofArgument_argument d _) hd.isValid hl pattern s
  rw [hgives (made.context.localizer registry) (Localizer.isStateless_ofFunction _),
    hgives .english (Localizer.isStateless_ofFunction _)]
  exact Plan.answer_of_repliesAs hms (LocaleContext.repliesAs_english hamerican hlocale) o hp

/-- A weekday and an ordinal year before the era, with the American locale made before under another
spelling. The instant has half a millisecond. -/
theorem format_american_ides :
    let m : Moment := ⟨⟨-43, 2, 15, 12, 0, 0, 0⟩, some (-63517780800000), 0, fun _ => by decide⟩
    let record : MomentFields Argument :=
      { MomentFields.ofIntegers m.wall 0 0 with
        instant := .number (.binary (.finite true 127035561600001 (-1))) }
    let american := ((LocaleStore.run [.create "en_US"]).create "en-US").1.context.localizer
    let outcome (l : Localizer) (pattern : String) := ((format (some (.record record))
      (some (.text pattern)) (.atom (.options .unset)) (some l)).run.run .start).1
    LocaleRegistry.known.HasAmerican ∧ (Dated.record record).Shows m ∧
    (∀ r, .run r ∈ Token.scan "EEEE yo" → r.letter ≠ 'a') ∧
    outcome american "EEEE yo" = outcome .english "EEEE yo" ∧
    outcome .english "EEEE yo" = .ok "Friday 44th" := by
  intro m record american outcome
  have hd : (Dated.record record).Shows m :=
    ⟨rfl, rfl, rfl, rfl, rfl, rfl, rfl, rfl, rfl, _, rfl, rfl⟩
  have hscan : Token.scan "EEEE yo" =
      [.run ⟨'E', 4, 0⟩, .literal [' '], .run ⟨'y', 1, 5⟩, .run ⟨'o', 1, 6⟩] := by
    have hchars : "EEEE yo".toList = ['E', 'E', 'E', 'E', ' ', 'y', 'o'] := rfl
    rw [Token.scan, hchars]
    decide +kernel
  have ha : ∀ r, .run r ∈ Token.scan "EEEE yo" → r.letter ≠ 'a' := by
    rw [hscan]
    simp
  have htext : outcome .english "EEEE yo" = .ok "Friday 44th" := by
    have hplan : Plan.ofPattern "EEEE yo" = ⟨[.field (.weekday .formatting) ⟨'E', 4, 0⟩ false,
        .literal [' '], .field .year ⟨'y', 1, 5⟩ true], none⟩ := by
      rw [Plan.ofPattern, hscan]
      decide +kernel
    refine (gives_format (d := .record record) rfl rfl hd.isValid
      (Localizer.isStateless_ofFunction _) "EEEE yo" .start).trans ?_
    rw [hplan, hd.reading_eq]
    decide +kernel
  have hamerican := LocaleRegistry.hasAmerican_known
  exact ⟨hamerican, hd, ha, format_american hamerican hd ha [.create "en_US"] .unset .start .start,
    htext⟩

end

end DatePattern
