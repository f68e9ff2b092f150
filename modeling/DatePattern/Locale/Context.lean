import DatePattern.Argument.Item
import DatePattern.Locale.Ordinal

/-! Locale contexts: the names and numerals of a locale, under the code it was asked for by. -/
namespace DatePattern

/-- A locale that was found for a code, or the one of last resort in its place. -/
structure LocaleContext where
  code : String
  locale : Locale
  isFallback : Bool
deriving DecidableEq, Repr

namespace LocaleContext

/-- A number in decimal, with the locale's suffix where an ordinal is asked for. A locale without a
suffix for it shows the bare number, and remarks on that. -/
def number (ctx : LocaleContext) (registry : LocaleRegistry) (value : Argument)
    (leadingZeros : Int) (ordinal : Bool) : Except ArgumentFault (String × List String) := do
  let digits ← value.paddedText leadingZeros
  if ordinal then
    let (suffix, remarks) ← ordinalSuffix value ctx.locale.code registry
    return (digits ++ suffix.getD "", remarks)
  else return (digits, [])

/-- The name of the half of the day that an hour is in, unless the locale has no such names. -/
def periodName (periods : Option (String × String)) (hour : Argument) :
    Except ArgumentFault String := do
  let isForenoon ← hour.compares .below 12
  match periods with
  | some (forenoon, afternoon) => return if isForenoon then forenoon else afternoon
  | none => throw (.missingKey (quoteText (if isForenoon then "am" else "pm")))

/-- The name of a weekday, in a list from Sunday on. Weekdays are looked up by their place behind
Monday. -/
def weekdayName (names : List String) (weekday : Argument) : Except ArgumentFault String := do
  (← (← weekday.add 6).mod 7).valueOf (names.rotateLeft 1) 0

/-- The answers of a context, with the names of its locale in a registry. -/
def answer (ctx : LocaleContext) (registry : LocaleRegistry) : Call → Answer
  | .era era width =>
    .plain do (← Call.eraPlace era).valueOf ((registry.names ctx.locale).eras.get width) 0
  | .quarter quarter width context =>
    .plain (quarter.valueOf (((registry.names ctx.locale).quarters.get context).get width) 1)
  | .month month width context =>
    .plain do (← month.add 1).valueOf (((registry.names ctx.locale).months.get context).get width) 1
  | .weekday weekday width context =>
    .plain (weekdayName (((registry.names ctx.locale).weekdays.get context).get width) weekday)
  | .timeOfDay hour width => .plain (periodName ((registry.names ctx.locale).periods.get width) hour)
  | .number value leadingZeros ordinal _ =>
    match ctx.number registry value leadingZeros ordinal with
    | .ok (text, remarks) => ⟨remarks, .ok text⟩
    | .error f => .plain (.error f)

def localizer (ctx : LocaleContext) (registry : LocaleRegistry := .known) : Localizer :=
  .ofFunction (ctx.answer registry)

def weekOptions (ctx : LocaleContext) : Options :=
  { Options.unset with
    weekStartsOn := some ctx.locale.weekRule.startsOn
    firstWeekContains := some ctx.locale.weekRule.januaryDay
    weekStartsOn_inRange := by simpa using ctx.locale.weekRule_isValid.1
    firstWeekContains_inRange := by simpa using ctx.locale.weekRule_isValid.2 }

def ofCode (code : String) (registry : LocaleRegistry := .known) : Except Fault LocaleContext :=
  match registry.find (normalizeCode code) with
  | .ok locale => .ok ⟨code, locale, false⟩
  | .error f => .error (.locale code f)

/-- The context of a code, with the locale of last resort for a code that names none. -/
def lenient (code : String) (registry : LocaleRegistry := .known) : LocaleContext :=
  match registry.find (normalizeCode code) with
  | .ok locale => ⟨code, locale, false⟩
  | .error _ => ⟨code, registry.lastResort, true⟩

def warning? (code : String) (registry : LocaleRegistry := .known) : Option String :=
  match registry.find (normalizeCode code) with
  | .ok _ => none
  | .error f =>
    some (Diagnostic.localeUnknownText code Locale.fallback.code ++ " (" ++ f.message ++ ")")

end LocaleContext

end DatePattern
