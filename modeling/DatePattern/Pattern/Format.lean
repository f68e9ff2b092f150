import DatePattern.Moment.Coercion
import DatePattern.Options.Draft
import DatePattern.Pattern.Plan
import DatePattern.Pattern.Session
import DatePattern.Record.Field

/-! Formatting: a date and a pattern become a text. -/
namespace DatePattern

/-- The warning about a field that is easily taken for another one: a week year of two or four
letters for a calendar year, a day of the year of one or two for a day of the month. -/
def confusion? (f : Field) (r : LetterRun) (o : Options) : Option String :=
  let warning (usual : Char) (option : OptionName) : Option String :=
    some (Diagnostic.protectedTokenText r.text
      (String.ofList (List.replicate r.length usual)) option.snake)
  match f with
  | .weekYear =>
    if (r.length = 2 ∨ r.length = 4) ∧ ¬ o.acknowledgesWeekYear then warning 'y' .weekYear
    else none
  | .dayOfYear =>
    if (r.length = 1 ∨ r.length = 2) ∧ ¬ o.acknowledgesDayOfYear then warning 'd' .dayOfYear
    else none
  | _ => none

/-- The sign of a value in front of a text: a minus below zero. -/
def signedText (signOf : Option Argument) (text : String) : Except ArgumentFault String :=
  match signOf with
  | some x => do if ← x.compares .below 0 then return "-" ++ text else return text
  | none => .ok text

/-- The text of a request. The sign of a value is looked at after the localizer's answer. -/
def Request.render (l : Localizer) : Request → Run String
  | .text s => return s
  | .call signOf c => do
    let s ← Run.ask l c
    Run.ofExcept ((signedText signOf s).mapError Fault.argument)

def Field.render (f : Field) (length : Int) (asks : Reading) (l : Localizer) (o : Options) :
    Run String := do
  let request ← Run.ofExcept (asks f length o)
  request.render l

/-- The text of a step. A warning precedes the field. -/
def Step.render (asks : Reading) (l : Localizer) (o : Options) : Step → Run String
  | .literal cs => return String.ofList cs
  | .field f r ordinal => do
    Run.warn (confusion? f r o)
    f.render r.length asks l (if ordinal then o.withOrdinal else o)

/-- The text of a plan: that of its steps, unless a fault ends it. -/
def Plan.render (p : Plan) (asks : Reading) (l : Localizer) (o : Options) : Run String := do
  let parts ← p.steps.mapM (Step.render asks l o)
  match p.fault? with
  | some f => throw f.fault
  | none => return String.join parts

/-- The pattern of a value: a text, or the text of a kind that has one of its own. -/
def patternText (pattern : Argument) : Except Fault String :=
  match pattern with
  | .atom (.text s) => .ok s
  | .atom a =>
    if a.hasOwnText then pattern.display.mapError Fault.argument
    else .error (.patternNotText a.kindName)
  | x => .error (.patternNotText x.kindName)

/-- What stands for a date that denotes no instant. -/
def invalidDateText : String := "Invalid Date"

def defaultLocaleCode : String := "en_US"

/-- The localizer of a call: the given one, or that of the default locale. -/
def localizerOf (localizer : Option Localizer) (registry : LocaleRegistry := .known) :
    Run Localizer :=
  match localizer with
  | some l => pure l
  | none => do
    let made ← Run.createContext defaultLocaleCode registry
    return made.context.localizer registry

/-- The text of a date in a pattern. The faults of a call come in this order: a missing argument, a
pattern that is no text, the options, and the pattern's own faults; a date that denotes no instant
comes before the latter and is no fault. -/
def format (date pattern : Option Argument) (options : Argument) (localizer : Option Localizer)
    (registry : LocaleRegistry := .known) : Run String := do
  match date, pattern with
  | some date, some pattern => do
    let text ← Run.ofExcept (patternText pattern)
    let o ← Run.ofExcept (Options.ofArgument options)
    let d ← Run.ofExcept (Dated.ofArgument date (.number o.digitCount))
    if ← Run.ofExcept (d.isValid.mapError Fault.argument) then
      let l ← localizerOf localizer registry
      (Plan.ofPattern text).render d.reading l o
    else return invalidDateText
  | none, none => throw (.arity 0)
  | _, _ => throw (.arity 1)

end DatePattern
