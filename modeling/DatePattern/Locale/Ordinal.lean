import DatePattern.Argument.Arithmetic
import DatePattern.Diagnostic.Template
import DatePattern.Locale.Known

/-! Ordinal numbers: the category of a number in a locale, and the suffix that goes with it. -/
namespace DatePattern

/-- The category of the magnitude of an ordinal number, in a locale given by any code. In an unknown
locale it is always the general one. -/
def ordinalCategory (x : Argument) (code : String) (registry : LocaleRegistry := .known) :
    Except ArgumentFault PluralCategory :=
  match registry.find (normalizeCode code) with
  | .ok locale => do
    match (← x.magnitude).number? with
    | some n => (registry.ordinalCategory locale n).mapError ArgumentFault.number
    | none => return .other
  | .error _ => .ok .other

/-- The suffixes of languages that have one for all ordinal numbers. -/
def uniformSuffixes : List (String × String) :=
  [("cs", "."), ("da", "."), ("de", "."), ("es", "º"), ("et", "."), ("fi", "."), ("hr", "."),
   ("hu", "."), ("it", "º"), ("lt", "-as"), ("lv", "."), ("nb", "."), ("nl", "e"), ("nn", "."),
   ("no", "."), ("pl", "."), ("pt", "º"), ("sk", "."), ("sl", "."), ("tr", ".")]

/-- The suffixes of languages that have one for each category. -/
def categorySuffixes : List (String × List (PluralCategory × String)) :=
  [("en", [(.one, "st"), (.two, "nd"), (.few, "rd"), (.other, "th")]),
   ("fr", [(.one, "er"), (.other, "e")]), ("sv", [(.one, ":a"), (.other, ":e")])]

/-- The suffix of an ordinal number in a locale, and the remarks made where there is none. -/
def ordinalSuffix (x : Argument) (code : String) (registry : LocaleRegistry := .known) :
    Except ArgumentFault (Option String × List String) :=
  match uniformSuffixes.lookup (languageOf code) with
  | some suffix => .ok (some suffix, [])
  | none => do
    let category ← ordinalCategory x code registry
    match (categorySuffixes.lookup (languageOf code)).bind (·.lookup category) with
    | some suffix => return (some suffix, [])
    | none => return (none, [Diagnostic.ordinalDataMissingText code category.name])

end DatePattern
