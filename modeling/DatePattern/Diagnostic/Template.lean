import DatePattern.Diagnostic.Basic

/-! The diagnostics of this library, one for each cause. -/
namespace DatePattern

/-- A value, and its text for reading. -/
structure Shown where
  value : Argument
  text : String

def Shown.ofText (s : String) : Shown := ⟨.text s, s⟩

instance : Coe String Shown := ⟨Shown.ofText⟩

namespace Diagnostic

/-- Where pattern letters are documented. -/
def fieldTableUrl : String :=
  "https://www.unicode.org/reports/tr35/tr35-dates.html#Date_Field_Symbol_Table"

def quoteHint (run : String) : String :=
  "Quote literal text with single quotes, e.g. '" ++ run ++ "'"

/-- An operation of the calendar was asked about a moment that is not valid. -/
def invalidDate (operation : String) : Diagnostic where
  code := .invalidDate
  message := .text (operation ++ "() requires a valid date, got a non-finite instant")
  hint := .text "Check CalendarValue.is_valid before calling calendar helpers"

def arity (received : String) : Diagnostic where
  code := .arityMismatch
  message := .text ("format() requires 2 arguments (date, pattern), but only " ++ received ++
    " present")
  hint := .text "Call format(date, pattern) or format(date, pattern, options)"

def patternNotText (kindName : Shown) : Diagnostic where
  code := .patternNotString
  message := .text ("Pattern must be a string, got " ++ kindName.text)
  received := kindName.value
  hint := .text "Pass a str or an object that defines __str__"

def optionOutOfRange (name : Shown) (literal allowed : String) : Diagnostic where
  code := .optionOutOfRange
  message := .text (name.text ++ " must be " ++ allowed ++ ", got " ++ literal)
  optionName := name.value
  received := .text literal

def optionTypeMismatch (name : Shown) (kindName literal expected : String) : Diagnostic where
  code := .optionTypeMismatch
  message := .text (name.text ++ " must be " ++ expected ++ ", got " ++ kindName)
  optionName := name.value
  received := .text literal

def optionUnknown (key : Shown) : Diagnostic where
  code := .optionUnknown
  message := .text ("Unknown format option '" ++ key.text ++ "'")
  optionName := key.value
  hint := .text ("Recognized options: additional_digits, week_starts_on, " ++
    "first_week_contains_date, use_additional_week_year_token, " ++
    "use_additional_day_of_year_token")

/-- A letter outside quotes that no field has. -/
def directiveUnknown (letter : String) (run : Shown) (position : Argument) : Diagnostic where
  code := .directiveUnknown
  message := .text ("Pattern contains an unescaped latin alphabet character '" ++ letter ++ "'")
  position := position
  directive := run.value
  hint := .text (quoteHint run.text)
  helpUrl := .text fieldTableUrl

/-- A letter with a standard meaning that no field here has. -/
def directiveReserved (letter : String) (run : Shown) (position : Argument) : Diagnostic where
  code := .directiveReserved
  message := .text ("Pattern letter '" ++ letter ++ "' is reserved but not implemented")
  position := position
  directive := run.value
  hint := .text (quoteHint run.text)
  helpUrl := .text fieldTableUrl

/-- An ordinal modifier that does not follow a field, or is longer than one letter. -/
def ordinalWithoutTarget (run position : Argument) : Diagnostic where
  code := .ordinalWithoutTarget
  message := .text "Ordinal modifier 'o' must directly follow a single date field"
  position := position
  directive := run
  hint := .text "Write it after a numeric field, e.g. 'do' -> '4th'"

/-- The warning about a field that is easily taken for a more usual one. -/
def protectedTokenText (run intended option : String) : String :=
  "Pattern uses '" ++ run ++ "'; did you mean '" ++ intended ++ "'? Set " ++ option ++
    "=True if '" ++ run ++ "' is intended"

def protectedToken (run : Shown) (intended : String) (option : Shown) : Diagnostic where
  code := .protectedToken
  message := .text (protectedTokenText run.text intended option.text)
  directive := run.value
  optionName := option.value
  severity := .text "warning"

/-- The warning about a locale without data, with the one that is used in its place. -/
def localeUnknownText (code fallback : String) : String :=
  "Unknown locale '" ++ code ++ "', falling back to " ++ fallback

def localeUnknown (code : Shown) (fallback : String) : Diagnostic where
  code := .localeUnknown
  message := .text (localeUnknownText code.text fallback)
  received := code.value
  hint := .text "Use LocaleContext.create_or_raise() to reject unknown locales"
  severity := .text "warning"

/-- The remark on an ordinal category for which a locale has no suffix. -/
def ordinalDataMissingText (code category : String) : String :=
  "No ordinal suffix for category '" ++ category ++ "' in locale " ++ code

def ordinalDataMissing (code : Shown) (category : String) : Diagnostic where
  code := .ordinalDataMissing
  message := .text (ordinalDataMissingText code.text category)
  received := code.value
  hint := .text "The number is rendered without a suffix"
  severity := .text "warning"

end Diagnostic

end DatePattern
