import DatePattern.Argument.Basic

/-! Diagnostics: what is wrong, where, and what may help. -/
namespace DatePattern

/-- What a diagnostic is about. The thousands of the number tell dates, calls, options, patterns
and locales apart. -/
inductive DiagnosticCode
  | invalidDate
  | arityMismatch
  | patternNotString
  | optionOutOfRange
  | optionTypeMismatch
  | optionUnknown
  | directiveUnknown
  | directiveReserved
  | ordinalWithoutTarget
  | protectedToken
  | localeUnknown
  | ordinalDataMissing
deriving DecidableEq, Repr

namespace DiagnosticCode

def all : List DiagnosticCode :=
  [invalidDate, arityMismatch, patternNotString, optionOutOfRange, optionTypeMismatch,
    optionUnknown, directiveUnknown, directiveReserved, ordinalWithoutTarget, protectedToken,
    localeUnknown, ordinalDataMissing]

def number : DiagnosticCode → Nat
  | invalidDate => 1001
  | arityMismatch => 2001
  | patternNotString => 2002
  | optionOutOfRange => 3001
  | optionTypeMismatch => 3002
  | optionUnknown => 3003
  | directiveUnknown => 4001
  | directiveReserved => 4002
  | ordinalWithoutTarget => 4003
  | protectedToken => 4004
  | localeUnknown => 5001
  | ordinalDataMissing => 5002

def name : DiagnosticCode → String
  | invalidDate => "INVALID_DATE"
  | arityMismatch => "ARITY_MISMATCH"
  | patternNotString => "PATTERN_NOT_STRING"
  | optionOutOfRange => "OPTION_OUT_OF_RANGE"
  | optionTypeMismatch => "OPTION_TYPE_MISMATCH"
  | optionUnknown => "OPTION_UNKNOWN"
  | directiveUnknown => "DIRECTIVE_UNKNOWN"
  | directiveReserved => "DIRECTIVE_RESERVED"
  | ordinalWithoutTarget => "ORDINAL_WITHOUT_TARGET"
  | protectedToken => "PROTECTED_TOKEN"
  | localeUnknown => "LOCALE_UNKNOWN"
  | ordinalDataMissing => "ORDINAL_DATA_MISSING"

def ofName? (name : String) : Option DiagnosticCode :=
  all.find? fun code => code.name == name

theorem ofName?_name (code : DiagnosticCode) : ofName? code.name = some code := by
  cases code <;> rfl

end DiagnosticCode

/-- A diagnostic. The position is an offset into the pattern, counted from zero, the directive a
run of its letters; the option name is that of an option or the key that names none, and `received`
is the literal of the value that was refused. What is not set is `Argument.absent`. The library sets
texts and integers; a caller's diagnostic may hold values of any kind. -/
structure Diagnostic where
  code : DiagnosticCode
  message : Argument
  position : Argument := .absent
  hint : Argument := .absent
  helpUrl : Argument := .absent
  directive : Argument := .absent
  optionName : Argument := .absent
  received : Argument := .absent
  severity : Argument := .text "error"
deriving DecidableEq

end DatePattern
