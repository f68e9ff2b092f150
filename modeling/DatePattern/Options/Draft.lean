import DatePattern.Fault
import DatePattern.Text.Blank
import DatePattern.Text.Digit

/-! Options as a caller writes them, and the checks that turn them into options. -/
namespace DatePattern

/-- The options by name, in the order in which they are checked. -/
inductive OptionName
  | additionalDigits
  | weekStartsOn
  | firstWeekContains
  | weekYear
  | dayOfYear
  | ordinal
deriving DecidableEq, Repr

namespace OptionName

def snake : OptionName → String
  | additionalDigits => "additional_digits"
  | weekStartsOn => "week_starts_on"
  | firstWeekContains => "first_week_contains_date"
  | weekYear => "use_additional_week_year_token"
  | dayOfYear => "use_additional_day_of_year_token"
  | ordinal => "ordinal"

def camel : OptionName → String
  | additionalDigits => "additionalDigits"
  | weekStartsOn => "weekStartsOn"
  | firstWeekContains => "firstWeekContainsDate"
  | weekYear => "useAdditionalWeekYearToken"
  | dayOfYear => "useAdditionalDayOfYearToken"
  | ordinal => "ordinal"

/-- The options that a mapping may set. -/
def settable : List OptionName :=
  [additionalDigits, weekStartsOn, firstWeekContains, weekYear, dayOfYear]

/-- The option that a key of a mapping sets, in either spelling. -/
def ofKey? (key : Argument) : Option OptionName :=
  match key with
  | .atom (.text s) => settable.find? fun name => name.snake == s || name.camel == s
  | _ => none

def ofKeyword? (s : String) : Option OptionName :=
  (settable ++ [ordinal]).find? fun name => name.snake == s

end OptionName

structure Draft where
  additionalDigits : Argument := .absent
  weekStartsOn : Argument := .absent
  firstWeekContains : Argument := .absent
  weekYear : Argument := .atom (.flag false)
  dayOfYear : Argument := .atom (.flag false)
  ordinal : Argument := .atom (.flag false)

def Draft.set (d : Draft) (name : OptionName) (value : Argument) : Draft :=
  match name with
  | .additionalDigits => { d with additionalDigits := value }
  | .weekStartsOn => { d with weekStartsOn := value }
  | .firstWeekContains => { d with firstWeekContains := value }
  | .weekYear => { d with weekYear := value }
  | .dayOfYear => { d with dayOfYear := value }
  | .ordinal => { d with ordinal := value }

def digitCountFault (value : Argument) : Fault :=
  .optionOutOfRange OptionName.additionalDigits.snake value "0, 1, 2 or None"

/-- The integer that a value stands for as a number of additional digits: an integer, a double or
a fraction without fractional part, or a text of digits between blanks. -/
def integerValue? (value : Argument) : Except Fault (Option Int) :=
  match value with
  | .atom (.number (.integer n)) => .ok (some n)
  | .atom (.number (.binary x)) => .ok (if x.isIntegral then some x.truncate else none)
  | .atom (.number (.ratio q)) =>
    match Number.doubleOfRatio q with
    | .ok x => .ok (if x.isIntegral then some (q.num.tdiv q.den) else none)
    | .error f => .error (.argument (.number f))
  | .atom (.text s) =>
    let cs := trimBlanks s.toList
    if !cs.isEmpty && cs.all looksLikeDigit then
      match readInteger (String.ofList cs) with
      | .ok n => .ok (some n)
      | .error f => .error (.numeral f)
    else .ok none
  | _ => .ok none

/-- A number of additional digits in a mapping, brought to an integer. -/
def normalizeDigits (value : Argument) : Except Fault (Option Int) :=
  match value with
  | .atom .absent => .ok none
  | value => do
    match ← integerValue? value with
    | some n => if n = 0 ∨ n = 1 ∨ n = 2 then return some n else throw (digitCountFault value)
    | none => throw (digitCountFault value)

/-- A number of additional digits that is kept as it is. It is compared with the allowed ones by
value, which fails for a decimal that signals. -/
def checkDigits (value : Argument) :
    Except Fault { x : Option Number // ∀ n ∈ x, IsDigitCount n } :=
  match value with
  | .atom .absent => .ok ⟨none, Options.unset.additionalDigits_inRange⟩
  | .atom (.number x) =>
    if x.isSignaling then .error (.argument (.number (.decimal .invalid)))
    else if h : IsDigitCount x then .ok ⟨some x, by simpa using h⟩
    else .error (digitCountFault value)
  | value => .error (digitCountFault value)

/-- An integer option that may be unset. -/
def checkInt (name : OptionName) (allowed : String) (p : Int → Prop) [DecidablePred p]
    (value : Argument) : Except Fault { x : Option Int // ∀ n ∈ x, p n } :=
  match value with
  | .atom .absent => .ok ⟨none, by simp⟩
  | .atom (.number (.integer n)) =>
    if h : p n then .ok ⟨some n, by simpa using h⟩
    else .error (.optionOutOfRange name.snake value allowed)
  | value => .error (.optionTypeMismatch name.snake value "int")

def checkFlag (name : OptionName) (value : Argument) : Except Fault Bool :=
  match value with
  | .atom (.flag b) => .ok b
  | value => .error (.optionTypeMismatch name.snake value "bool")

/-- The options of a draft. The first option with a fault is reported. -/
def Draft.check (d : Draft) : Except Fault Options := do
  let digits ← checkDigits d.additionalDigits
  let starts ← checkInt .weekStartsOn "between 0 and 6" IsWeekday d.weekStartsOn
  let contains ← checkInt .firstWeekContains "between 1 and 7" IsFirstWeekDay d.firstWeekContains
  let weekYear ← checkFlag .weekYear d.weekYear
  let dayOfYear ← checkFlag .dayOfYear d.dayOfYear
  let ordinal ← checkFlag .ordinal d.ordinal
  return ⟨digits.1, starts.1, contains.1, weekYear, dayOfYear, ordinal, digits.2, starts.2,
    contains.2⟩

/-- The draft of a mapping. All keys are looked at before any value; of two keys for one option
the later one counts. -/
def Draft.ofEntries (d : Draft) : List (Argument × Argument) → Except Fault Draft
  | [] => .ok d
  | (key, value) :: rest =>
    match OptionName.ofKey? key with
    | some name => ofEntries (d.set name value) rest
    | none => .error (.optionUnknown key)

namespace Options

def ofEntries (entries : List (Argument × Argument)) : Except Fault Options := do
  let draft ← Draft.ofEntries {} entries
  let digits ← normalizeDigits draft.additionalDigits
  let value := match digits with
    | some n => .int n
    | none => .absent
  (draft.set .additionalDigits value).check

/-- The options of an argument: none, options, or a mapping. -/
def ofArgument (value : Argument) : Except Fault Options :=
  match value with
  | .atom .absent => .ok unset
  | .atom (.options o) => .ok o
  | .mapping entries => ofEntries entries
  | value => .error (.optionTypeMismatch "options" value "FormatOptions or mapping")

/-- The draft of keywords. The first keyword that is not of an option is reported. -/
def draftOfKeywords (d : Draft) : List (String × Argument) → Except Fault Draft
  | [] => .ok d
  | (key, value) :: rest =>
    match OptionName.ofKeyword? key with
    | some name => draftOfKeywords (d.set name value) rest
    | none => .error (.keyword "FormatOptions" key)

def keyword (entry : Argument × Argument) : Except Fault (String × Argument) :=
  match entry.1 with
  | .atom (.text s) => .ok (s, entry.2)
  | _ => .error .keywordNotText

/-- The options of keywords with values that are kept as they are. -/
def ofKeywords (entries : List (Argument × Argument)) : Except Fault Options := do
  let keywords ← entries.mapM keyword
  let draft ← draftOfKeywords {} keywords
  draft.check

end Options

end DatePattern
