import DatePattern.Diagnostic.Layout
import DatePattern.Diagnostic.Template
import DatePattern.Locale.Code
import DatePattern.Numeral.Notation

/-! The ways a call can fail, and the text of each. -/
namespace DatePattern

/-- What a complaint is about, with what it carries besides its text: the option's name, or the
letter and the position of a directive. -/
inductive ComplaintKind
  | general
  | arity
  | pattern
  | option (name : Argument)
  | directive (letter position : Argument)
  | invalidDate
deriving DecidableEq

/-- A refusal that this library words itself, most often by a diagnostic. -/
structure Complaint where
  kind : ComplaintKind
  text : String
  diagnostic? : Option Diagnostic
deriving DecidableEq

namespace Complaint

def ofText (kind : ComplaintKind) (text : String) : Complaint := ⟨kind, text, none⟩

def ofDiagnostic (kind : ComplaintKind) (d : Diagnostic) : Except ArgumentFault Complaint := do
  return ⟨kind, ← d.text, some d⟩

end Complaint

/-- A call that failed. The complaints are those that callers are told of; the others arise where
values are made, computed with, written or read, and names looked up. -/
inductive Fault
  | complaint (c : Complaint)
  | moment (f : MomentFault)
  | stamp (f : StampFault)
  | argument (f : ArgumentFault)
  | numeral (f : NotationFault)
  | notHexadecimal (place : Nat)
  | zeroDenominator (numerator : Int)
  | unexpectedKeyword (kind name : String)
  | repeatedKeyword (kind : String)
  | missingKeywords (kind : String) (names : List String)
  | keywordNotText
  | missingItem (index : Nat)
  | locale (code : String) (f : LocaleFault)
deriving DecidableEq

instance : Inhabited Fault := ⟨.argument .numeralTooLong⟩

/-- A computation with values of any kind may be part of any other. -/
instance : MonadLift (Except ArgumentFault) (Except Fault) := ⟨fun x => x.mapError Fault.argument⟩

/-- Words with commas between them, and a last one behind "and". -/
def enumeration : List String → String
  | [] => ""
  | [word] => word
  | [word, last] => word ++ " and " ++ last
  | words => ", ".intercalate words.dropLast ++ ", and " ++ words.getLastD ""

/-- The name of the keyword that stands for what is made, so that no value can be given for it. -/
def ownKeyword : String := "self"

def Fault.message : Fault → String
  | complaint c => c.text
  | moment f => f.message
  | stamp f => f.message
  | argument f => f.message
  | numeral f => f.message
  | zeroDenominator n => "Fraction(" ++ toString n ++ ", 0)"
  | notHexadecimal place =>
    "non-hexadecimal number found in fromhex() arg at position " ++ toString place
  | unexpectedKeyword kind name =>
    kind ++ ".__init__() got an unexpected keyword argument '" ++ name ++ "'"
  | repeatedKeyword kind => kind ++ ".__init__() got multiple values for argument 'self'"
  | missingKeywords kind names =>
    kind ++ ".__init__() missing " ++ toString names.length ++ " required positional argument" ++
      (if names.length = 1 then "" else "s") ++ ": " ++ enumeration (names.map quoteText)
  | keywordNotText => "keywords must be strings"
  | missingItem index =>
    "sequence item " ++ toString index ++ ": expected str instance, NoneType found"
  | locale code f =>
    (if f.isUnknown then "Unknown locale identifier '" else "Invalid locale format '") ++ code ++
      "': " ++ f.message

namespace Fault

/-- A keyword that what is made does not take. -/
def keyword (kind name : String) : Fault :=
  if name = ownKeyword then .repeatedKeyword kind else .unexpectedKeyword kind name

def diagnostic? : Fault → Option Diagnostic
  | complaint c => c.diagnostic?
  | _ => none

/-- The complaint of a diagnostic, or what keeps its text from being written. -/
def ofDiagnostic (kind : ComplaintKind) (d : Diagnostic) : Fault :=
  match Complaint.ofDiagnostic kind d with
  | .ok c => .complaint c
  | .error f => .argument f

def arity (received : Nat) : Fault := .ofDiagnostic .arity (.arity (toString received))

def patternNotText (kindName : String) : Fault :=
  .ofDiagnostic .pattern (.patternNotText kindName)

def invalidDate (operation : String) : Fault :=
  .ofDiagnostic .invalidDate (.invalidDate operation)

/-- A complaint about the value of an option, or what keeps the value's literal from being
written. -/
def optionOutOfRange (name : String) (value : Argument) (allowed : String) : Fault :=
  match value.literal with
  | .ok literal => .ofDiagnostic (.option (.text name)) (.optionOutOfRange name literal allowed)
  | .error f => .argument f

def optionTypeMismatch (name : String) (value : Argument) (expected : String) : Fault :=
  match value.literal with
  | .ok literal =>
    .ofDiagnostic (.option (.text name)) (.optionTypeMismatch name value.kindName literal expected)
  | .error f => .argument f

def optionUnknown (key : Argument) : Fault :=
  match key.display with
  | .ok text => .ofDiagnostic (.option key) (.optionUnknown ⟨key, text⟩)
  | .error f => .argument f

end Fault

end DatePattern
