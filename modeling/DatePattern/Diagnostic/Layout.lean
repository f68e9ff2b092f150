import DatePattern.Argument.Item
import DatePattern.Diagnostic.Basic
import DatePattern.Json.OfArgument

/-! The three layouts of a diagnostic: a block of lines, one line, and a JSON object. -/
namespace DatePattern

/-- A layout. `block` is a headline and a line for each further field, `line` is code and message,
`json` an object on one line. -/
inductive DiagnosticLayout
  | block
  | line
  | json
deriving DecidableEq, Repr

/-- How diagnostics are written. Where texts are cut, message, received value and hint are cut to
`limit` characters each; a negative limit counts from the end of a text. -/
structure DiagnosticStyle where
  layout : DiagnosticLayout := .block
  cuts : Bool := false
  color : Bool := false
  limit : Argument := .int 100
deriving DecidableEq

/-- The start of a text: that many characters, or all but that many where the number is negative. -/
def takeSigned (n : Int) (cs : List Char) : List Char :=
  if 0 ≤ n then cs.take n.toNat else cs.take (cs.length - n.natAbs)

namespace DiagnosticStyle

/-- The start of a value up to the limit, and points for what is cut. Only of a text there can be
both. -/
def cut (limit x : Argument) : Computed :=
  match x, limit.integer? with
  | .mapping _, _ => .error (.unhashable "slice")
  | _, none => .error .sliceIndexKind
  | .atom (.text s), some n => .ok (.text (String.ofList (takeSigned n s.toList ++ ['.', '.', '.'])))
  | x, some _ => .error (Argument.sumFault x (.text "..."))

def fit (style : DiagnosticStyle) (x : Argument) : Computed := do
  if style.cuts then
    if ← (Argument.int (← x.length)).compares .above style.limit then cut style.limit x
    else return x
  else return x

/-- Bold red for errors and bold yellow for warnings, where the style has colors. -/
def severityText (style : DiagnosticStyle) (severity : Argument) : String :=
  let word := if severity = .text "warning" then "warning" else "error"
  if style.color then
    "\x1b[1;" ++ (if word = "error" then "31" else "33") ++ "m" ++ word ++ "\x1b[0m"
  else word

end DiagnosticStyle

namespace Diagnostic

/-- A line for a field, unless the field is absent or empty. -/
def fieldLine (label : String) (x : Argument) : Except ArgumentFault (List String) := do
  if x.isTruthy then return ["  = " ++ label ++ ": " ++ (← x.display)] else return []

/-- A line that points to documentation, unless there is none. -/
def noteLine (x : Argument) : Except ArgumentFault (List String) := do
  if x.isTruthy then return ["  = note: see " ++ (← x.display)] else return []

/-- A line for a field that is cut to the limit, unless the field is absent or empty. -/
def cutLine (style : DiagnosticStyle) (label : String) (x : Argument) :
    Except ArgumentFault (List String) := do
  if x.isTruthy then return ["  = " ++ label ++ ": " ++ (← (← style.fit x).display)] else return []

/-- A headline, and a line for each field that is set. A field that is empty counts as not set; a
position counts as set when it is zero. -/
def block (style : DiagnosticStyle) (d : Diagnostic) : Except ArgumentFault String := do
  let head := style.severityText d.severity ++ "[" ++ d.code.name ++ "]: " ++ (← d.message.display)
  let position ←
    if d.position = .absent then pure []
    else do pure ["  --> pattern offset " ++ (← d.position.display)]
  let directive ← fieldLine "directive" d.directive
  let option ← fieldLine "option" d.optionName
  let received ← cutLine style "received" d.received
  let help ← cutLine style "help" d.hint
  let note ← noteLine d.helpUrl
  return "\n".intercalate (head :: (position ++ directive ++ option ++ received ++ help ++ note))

def line (style : DiagnosticStyle) (d : Diagnostic) : Except ArgumentFault String := do
  return d.code.name ++ ": " ++ (← (← style.fit d.message).display)

/-- A member for a field, unless the field is absent or empty. -/
def member (key : String) (x : Argument) : List (String × Argument) :=
  if x.isTruthy then [(key, x)] else []

/-- A member for a field that is cut to the limit, unless the field is absent or empty. -/
def cutMember (style : DiagnosticStyle) (key : String) (x : Argument) :
    Except ArgumentFault (List (String × Argument)) := do
  if x.isTruthy then return [(key, ← style.fit x)] else return []

def members (style : DiagnosticStyle) (d : Diagnostic) :
    Except ArgumentFault (List (String × Argument)) := do
  let message ← style.fit d.message
  let received ← cutMember style "received" d.received
  let hint ← cutMember style "hint" d.hint
  return [("code", .text d.code.name), ("code_value", .int d.code.number), ("message", message),
      ("severity", d.severity)] ++
    (if d.position = .absent then [] else [("position", d.position)]) ++
    member "directive" d.directive ++ member "option_name" d.optionName ++ received ++ hint ++
    member "help_url" d.helpUrl

def json (style : DiagnosticStyle) (d : Diagnostic) : Except ArgumentFault Json := do
  let members ← d.members style
  let values ← members.mapM fun (key, x) => do return (key, ← x.json)
  return .object values

def render (style : DiagnosticStyle) (d : Diagnostic) : Except ArgumentFault String :=
  match style.layout with
  | .block => d.block style
  | .line => d.line style
  | .json => (d.json style).map Json.text

def text (d : Diagnostic) : Except ArgumentFault String := d.render {}

/-- The texts of several diagnostics, with an empty line between them. -/
def renderAll (style : DiagnosticStyle) (ds : List Diagnostic) : Except ArgumentFault String := do
  let texts ← ds.mapM fun d => d.render style
  return "\n\n".intercalate texts

end Diagnostic

end DatePattern
