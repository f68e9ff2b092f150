import DatePattern.Argument.Basic
import DatePattern.Json.Basic

/-! Values of any kind as JSON. -/
namespace DatePattern

/-- A double as JSON. What is no finite number is written in words, which other readers of JSON may
refuse. -/
def Json.ofDouble : Binary64 → Json
  | .nan => .real "NaN"
  | .infinite negative => .real (if negative then "-Infinity" else "Infinity")
  | x => .real x.text

def Json.ofInt (n : Int) : Except ArgumentFault Json :=
  match numeral? n with
  | some _ => .ok (.int n)
  | none => .error .numeralTooLong

/-- A value without parts as JSON. Only texts, flags, integers, doubles and what is absent have a
form there. -/
def Atom.json (a : Atom) : Except ArgumentFault Json :=
  match a with
  | .absent => .ok .null
  | .flag b => .ok (.bool b)
  | .number (.integer n) => Json.ofInt n
  | .number (.binary x) => .ok (.ofDouble x)
  | .text s => .ok (.string s)
  | a => .error (.notSerializable a.kindName)

namespace Argument

/-- A key of a mapping as a name in an object: a text, or the JSON form of another value. -/
def jsonKey (x : Argument) : Except ArgumentFault String :=
  match x with
  | atom (.text s) => .ok s
  | atom a =>
    match a.json with
    | .ok j => .ok j.text
    | .error (.notSerializable _) => .error (.keyNotSerializable a.fullKindName)
    | .error f => .error f
  | x => .error (.keyNotSerializable x.fullKindName)

mutual

def json : Argument → Except ArgumentFault Json
  | atom a => a.json
  | list items => (jsonItems items).map Json.array
  | mapping entries => (jsonEntries entries).map Json.object
  | record _ => .error (.notSerializable "CalendarValue")
termination_by structural x => x

def jsonItems : List Argument → Except ArgumentFault (List Json)
  | [] => .ok []
  | x :: xs => do
    let first ← x.json
    let rest ← jsonItems xs
    return first :: rest
termination_by structural x => x

def jsonEntry : Argument × Argument → Except ArgumentFault (String × Json)
  | (k, v) => do
    let key ← k.jsonKey
    let value ← v.json
    return (key, value)
termination_by structural x => x

def jsonEntries : List (Argument × Argument) → Except ArgumentFault (List (String × Json))
  | [] => .ok []
  | entry :: rest => do
    let first ← jsonEntry entry
    let others ← jsonEntries rest
    return first :: others
termination_by structural x => x

end

end Argument

end DatePattern
