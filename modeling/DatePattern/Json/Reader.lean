import DatePattern.Json.Basic
import DatePattern.Numeral.Decimal
import DatePattern.Text.Hexadecimal

/-! Reading JSON. The reader accepts one value with white space around its tokens. -/
namespace DatePattern

namespace Json

def isSpace (c : Char) : Bool := c == ' ' || c == '\n' || c == '\t' || c == '\r'

def skipSpace (cs : List Char) : List Char := cs.dropWhile isSpace

def readHex : List Char → Option (Nat × List Char)
  | a :: b :: c :: d :: rest => do
    let a ← hexValue? a
    let b ← hexValue? b
    let c ← hexValue? c
    let d ← hexValue? d
    return (a * 4096 + b * 256 + c * 16 + d, rest)
  | _ => none

def namedEscape? : Char → Option Char
  | '"' => some '"'
  | '\\' => some '\\'
  | '/' => some '/'
  | 'n' => some '\n'
  | 'r' => some '\r'
  | 't' => some '\t'
  | 'b' => some '\x08'
  | 'f' => some '\x0c'
  | _ => none

/-- The character of a code, or of two codes that are a surrogate pair. A surrogate alone stands
for no character and is read as the replacement character. -/
def readCode (cs : List Char) : Option (Char × List Char) := do
  let (high, rest) ← readHex cs
  if 0xd800 ≤ high ∧ high < 0xdc00 then
    match rest with
    | '\\' :: 'u' :: more =>
      let (low, after) ← readHex more
      if 0xdc00 ≤ low ∧ low < 0xe000 then
        return (Char.ofNat (0x10000 + (high - 0xd800) * 0x400 + (low - 0xdc00)), after)
      else return ('\ufffd', rest)
    | _ => return ('\ufffd', rest)
  else if 0xdc00 ≤ high ∧ high < 0xe000 then return ('\ufffd', rest)
  else return (Char.ofNat high, rest)

/-- The characters of a string up to its closing quote. Control characters have to be escaped. -/
def readChars : Nat → List Char → Option (List Char × List Char)
  | 0, _ => none
  | _ + 1, [] => none
  | fuel + 1, c :: rest =>
    if c = '"' then some ([], rest)
    else if c = '\\' then
      match rest with
      | [] => none
      | e :: more => do
        let (c, after) ← if e = 'u' then readCode more else (namedEscape? e).map fun c => (c, more)
        let (cs, after) ← readChars fuel after
        return (c :: cs, after)
    else if c.toNat < 0x20 then none
    else do
      let (cs, after) ← readChars fuel rest
      return (c :: cs, after)

def isNumberChar (c : Char) : Bool :=
  c.isDigit || c == '-' || c == '+' || c == '.' || c == 'e' || c == 'E'

/-- A number: an integer when it is digits behind at most a minus sign. -/
def readNumber (cs : List Char) : Option (Json × List Char) :=
  let token := cs.takeWhile isNumberChar
  let rest := cs.dropWhile isNumberChar
  if token.isEmpty ∨ token.head? = some '+' then none
  else
    match integer? token with
    | some n => some (int n, rest)
    | none => some (real (String.ofList token), rest)

mutual

def readValue : Nat → List Char → Option (Json × List Char)
  | 0, _ => none
  | fuel + 1, cs =>
    match skipSpace cs with
    | 'n' :: 'u' :: 'l' :: 'l' :: rest => some (null, rest)
    | 't' :: 'r' :: 'u' :: 'e' :: rest => some (bool true, rest)
    | 'f' :: 'a' :: 'l' :: 's' :: 'e' :: rest => some (bool false, rest)
    | '"' :: rest => do
      let (s, rest) ← readChars (rest.length + 1) rest
      return (string (String.ofList s), rest)
    | '[' :: rest =>
      match skipSpace rest with
      | ']' :: rest => some (array [], rest)
      | _ => do
        let (items, rest) ← readItems fuel rest
        return (array items, rest)
    | '\x7b' :: rest =>
      match skipSpace rest with
      | '\x7d' :: rest => some (object [], rest)
      | _ => do
        let (members, rest) ← readMembers fuel rest
        return (object members, rest)
    | rest => readNumber rest

def readItems : Nat → List Char → Option (List Json × List Char)
  | 0, _ => none
  | fuel + 1, cs => do
    let (x, rest) ← readValue fuel cs
    match skipSpace rest with
    | ']' :: rest => return ([x], rest)
    | ',' :: rest =>
      let (xs, rest) ← readItems fuel rest
      return (x :: xs, rest)
    | _ => none

def readMembers : Nat → List Char → Option (List (String × Json) × List Char)
  | 0, _ => none
  | fuel + 1, cs => do
    match skipSpace cs with
    | '"' :: rest =>
      let (k, rest) ← readChars (rest.length + 1) rest
      match skipSpace rest with
      | ':' :: rest =>
        let (v, rest) ← readValue fuel rest
        match skipSpace rest with
        | '\x7d' :: rest => return ([(String.ofList k, v)], rest)
        | ',' :: rest =>
          let (members, rest) ← readMembers fuel rest
          return ((String.ofList k, v) :: members, rest)
        | _ => none
      | _ => none
    | _ => none

end

def ofText? (s : String) : Option Json := do
  let (j, rest) ← readValue (s.toList.length + 1) s.toList
  if (skipSpace rest).isEmpty then return j else none

end Json

end DatePattern
