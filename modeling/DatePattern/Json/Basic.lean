import DatePattern.Text.Quoted

/-! JSON values, whose objects keep the order of their members, and their written form. -/
namespace DatePattern

/-- A JSON value. Numbers are integers, or reals given by their text. -/
inductive Json
  | null
  | bool (b : Bool)
  | int (n : Int)
  | real (token : String)
  | string (s : String)
  | array (items : List Json)
  | object (members : List (String × Json))
deriving Inhabited

namespace Json

/-- A character of a string. The quote, the backslash and the control characters below the space
are escaped; all others, those outside ASCII too, stand for themselves. -/
def escape (c : Char) : List Char :=
  if c = '"' then ['\\', '"']
  else if c = '\\' then ['\\', '\\']
  else if c = '\n' then ['\\', 'n']
  else if c = '\r' then ['\\', 'r']
  else if c = '\t' then ['\\', 't']
  else if c = '\x08' then ['\\', 'b']
  else if c = '\x0c' then ['\\', 'f']
  else if c.toNat < 0x20 then '\\' :: 'u' :: hexDigits 4 c.toNat
  else [c]

def writeString (s : String) : List Char :=
  '"' :: (s.toList.flatMap escape ++ ['"'])

mutual

def write : Json → List Char
  | null => ['n', 'u', 'l', 'l']
  | bool true => ['t', 'r', 'u', 'e']
  | bool false => ['f', 'a', 'l', 's', 'e']
  | int n => (toString n).toList
  | real token => token.toList
  | string s => writeString s
  | array items => '[' :: (writeItems items ++ [']'])
  | object members => '\x7b' :: (writeMembers members ++ ['\x7d'])

/-- The items of an array, with a comma and a space between them. -/
def writeItems : List Json → List Char
  | [] => []
  | [x] => x.write
  | x :: y :: rest => x.write ++ ',' :: ' ' :: writeItems (y :: rest)

def writeMembers : List (String × Json) → List Char
  | [] => []
  | [(k, v)] => writeString k ++ ':' :: ' ' :: v.write
  | (k, v) :: y :: rest =>
    writeString k ++ ':' :: ' ' :: (v.write ++ ',' :: ' ' :: writeMembers (y :: rest))

end

def text (j : Json) : String := String.ofList j.write

def member? (j : Json) (key : String) : Option Json :=
  match j with
  | object members => members.lookup key
  | _ => none

end Json

end DatePattern
