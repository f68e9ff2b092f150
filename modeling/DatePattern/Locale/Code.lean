import DatePattern.Text.Quoted

/-! Locale codes: a language, and after it a script, a territory, a variant and a modifier. -/
namespace DatePattern

/-- The code with underscores between its parts, in place of hyphens. -/
def normalizeCode (code : String) : String :=
  String.ofList (code.toList.map fun c => if c = '-' then '_' else c)

def splitAtChar (separator : Char) : List Char → List (List Char)
  | [] => [[]]
  | c :: cs =>
    match splitAtChar separator cs with
    | first :: rest => if c = separator then [] :: first :: rest else (c :: first) :: rest
    | [] => [[c]]

/-- The lower-case form of a character. Outside ASCII only the Kelvin sign has one here. -/
def lowerChar (c : Char) : Char := if c = '\u212a' then 'k' else c.toLower

/-- The language of a code, in lower case: what stands before the first separator. -/
def languageOf (code : String) : String :=
  String.ofList (((normalizeCode code).toList.takeWhile fun c => c != '_').map lowerChar)

inductive LocaleFault
  | empty
  | language (got : String)
  | malformed (code : String)
  | unknown (code : String)
deriving DecidableEq, Repr

namespace LocaleFault

def message : LocaleFault → String
  | empty =>
    "Empty locale identifier value: ''\n\nIf you didn't explicitly pass an empty value to a " ++
      "Babel function, this could be caused by there being no suitable locale environment " ++
      "variables for the API you tried to use."
  | language got => "expected only letters, got " ++ quoteText got
  | malformed code => quoteText code ++ " is not a valid locale identifier"
  | unknown code => "unknown locale " ++ quoteText code

/-- The code is well formed. -/
def isUnknown : LocaleFault → Bool
  | unknown _ => true
  | _ => false

end LocaleFault

structure LocaleParts where
  language : List Char
  script : List Char
  territory : List Char
  variant : List Char
  modifier : List Char
deriving DecidableEq, Repr

/-- Letters are those of ASCII and all characters beyond it. -/
def isLetter (c : Char) : Bool := c.isAlpha || decide (0x80 ≤ c.toNat)

def isScript (cs : List Char) : Bool := cs.length == 4 && cs.all isLetter

def isTerritory (cs : List Char) : Bool :=
  (cs.length == 2 && cs.all isLetter) || (cs.length == 3 && cs.all Char.isDigit)

/-- Four characters from a digit on, or five and more from a letter on. -/
def isVariant (cs : List Char) : Bool :=
  (cs.length == 4 && (cs.head?.map Char.isDigit).getD false) ||
  (decide (5 ≤ cs.length) && (cs.head?.map isLetter).getD false)

def titleCase : List Char → List Char
  | [] => []
  | c :: cs => c.toUpper :: cs.map lowerChar

def takePart (form : List Char → Bool) (parts : List (List Char)) :
    List Char × List (List Char) :=
  match parts with
  | [] => ([], [])
  | first :: rest => if form first then (first, rest) else ([], first :: rest)

namespace LocaleParts

/-- The parts of a normalized code. What follows a point, as far as the modifier, is left out. -/
def ofCode (code : String) : Except LocaleFault LocaleParts :=
  if code = "" then .error .empty
  else
    let modifier := (code.toList.dropWhile fun c => c != '@').drop 1
    let body := (code.toList.takeWhile fun c => c != '@').takeWhile fun c => c != '.'
    match splitAtChar '_' body with
    | [] => .error .empty
    | first :: rest =>
      let language := first.map lowerChar
      if language.isEmpty || !language.all isLetter then
        .error (.language (String.ofList language))
      else
        let (script, rest) := takePart isScript rest
        let (territory, rest) := takePart isTerritory rest
        let (variant, rest) := takePart isVariant rest
        if rest.isEmpty then
          .ok ⟨language, titleCase script, territory.map Char.toUpper, variant.map Char.toUpper,
            modifier⟩
        else .error (.malformed (String.ofList body))

def text (p : LocaleParts) : String :=
  let parts := [p.language, p.script, p.territory, p.variant].filter fun part => !part.isEmpty
  String.ofList (['_'].intercalate parts ++ if p.modifier.isEmpty then [] else '@' :: p.modifier)

end LocaleParts

end DatePattern
