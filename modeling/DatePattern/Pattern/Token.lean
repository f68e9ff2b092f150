/-! Date patterns as tokens: literal text, and runs of one pattern letter. -/
namespace DatePattern

/-- A run of one letter: how long it is, and where in the pattern it begins. -/
structure LetterRun where
  letter : Char
  length : Nat
  position : Nat
deriving DecidableEq, Repr

def LetterRun.text (r : LetterRun) : String :=
  String.ofList (List.replicate r.length r.letter)

/-- A token: text that stands for itself, or a run of a letter. -/
inductive Token
  | literal (cs : List Char)
  | run (r : LetterRun)
deriving DecidableEq, Repr

/-- The single quote, which encloses literal text; two of them stand for one, within such text and
outside. -/
def quote : Char := '\x27'

/-- The letters that a pattern reserves outside quotes: those of ASCII. -/
def isPatternLetter (c : Char) : Bool := c.isAlpha

namespace Token

def consLiteral (c : Char) : List Token → List Token
  | literal cs :: rest => literal (c :: cs) :: rest
  | tokens => literal [c] :: tokens

/-- Tokens with a letter at a position in front. It joins a run of the same letter that begins at
the next position. -/
def consLetter (c : Char) (position : Nat) : List Token → List Token
  | run r :: rest =>
    if r.letter = c ∧ r.position = position + 1 then run ⟨c, r.length + 1, position⟩ :: rest
    else run ⟨c, 1, position⟩ :: run r :: rest
  | tokens => run ⟨c, 1, position⟩ :: tokens

/-- The tokens of the rest of a pattern that begins at a position, within quotes or outside. A
quoted text that is not closed goes on to the end. -/
def scanFrom (quoted : Bool) (position : Nat) : List Char → List Token
  | [] => []
  | c :: rest =>
    if c = quote then
      match rest with
      | [] => []
      | d :: more =>
        if d = quote then consLiteral quote (scanFrom quoted (position + 2) more)
        else scanFrom (!quoted) (position + 1) (d :: more)
    else if quoted || !isPatternLetter c then consLiteral c (scanFrom quoted (position + 1) rest)
    else consLetter c position (scanFrom quoted (position + 1) rest)

def scan (pattern : String) : List Token := scanFrom false 0 pattern.toList

def doubleQuotes (cs : List Char) : List Char :=
  cs.flatMap fun c => if c = quote then [quote, quote] else [c]

/-- A text written as a literal of a pattern. Quotes at its start are doubled outside quotes, since
a quoted text cannot begin with a doubled quote. -/
def escape (cs : List Char) : List Char :=
  let quotes := cs.takeWhile fun c => c == quote
  let rest := cs.dropWhile fun c => c == quote
  doubleQuotes quotes ++ if rest.isEmpty then [] else quote :: (doubleQuotes rest ++ [quote])

end Token

end DatePattern
