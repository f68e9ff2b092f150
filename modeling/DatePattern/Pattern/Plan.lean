import DatePattern.Pattern.Field
import DatePattern.Pattern.Token

/-! The steps that render a pattern, and what is wrong with a pattern. -/
namespace DatePattern

/-- What is wrong with a run of letters: it has no field, it has a standard meaning but no field
here, or it is an ordinal modifier without a field before it. -/
inductive PatternFault
  | unknown (r : LetterRun)
  | reserved (r : LetterRun)
  | strayOrdinal (r : LetterRun)
deriving DecidableEq, Repr

namespace PatternFault

def run : PatternFault → LetterRun
  | unknown r => r
  | reserved r => r
  | strayOrdinal r => r

def diagnostic : PatternFault → Diagnostic
  | unknown r => .directiveUnknown r.letter.toString r.text (.int r.position)
  | reserved r => .directiveReserved r.letter.toString r.text (.int r.position)
  | strayOrdinal r => .ordinalWithoutTarget (.text r.text) (.int r.position)

/-- The complaint about it, which names letter and position. -/
def fault (f : PatternFault) : Fault :=
  .ofDiagnostic (.directive (.text f.run.letter.toString) (.int f.run.position)) f.diagnostic

def ofRun (r : LetterRun) : PatternFault :=
  if r.letter ∈ Field.reservedLetters then reserved r else unknown r

end PatternFault

/-- A step: a literal text, or a field, as an ordinal number or not. -/
inductive Step
  | literal (cs : List Char)
  | field (f : Field) (r : LetterRun) (ordinal : Bool)
deriving DecidableEq, Repr

/-- Steps to take in order, and the fault that ends them, if there is one. -/
structure Plan where
  steps : List Step
  fault? : Option PatternFault
deriving DecidableEq, Repr

namespace Plan

def done : Plan := ⟨[], none⟩

def fail (f : PatternFault) : Plan := ⟨[], some f⟩

def cons (s : Step) (p : Plan) : Plan := ⟨s :: p.steps, p.fault?⟩

/-- A plan with the field of a run in front, or the fault of a run that has no field. -/
def consRun (r : LetterRun) (ordinal : Bool) (p : Plan) : Plan :=
  match Field.ofLetter? r.letter with
  | some f => cons (.field f r ordinal) p
  | none => fail (.ofRun r)

/-- The plan of tokens. An ordinal modifier of one letter marks the field directly before it. A
longer one is a fault, and hides a fault of the run before it. -/
def ofTokens : List Token → Plan
  | [] => done
  | .literal cs :: rest => cons (.literal cs) (ofTokens rest)
  | .run r :: rest =>
    if r.letter = Field.ordinalLetter then fail (.strayOrdinal r)
    else
      match rest with
      | .run s :: more =>
        if s.letter = Field.ordinalLetter then
          if s.length = 1 then consRun r true (ofTokens more) else fail (.strayOrdinal s)
        else consRun r false (ofTokens (.run s :: more))
      | rest => consRun r false (ofTokens rest)

def ofPattern (pattern : String) : Plan := ofTokens (Token.scan pattern)

end Plan

end DatePattern
