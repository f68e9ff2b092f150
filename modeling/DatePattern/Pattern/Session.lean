import DatePattern.Locale.Store

/-! The course of a call: the store of locale contexts, the calls to the localizer and the notes
made on the way, which stay when the call fails. -/
namespace DatePattern

/-- A note for the caller's log. -/
inductive Note
  | warning (text : String)
  | remark (text : String)
deriving DecidableEq, Repr

/-- The state of a call. Calls and notes are listed with the newest first. -/
structure Session where
  store : LocaleStore
  calls : List Call
  notes : List Note
deriving DecidableEq

namespace Session

def start : Session := ⟨.empty, [], []⟩

def history (s : Session) : List Call := s.calls.reverse

def log (s : Session) : List Note := s.notes.reverse

end Session

/-- A computation in a session, which may fail. -/
abbrev Run (α : Type) : Type := ExceptT Fault (StateM Session) α

namespace Run

/-- Fails with the fault of a result, or goes on with its value. -/
def ofExcept {α : Type} (x : Except Fault α) : Run α :=
  match x with
  | .ok a => pure a
  | .error f => throw f

def note (n : Note) : Run Unit := modify fun s => { s with notes := n :: s.notes }

def warn : Option String → Run Unit
  | some text => note (.warning text)
  | none => pure ()

/-- Puts a call to a localizer. Call and remarks are recorded whether or not the answer is a
fault. -/
def ask (l : Localizer) (call : Call) : Run String := do
  let session ← get
  let answer := l.answer session.calls call
  set { session with
    calls := call :: session.calls
    notes := (answer.remarks.map Note.remark).reverse ++ session.notes }
  ofExcept answer.result

/-- The context of a code, from the store or new. -/
def createContext (code : String) (registry : LocaleRegistry := .known) : Run MadeContext := do
  let session ← get
  warn (session.store.createWarning? code registry)
  let (made, store) := session.store.create code registry
  modify fun s => { s with store := store }
  return made

/-- A new context of a code that names a locale. -/
def createStrictContext (code : String) (registry : LocaleRegistry := .known) :
    Run MadeContext := do
  let session ← get
  let (made, store) ← ofExcept (session.store.createStrict code registry)
  modify fun s => { s with store := store }
  return made

end Run

end DatePattern
