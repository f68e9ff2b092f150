import DatePattern.Locale.Context

/-! A bounded store of locale contexts, which drops what was used least recently. -/
namespace DatePattern

/-- A context that was made, with its number in the order of making. Two contexts are the same one
when their numbers are equal. -/
structure MadeContext where
  serial : Nat
  context : LocaleContext
deriving DecidableEq, Repr

/-- Contexts under their normalized codes, the least recently used first, and the number of
contexts made so far, in the store or beside it. -/
structure LocaleStore where
  entries : List (String × MadeContext)
  made : Nat
deriving DecidableEq, Repr

namespace LocaleStore

/-- The most entries a store holds. -/
def capacity : Nat := 128

def empty : LocaleStore := ⟨[], 0⟩

def size (s : LocaleStore) : Nat := s.entries.length

def codes (s : LocaleStore) : List String := s.entries.map Prod.fst

def find? (s : LocaleStore) (key : String) : Option MadeContext := s.entries.lookup key

/-- The store after a use of an entry: the entry is the last one. -/
def touch (s : LocaleStore) (key : String) (entry : MadeContext) : LocaleStore :=
  { s with entries := (s.entries.filter fun e => e.1 != key) ++ [(key, entry)] }

/-- The store with a new entry. A full store drops its first one. -/
def insert (s : LocaleStore) (key : String) (context : LocaleContext) : LocaleStore where
  entries := (if capacity ≤ s.size then s.entries.drop 1 else s.entries) ++
    [(key, ⟨s.made, context⟩)]
  made := s.made + 1

/-- The context of a code: that of the store under its normalized form, or a new one that goes
into the store. A code that names no locale gets the locale of last resort. -/
def create (s : LocaleStore) (code : String) (registry : LocaleRegistry := .known) :
    MadeContext × LocaleStore :=
  let key := normalizeCode code
  match s.find? key with
  | some entry => (entry, s.touch key entry)
  | none => (⟨s.made, .lenient code registry⟩, s.insert key (.lenient code registry))

/-- The warning that goes with `create`: a code that names no locale and is not in the store. -/
def createWarning? (s : LocaleStore) (code : String) (registry : LocaleRegistry := .known) :
    Option String :=
  match s.find? (normalizeCode code) with
  | some _ => none
  | none => LocaleContext.warning? code registry

/-- A new context of a code that names a locale. The entries stay as they are. -/
def createStrict (s : LocaleStore) (code : String) (registry : LocaleRegistry := .known) :
    Except Fault (MadeContext × LocaleStore) :=
  (LocaleContext.ofCode code registry).map fun context =>
    (⟨s.made, context⟩, { s with made := s.made + 1 })

def clear (s : LocaleStore) : LocaleStore := { s with entries := [] }

end LocaleStore

end DatePattern
