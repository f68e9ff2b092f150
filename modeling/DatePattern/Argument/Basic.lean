import DatePattern.Argument.Atom

/-! Values of any shape that a caller may pass. -/
namespace DatePattern

/-- A value: one without parts, a list, a mapping in the order of its keys, or a record of the
fields of a moment, which may be of any kind. -/
inductive Argument
  | atom (a : Atom)
  | list (items : List Argument)
  | mapping (entries : List (Argument × Argument))
  | record (fields : MomentFields Argument)

instance : Inhabited Argument := ⟨.atom .absent⟩

namespace Argument

def absent : Argument := .atom .absent

def text (s : String) : Argument := .atom (.text s)

def number (x : Number) : Argument := .atom (.number x)

def int (n : Int) : Argument := .atom (.int n)

def flag (b : Bool) : Argument := .atom (.flag b)

mutual

def decEq : (x y : Argument) → Decidable (x = y)
  | atom a, atom b => if h : a = b then .isTrue (by rw [h]) else .isFalse (by simpa using h)
  | list xs, list ys =>
    match decEqItems xs ys with
    | .isTrue h => .isTrue (by rw [h])
    | .isFalse h => .isFalse (by simpa using h)
  | mapping xs, mapping ys =>
    match decEqEntries xs ys with
    | .isTrue h => .isTrue (by rw [h])
    | .isFalse h => .isFalse (by simpa using h)
  | record f, record g =>
    match decEqFields f g with
    | .isTrue h => .isTrue (by rw [h])
    | .isFalse h => .isFalse (by simpa using h)
  | atom _, list _ => .isFalse (by simp)
  | atom _, mapping _ => .isFalse (by simp)
  | atom _, record _ => .isFalse (by simp)
  | list _, atom _ => .isFalse (by simp)
  | list _, mapping _ => .isFalse (by simp)
  | list _, record _ => .isFalse (by simp)
  | mapping _, atom _ => .isFalse (by simp)
  | mapping _, list _ => .isFalse (by simp)
  | mapping _, record _ => .isFalse (by simp)
  | record _, atom _ => .isFalse (by simp)
  | record _, list _ => .isFalse (by simp)
  | record _, mapping _ => .isFalse (by simp)
termination_by structural x => x

def decEqItems : (xs ys : List Argument) → Decidable (xs = ys)
  | [], [] => .isTrue rfl
  | x :: xs, y :: ys =>
    match decEq x y, decEqItems xs ys with
    | .isTrue h, .isTrue k => .isTrue (by rw [h, k])
    | .isFalse h, _ => .isFalse (by simp [h])
    | _, .isFalse k => .isFalse (by simp [k])
  | [], _ :: _ => .isFalse (by simp)
  | _ :: _, [] => .isFalse (by simp)
termination_by structural x => x

def decEqEntry : (x y : Argument × Argument) → Decidable (x = y)
  | (k, v), (l, w) =>
    match decEq k l, decEq v w with
    | .isTrue h, .isTrue i => .isTrue (by rw [h, i])
    | .isFalse h, _ => .isFalse (by simp [h])
    | _, .isFalse i => .isFalse (by simp [i])
termination_by structural x => x

def decEqEntries : (xs ys : List (Argument × Argument)) → Decidable (xs = ys)
  | [], [] => .isTrue rfl
  | x :: xs, y :: ys =>
    match decEqEntry x y, decEqEntries xs ys with
    | .isTrue h, .isTrue k => .isTrue (by rw [h, k])
    | .isFalse h, _ => .isFalse (by simp [h])
    | _, .isFalse k => .isFalse (by simp [k])
  | [], _ :: _ => .isFalse (by simp)
  | _ :: _, [] => .isFalse (by simp)
termination_by structural x => x

def decEqFields : (f g : MomentFields Argument) → Decidable (f = g)
  | ⟨a, b, c, d, e, f, g, h, i⟩, ⟨a', b', c', d', e', f', g', h', i'⟩ =>
    match decEq a a', decEq b b', decEq c c', decEq d d', decEq e e', decEq f f', decEq g g',
      decEq h h', decEq i i' with
    | .isTrue p, .isTrue q, .isTrue r, .isTrue s, .isTrue t, .isTrue u, .isTrue v, .isTrue w,
      .isTrue x => .isTrue (by rw [p, q, r, s, t, u, v, w, x])
    | .isFalse p, _, _, _, _, _, _, _, _ => .isFalse (by simp [p])
    | _, .isFalse p, _, _, _, _, _, _, _ => .isFalse (by simp [p])
    | _, _, .isFalse p, _, _, _, _, _, _ => .isFalse (by simp [p])
    | _, _, _, .isFalse p, _, _, _, _, _ => .isFalse (by simp [p])
    | _, _, _, _, .isFalse p, _, _, _, _ => .isFalse (by simp [p])
    | _, _, _, _, _, .isFalse p, _, _, _ => .isFalse (by simp [p])
    | _, _, _, _, _, _, .isFalse p, _, _ => .isFalse (by simp [p])
    | _, _, _, _, _, _, _, .isFalse p, _ => .isFalse (by simp [p])
    | _, _, _, _, _, _, _, _, .isFalse p => .isFalse (by simp [p])
termination_by structural x => x

end

instance : DecidableEq Argument := decEq

def kindName : Argument → String
  | atom a => a.kindName
  | list _ => "list"
  | mapping _ => "dict"
  | record _ => "CalendarValue"

def fullKindName : Argument → String
  | atom a => a.fullKindName
  | x => x.kindName

mutual

/-- The text of a value as a literal. -/
def literal : Argument → Except ArgumentFault String
  | atom a => a.literal
  | list items => do
    let parts ← itemLiterals items
    return "[" ++ ", ".intercalate parts ++ "]"
  | mapping entries => do
    let parts ← entryLiterals entries
    return "\x7b" ++ ", ".intercalate parts ++ "\x7d"
  | record fields => do return (← fieldLiterals fields).literal
termination_by structural x => x

def itemLiterals : List Argument → Except ArgumentFault (List String)
  | [] => .ok []
  | x :: xs => do
    let first ← x.literal
    let rest ← itemLiterals xs
    return first :: rest
termination_by structural x => x

def entryLiteral : Argument × Argument → Except ArgumentFault String
  | (k, v) => do
    let key ← k.literal
    let value ← v.literal
    return key ++ ": " ++ value
termination_by structural x => x

def entryLiterals : List (Argument × Argument) → Except ArgumentFault (List String)
  | [] => .ok []
  | entry :: rest => do
    let first ← entryLiteral entry
    let others ← entryLiterals rest
    return first :: others
termination_by structural x => x

def fieldLiterals : MomentFields Argument → Except ArgumentFault (MomentFields String)
  | ⟨year, month, day, hour, minute, second, millisecond, instant, offset⟩ => do
    return ⟨← year.literal, ← month.literal, ← day.literal, ← hour.literal, ← minute.literal,
      ← second.literal, ← millisecond.literal, ← instant.literal, ← offset.literal⟩
termination_by structural x => x

end

/-- The text of a value for reading. -/
def display : Argument → Except ArgumentFault String
  | atom a => a.display
  | x => x.literal

def isTruthy : Argument → Bool
  | atom a => a.isTruthy
  | list items => !items.isEmpty
  | mapping entries => !entries.isEmpty
  | record _ => true

def number? : Argument → Option Number
  | atom a => a.number?
  | _ => none

/-- The integer that stands for a value where one has to: a flag counts as zero or one. -/
def integer? (x : Argument) : Option Int :=
  match x.number? with
  | some (.integer n) => some n
  | _ => none

/-- The integer that a value is. A flag is none here. -/
def plainInteger? : Argument → Option Int
  | atom (.number (.integer n)) => some n
  | _ => none

def equalsInt (x : Argument) (n : Int) : Except ArgumentFault Bool :=
  match x with
  | atom a => a.equals (.int n)
  | _ => .ok false

mutual

/-- Whether a value can be a key: lists and mappings cannot, nor what holds them. -/
def checkKey : Argument → Except ArgumentFault Unit
  | atom a => a.checkKey
  | list _ => .error (.unhashable "list")
  | mapping _ => .error (.unhashable "dict")
  | record fields => checkKeyFields fields
termination_by structural x => x

def checkKeyFields : MomentFields Argument → Except ArgumentFault Unit
  | ⟨year, month, day, hour, minute, second, millisecond, instant, offset⟩ => do
    year.checkKey
    month.checkKey
    day.checkKey
    hour.checkKey
    minute.checkKey
    second.checkKey
    millisecond.checkKey
    instant.checkKey
    offset.checkKey
termination_by structural x => x

end

end Argument

/-- Equality of a moment and a record of fields, field by field. What is not an instant in both
differs. -/
def Moment.equalsRecord (m : Moment) (f : MomentFields Argument) : Except ArgumentFault Bool := do
  let tests := [(f.year, m.wall.year), (f.month, m.wall.month), (f.day, m.wall.day),
    (f.hour, m.wall.hour), (f.minute, m.wall.minute), (f.second, m.wall.second),
    (f.millisecond, m.wall.millisecond)]
  if ← tests.allM fun (x, n) => x.equalsInt n then
    match m.instant with
    | some ms => if ← f.instant.equalsInt ms then f.offset.equalsInt m.offset else return false
    | none => return false
  else return false

namespace Argument

mutual

/-- Equality by value. Two mappings are equal in any order of their keys. A decimal that signals
makes a comparison with a number fail. -/
def equals : Argument → Argument → Except ArgumentFault Bool
  | atom a, atom b => a.equals b
  | list xs, list ys => if xs.length = ys.length then equalsItems xs ys else .ok false
  | mapping xs, mapping ys => if xs.length = ys.length then equalsEntries xs ys else .ok false
  | record f, record g => equalsFields f g
  | atom (.moment m), record f => m.equalsRecord f
  | record f, atom (.moment m) => m.equalsRecord f
  | _, _ => .ok false
termination_by structural x => x

/-- Equality of lists of one length, up to the first items that differ. -/
def equalsItems : List Argument → List Argument → Except ArgumentFault Bool
  | x :: xs, y :: ys => do if ← x.equals y then equalsItems xs ys else return false
  | _, _ => .ok true
termination_by structural x => x

def equalsEntry :
    Argument × Argument → List (Argument × Argument) → Except ArgumentFault Bool
  | (k, v), ys =>
    match ys.find? fun entry => (k.equals entry.1).toOption == some true with
    | some (_, w) => v.equals w
    | none => .ok false
termination_by structural x => x

def equalsEntries :
    List (Argument × Argument) → List (Argument × Argument) → Except ArgumentFault Bool
  | [], _ => .ok true
  | entry :: rest, ys => do
    if ← equalsEntry entry ys then equalsEntries rest ys else return false
termination_by structural x => x

def equalsFields : MomentFields Argument → MomentFields Argument → Except ArgumentFault Bool
  | ⟨a, b, c, d, e, f, g, h, i⟩, ⟨a', b', c', d', e', f', g', h', i'⟩ => do
    if !(← a.equals a') then return false
    if !(← b.equals b') then return false
    if !(← c.equals c') then return false
    if !(← d.equals d') then return false
    if !(← e.equals e') then return false
    if !(← f.equals f') then return false
    if !(← g.equals g') then return false
    if !(← h.equals h') then return false
    i.equals i'
termination_by structural x => x

end

def sameKey (x y : Argument) : Bool := (x.equals y).toOption == some true

def lookup? (entries : List (Argument × Argument)) (key : Argument) : Option Argument :=
  (entries.find? fun entry => key.sameKey entry.1).map Prod.snd

/-- A mapping with a key set to a value. A key that is already there keeps its place. -/
def setEntry (entries : List (Argument × Argument)) (key : Argument) (value : Argument) :
    List (Argument × Argument) :=
  match entries with
  | [] => [(key, value)]
  | (k, v) :: rest =>
    if k.sameKey key then (k, value) :: rest else (k, v) :: setEntry rest key value

/-- The entries of pairs that are set one after the other. A pair may itself be a fault; the first
fault, or the first key that cannot be one, is reported. -/
def entriesOf {ε : Type} (ofKey : ArgumentFault → ε) :
    List (Argument × Argument) → List (Except ε (Argument × Argument)) →
    Except ε (List (Argument × Argument))
  | entries, [] => .ok entries
  | entries, pair :: rest => do
    let (key, value) ← pair
    key.checkKey.mapError ofKey
    entriesOf ofKey (setEntry entries key value) rest

end Argument

end DatePattern
