import DatePattern.Argument.Arithmetic

/-! Parts of values of any kind: items by their number, entries by their key, lengths and
beginnings. -/
namespace DatePattern

/-- The item at a place. Negative places count from the end. -/
def itemAt? {α : Type} (items : List α) (place : Int) : Option α :=
  let place := if place < 0 then place + items.length else place
  if place < 0 then none else items[place.toNat]?

namespace Argument

/-- The place of an item, as an integer that fits a word. -/
def place (x : Argument) : Except ArgumentFault Int :=
  match x.integer? with
  | some n =>
    if n < -(twoTo 63 : Int) ∨ twoTo 63 ≤ n then .error .indexBeyondWord else .ok n
  | none => .error (.tupleIndexKind x.fullKindName)

/-- The item of a fixed row at a place. -/
def itemOf {α : Type} (items : List α) (x : Argument) : Except ArgumentFault α := do
  match itemAt? items (← x.place) with
  | some item => return item
  | none => throw .tupleIndex

/-- The value under a number in a list whose first place has the given one. -/
def valueAt? {α : Type} (x : Argument) : List α → Int → Option α
  | [], _ => none
  | item :: rest, place => if x.sameKey (int place) then some item else valueAt? x rest (place + 1)

/-- The value that is stored under a number, counted from a first one on. -/
def valueOf {α : Type} (items : List α) (first : Int) (x : Argument) : Except ArgumentFault α := do
  x.checkKey
  match valueAt? x items first with
  | some item => return item
  | none => throw (.missingKey (← x.literal))

@[simp] theorem sameKey_int (a b : Int) : (int a).sameKey (int b) = (a == b) := by
  have h : (int a).equals (int b) = .ok (a == b) := equalsInt_int a b
  simp [sameKey, h, Except.toOption]

theorem valueAt?_int {α : Type} (n : Int) (items : List α) (place : Int) :
    valueAt? (int n) items place = if n < place then none else items[(n - place).toNat]? := by
  induction items generalizing place with
  | nil => simp [valueAt?]
  | cons item rest ih =>
    rw [valueAt?, ih, sameKey_int]
    rcases Int.lt_trichotomy n place with h | h | h
    · have hs : n < place + 1 := by omega
      simp [h, hs, Int.ne_of_lt h]
    · simp [h]
    · have hp : (n - place).toNat = (n - (place + 1)).toNat + 1 := by omega
      have hle : place + 1 ≤ n := by omega
      simp [hp, Int.ne_of_gt h, Int.not_lt.2 (Int.le_of_lt h), Int.not_lt.2 hle]

/-- The first item: the first character of a text, the first item of a list, the first byte, or the
entry of a mapping under zero. -/
def first (x : Argument) : Except ArgumentFault Argument :=
  match x with
  | atom (.text s) =>
    match s.toList with
    | c :: _ => .ok (text c.toString)
    | [] => .error .textIndex
  | atom (.bytes bs) =>
    match bs with
    | b :: _ => .ok (int b.toNat)
    | [] => .error .bytesIndex
  | list items =>
    match items with
    | item :: _ => .ok item
    | [] => .error .listIndex
  | mapping entries =>
    match lookup? entries (int 0) with
    | some value => .ok value
    | none => .error (.missingKey "0")
  | x => .error (.noItems x.fullKindName)

def length (x : Argument) : Except ArgumentFault Int :=
  match x with
  | atom (.text s) => .ok s.toList.length
  | atom (.bytes bs) => .ok bs.length
  | list items => .ok items.length
  | mapping entries => .ok entries.length
  | x => .error (.noLength x.fullKindName)

end Argument

end DatePattern
