import DatePattern.Localizer.Call

/-! Names of eras, months, quarters, weekdays and halves of the day. -/
namespace DatePattern

/-- A value for each of the three widths that most names come in. -/
structure ThreeWidths (α : Type) where
  narrow : α
  abbreviated : α
  wide : α

/-- The value of a width. The short width is the abbreviated one. -/
def ThreeWidths.get {α : Type} (t : ThreeWidths α) : Width → α
  | .narrow => t.narrow
  | .short => t.abbreviated
  | .abbreviated => t.abbreviated
  | .wide => t.wide

/-- A value for each of the four widths that weekdays come in. -/
structure FourWidths (α : Type) where
  narrow : α
  short : α
  abbreviated : α
  wide : α

def FourWidths.get {α : Type} (t : FourWidths α) : Width → α
  | .narrow => t.narrow
  | .short => t.short
  | .abbreviated => t.abbreviated
  | .wide => t.wide

/-- A value within a date and one on its own. -/
structure ByContext (α : Type) where
  formatting : α
  standalone : α

namespace ByContext

def get {α : Type} (t : ByContext α) : NameContext → α
  | .formatting => t.formatting
  | .standalone => t.standalone

def inBoth {α : Type} (x : α) : ByContext α := ⟨x, x⟩

/-- A value within a date, then one on its own. -/
def inEach {α : Type} (x y : α) : ByContext α := ⟨x, y⟩

end ByContext

/-- The names of a locale. Eras go from the earlier one, months from January, quarters from the
first, weekdays from Sunday, halves of the day from the forenoon; where a locale has no names for
the halves of the day there is nothing. -/
structure NameTable where
  eras : ThreeWidths (List String)
  periods : ThreeWidths (Option (String × String))
  months : ByContext (ThreeWidths (List String))
  quarters : ByContext (ThreeWidths (List String))
  weekdays : ByContext (FourWidths (List String))

end DatePattern
