/-! The fields that a moment is given by. -/
namespace DatePattern

/-- A value for each field of a moment: of the wall clock, the instant in milliseconds since the
start of 1970, and the offset in minutes. Months are counted from zero. -/
structure MomentFields (α : Type) where
  year : α
  month : α
  day : α
  hour : α
  minute : α
  second : α
  millisecond : α
  instant : α
  offset : α

/-- The values of the fields, from the year to the offset. -/
def MomentFields.values {α : Type} (f : MomentFields α) : List α :=
  [f.year, f.month, f.day, f.hour, f.minute, f.second, f.millisecond, f.instant, f.offset]

end DatePattern
