import DatePattern.Argument.Fault
import DatePattern.Moment.Stamp

/-! Values of classes that a caller defines. What they are asked for they compute by code of the
caller's, which may fail. -/
namespace DatePattern

/-- An object of a class that a caller defines: the name of the class, the object's literal, and its
text for reading if the class has one of its own. -/
structure Foreign where
  kindName : String
  literal : Reply String
  ownText? : Option (Reply String)
deriving DecidableEq

/-- A date-time in a zone of a class that a caller defines. The zone is asked for the offset. -/
@[ext]
structure ZonedStamp where
  date : CivilDate
  time : ClockTime
  offset : Reply (Option Int)
  zoneLiteral : Reply String
  date_inRange : date.HasFourDigitYear ∧ date.IsValid
  time_inRange : time.InRange
  offset_inRange : ∀ given, offset = .gives given → ∀ us ∈ given, IsOffset us

instance : DecidableEq ZonedStamp := fun _ _ =>
  decidable_of_decidable_of_iff ZonedStamp.ext_iff.symm

namespace ZonedStamp

/-- The date-time with the offset that its zone gives. -/
def stamp (z : ZonedStamp) : Except ArgumentFault Stamp :=
  match h : z.offset with
  | .gives given =>
    .ok ⟨z.date, z.time, given, z.date_inRange, z.time_inRange, z.offset_inRange given h⟩
  | .raises r => .error (.raised r)

variable {z : ZonedStamp}

theorem stamp_of_raises {r : Raised} (h : z.offset = .raises r) : z.stamp = .error (.raised r) := by
  unfold stamp
  split
  case h_1 given hgiven => cases hgiven.symm.trans h
  case h_2 r' hr' =>
    cases hr'.symm.trans h
    rfl

theorem exists_stamp (h : ∀ r, z.offset ≠ .raises r) : ∃ s, z.stamp = .ok s := by
  unfold stamp
  split
  case h_1 => exact ⟨_, rfl⟩
  case h_2 r hr => exact absurd hr (h r)

/-- The literal needs no offset. -/
def literal (z : ZonedStamp) : Except ArgumentFault String := do
  return stampLiteral z.date z.time (some (← z.zoneLiteral.result))

end ZonedStamp

end DatePattern
