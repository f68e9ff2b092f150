import DatePattern.Proofs.Moment.Instant
import DatePattern.Record.Moment

/-! Which integers make a moment: those of a civil date and a time of day, and no others. Behind the
month and before the other fields the size of the instant is looked at, which has to be that of a
double. -/
namespace DatePattern

/-- A field of a reading with its name and its bounds. -/
structure BoundedField where
  name : String
  low : Int
  high : Int
  value : Int

def BoundedField.Holds (b : BoundedField) : Prop := b.low ≤ b.value ∧ b.value ≤ b.high

namespace WallClock

variable {w : WallClock}

/-- The fields that have bounds, in the order in which they are looked at. A year has none. -/
def boundedFields (w : WallClock) : List BoundedField :=
  [⟨"month", 0, 11, w.month⟩, ⟨"day", 1, monthLength w.year (w.month + 1), w.day⟩,
    ⟨"hour", 0, 23, w.hour⟩, ⟨"minute", 0, 59, w.minute⟩, ⟨"second", 0, 59, w.second⟩,
    ⟨"millisecond", 0, 999, w.millisecond⟩]

/-- Each field holds to its bounds: the reading is a civil date and a time of day. -/
def HoldsToBounds (w : WallClock) : Prop := ∀ b ∈ w.boundedFields, b.Holds

theorem inRange_iff_holdsToBounds : w.InRange ↔ w.HoldsToBounds := by
  simp [InRange, MonthInRange, HoldsToBounds, boundedFields, BoundedField.Holds]

/-- The fault is about a field that is outside its bounds, and gives its name and its bounds. -/
def IsFaultOf (w : WallClock) (f : FieldFault) : Prop :=
  ∃ b ∈ w.boundedFields, ¬ b.Holds ∧ f = ⟨b.name, b.low, b.high, numeral? b.value⟩

theorem isFaultOf_monthFault (hmonth : ¬ w.MonthInRange) : w.IsFaultOf w.monthFault :=
  ⟨_, .head _, hmonth, rfl⟩

/-- One check in a row: behind it the field holds to its bounds. -/
theorem isFaultOf_check {b : BoundedField} {_ : Decidable b.Holds} (hmem : b ∈ w.boundedFields)
    {later : FieldFault} (hlater : b.Holds → w.IsFaultOf later) :
    w.IsFaultOf (if ¬ b.Holds then ⟨b.name, b.low, b.high, numeral? b.value⟩ else later) := by
  by_cases h : b.Holds
  · rw [if_neg (not_not_intro h)]
    exact hlater h
  · rw [if_pos h]
    exact ⟨b, hmem, h, rfl⟩

theorem isFaultOf_firstFault (hw : ¬ w.InRange) : w.IsFaultOf w.firstFault := by
  have hmem (k : Fin 6) : w.boundedFields[k] ∈ w.boundedFields := List.getElem_mem _
  refine isFaultOf_check (hmem 0) fun hmonth => ?_
  refine isFaultOf_check (hmem 1) fun hday => ?_
  refine isFaultOf_check (hmem 2) fun hhour => ?_
  refine isFaultOf_check (hmem 3) fun hminute => ?_
  refine isFaultOf_check (hmem 4) fun hsecond => ?_
  -- All other fields hold to their bounds, so it is the last that does not.
  exact ⟨_, hmem 5, fun hlast => hw ⟨hmonth, hday, hhour, hminute, hsecond, hlast⟩, rfl⟩

/-- The instant when a clock at the offset shows the reading is larger than the doubles. It is
computed where the month is one. -/
def IsBeyondDoubles (w : WallClock) (offset : Int) : Prop :=
  (0 ≤ w.month ∧ w.month ≤ 11) ∧ Binary64.overflowBound ≤ (w.toMs - offset * msPerMinute).natAbs

end WallClock

namespace Moment

variable {w : WallClock} {offset : Int}

theorem holdsInt_eq_true_iff (hmonth : w.MonthInRange) :
    Binary64.holdsInt (w.toMs - offset * msPerMinute) = true ↔ ¬ w.IsBeyondDoubles offset := by
  rw [Binary64.holdsInt, decide_eq_true_eq, WallClock.IsBeyondDoubles, not_and, Nat.not_le]
  exact ⟨fun h _ => h, fun h => h hmonth⟩

theorem ofWallClock_of_isBeyondDoubles (h : w.IsBeyondDoubles offset) :
    ofWallClock w offset = .error (.instant .integerTooLarge) := by
  have hmonth : w.MonthInRange := h.1
  have hlarge : Binary64.holdsInt (w.toMs - offset * msPerMinute) = false := by
    rw [← Bool.not_eq_true, holdsInt_eq_true_iff hmonth, Classical.not_not]
    exact h
  rw [ofWallClock, if_pos hmonth, make, if_pos hlarge]

theorem exists_ofWallClock (hw : w.InRange)
    (hheld : Binary64.holdsInt (w.toMs - offset * msPerMinute) = true) :
    ∃ m, ofWallClock w offset = .ok m ∧ m.isValid = true ∧ m.wall = w ∧ m.offset = offset ∧
      m.instant = some (w.toMs - offset * msPerMinute) := by
  refine ⟨⟨w, some _, offset, fun _ => hw⟩, ?_, rfl, rfl, rfl, rfl⟩
  exact ofWallClock_eq_ok_iff.mpr ⟨hheld, hw, rfl, rfl, rfl⟩

theorem exists_ofWallClock_eq_field (hw : ¬ w.InRange)
    (hheld : w.MonthInRange → Binary64.holdsInt (w.toMs - offset * msPerMinute) = true) :
    ∃ f, ofWallClock w offset = .error (.field f) ∧ w.IsFaultOf f := by
  unfold ofWallClock
  split
  case isFalse hmonth => exact ⟨w.monthFault, rfl, WallClock.isFaultOf_monthFault hmonth⟩
  case isTrue hmonth =>
    have hnot : ¬ Binary64.holdsInt (w.toMs - offset * msPerMinute) = false := by
      rw [hheld hmonth]
      decide
    exact ⟨w.firstFault, (if_neg hnot).trans (dif_neg hw), WallClock.isFaultOf_firstFault hw⟩

end Moment

namespace Dated

theorem ofWallClock_ofIntegers (w : WallClock) (ms offset : Int) :
    ofWallClock (.ofIntegers w ms offset) = ofMoment (Moment.ofWallClock w offset) := rfl

/-- Integers of any size, the offset among them, make a moment exactly when they are those of a civil
date and a time of day, and the moment has them for its fields. Otherwise a field that is outside its
bounds is complained about. What comes in between is the size of the instant: beyond the doubles
neither happens, whether the fields hold to their bounds or not. There is no other outcome. -/
theorem ofWallClock_accepts (w : WallClock) (ms offset : Int) :
    ((∃ m, ofWallClock (.ofIntegers w ms offset) = .ok (.moment m) ∧ m.isValid = true ∧ m.wall = w ∧
        m.offset = offset ∧ m.instant = some (w.toMs - offset * msPerMinute)) ↔
      w.HoldsToBounds ∧ ¬ w.IsBeyondDoubles offset) ∧
    ((∃ f, ofWallClock (.ofIntegers w ms offset) = .error (.moment (.field f)) ∧ w.IsFaultOf f) ↔
      ¬ w.HoldsToBounds ∧ ¬ w.IsBeyondDoubles offset) ∧
    (ofWallClock (.ofIntegers w ms offset) = .error (.moment (.instant .integerTooLarge)) ↔
      w.IsBeyondDoubles offset) := by
  rw [ofWallClock_ofIntegers, ← WallClock.inRange_iff_holdsToBounds]
  by_cases hbeyond : w.IsBeyondDoubles offset
  case pos =>
    rw [Moment.ofWallClock_of_isBeyondDoubles hbeyond]
    simp [ofMoment, Except.map, Except.mapError, hbeyond]
  case neg =>
    by_cases hw : w.InRange
    case pos =>
      have hheld := (Moment.holdsInt_eq_true_iff hw.1).mpr hbeyond
      obtain ⟨m, hm, hparts⟩ := Moment.exists_ofWallClock hw hheld
      rw [hm]
      simp [ofMoment, Except.map, Except.mapError, hbeyond, hw, hparts]
    case neg =>
      obtain ⟨f, hf, hfault⟩ := Moment.exists_ofWallClock_eq_field hw fun hmonth =>
        (Moment.holdsInt_eq_true_iff hmonth).mpr hbeyond
      rw [hf]
      simp [ofMoment, Except.map, Except.mapError, hbeyond, hw, hfault]

/-- In the year ten to the four hundredth the first of January is refused, and so is its thirty-second,
of which nothing is said but that the instant is too large. -/
theorem ofWallClock_farYear_fails :
    let january (day : Int) : WallClock := ⟨tenTo 400, 0, day, 0, 0, 0, 0⟩
    ((january 1).HoldsToBounds ∧ ofWallClock (.ofIntegers (january 1) 0 0) =
      .error (.moment (.instant .integerTooLarge))) ∧
    (¬ (january 32).HoldsToBounds ∧ ofWallClock (.ofIntegers (january 32) 0 0) =
      .error (.moment (.instant .integerTooLarge))) := by
  have hfirst : (⟨tenTo 400, 0, 1, 0, 0, 0, 0⟩ : WallClock).IsBeyondDoubles 0 :=
    ⟨by decide, by decide +kernel⟩
  have hlast : (⟨tenTo 400, 0, 32, 0, 0, 0, 0⟩ : WallClock).IsBeyondDoubles 0 :=
    ⟨by decide, by decide +kernel⟩
  refine ⟨⟨WallClock.inRange_iff_holdsToBounds.mp (by decide +kernel), ?_⟩,
    mt WallClock.inRange_iff_holdsToBounds.mpr (by decide +kernel), ?_⟩
  · rw [ofWallClock_ofIntegers, Moment.ofWallClock_of_isBeyondDoubles hfirst]
    rfl
  · rw [ofWallClock_ofIntegers, Moment.ofWallClock_of_isBeyondDoubles hlast]
    rfl

end Dated

end DatePattern
