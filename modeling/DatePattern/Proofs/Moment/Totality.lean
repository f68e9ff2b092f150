import DatePattern.Proofs.Moment.Acceptance
import DatePattern.Proofs.Moment.IsoCoercion
import DatePattern.Proofs.Numeral.DigitLimit
import DatePattern.Record.Field

/-! Reading a date fails only for a date-time whose zone fails to give an offset, and what it gives
otherwise is the invalid moment or one whose instant is within the bound. -/
namespace DatePattern

/-- The fields of a reading stay in a range of their own; the day may be too long for its month. -/
def WallClock.FieldsInRange (w : WallClock) : Prop :=
  w.MonthInRange ∧ (1 ≤ w.day ∧ w.day ≤ 31) ∧
  (0 ≤ w.hour ∧ w.hour ≤ 23) ∧ (0 ≤ w.minute ∧ w.minute ≤ 59) ∧
  (0 ≤ w.second ∧ w.second ≤ 59) ∧ (0 ≤ w.millisecond ∧ w.millisecond ≤ 999)

theorem WallClock.inRange_of_date {year month day hour minute second millisecond : Int}
    (hdate : (⟨year, month, day⟩ : CivilDate).IsValid)
    (htime : (0 ≤ hour ∧ hour ≤ 23) ∧ (0 ≤ minute ∧ minute ≤ 59) ∧ (0 ≤ second ∧ second ≤ 59) ∧
      (0 ≤ millisecond ∧ millisecond ≤ 999)) :
    (⟨year, month - 1, day, hour, minute, second, millisecond⟩ : WallClock).InRange := by
  obtain ⟨hm0, hm1, hday⟩ := hdate
  refine ⟨⟨Int.sub_nonneg_of_le hm0, Int.sub_le_sub_right hm1 1⟩, ?_, htime⟩
  simp only [Int.sub_add_cancel]
  exact hday

theorem CivilDate.isValid_newYear (year : Int) : (⟨year, 1, 1⟩ : CivilDate).IsValid :=
  ⟨(by decide : (1 : Int) ≤ 1), (by decide : (1 : Int) ≤ 12), (by decide : (1 : Int) ≤ 1),
    (by decide : (1 : Int) ≤ 31)⟩

theorem WallClock.InRange.fields {w : WallClock} (hw : w.InRange) : w.FieldsInRange := by
  obtain ⟨hmonth, ⟨hd0, hd1⟩, htime⟩ := hw
  exact ⟨hmonth, ⟨hd0, hd1.trans (monthLength_le _ _)⟩, htime⟩

theorem WallClock.natAbs_toMs_le {w : WallClock} (hw : w.FieldsInRange) (days : Int)
    (h : w.date.dayCount.natAbs ≤ days) : w.toMs.natAbs ≤ (days + 1) * msPerDay := by
  obtain ⟨-, -, hhour, hminute, hsecond, hms⟩ := hw
  simp only [WallClock.toMs, msPerDay, msPerHour, msPerMinute]
  omega

theorem CivilDate.natAbs_dayCount_le_of_year {d : CivilDate} (hm : 1 ≤ d.month ∧ d.month ≤ 12)
    (hd : 1 ≤ d.day ∧ d.day ≤ 31) (hy : d.year.natAbs < 1000000) :
    d.dayCount.natAbs ≤ 400000000 := by
  obtain ⟨hm0, hm1⟩ := hm
  simp only [dayCount, daysBeforeYear, daysBeforeMonth]
  split <;> split <;> omega

namespace Moment

variable {m : Moment} {w : WallClock} {s : Stamp} {year : Int}

/-- No reading in a year of six digits is so far off that its instant is beyond the doubles. -/
theorem natAbs_toMs_le_of_year (hw : w.FieldsInRange) (hy : w.year.natAbs < 1000000) :
    w.toMs.natAbs ≤ 5 * maxEpochMs := by
  have hcount : w.date.dayCount.natAbs ≤ 400000000 := by
    refine CivilDate.natAbs_dayCount_le_of_year ?_ hw.2.1 hy
    have hmonth := hw.1
    simp only [WallClock.date, WallClock.MonthInRange] at *
    omega
  have hms := WallClock.natAbs_toMs_le hw 400000000 (by omega)
  simp only [msPerDay, maxEpochMs] at *
  omega

/-- The clock shows the instant at the offset to the millisecond. -/
def IsExact (m : Moment) : Prop :=
  ∀ ms ∈ m.instant, m.wall.toMs = ms + m.offset * msPerMinute

/-- An exact moment is that of its instant at its offset. -/
theorem IsExact.ofEpoch_eq_ok {ms : Int} (hm : m.IsExact) (hms : m.instant = some ms)
    (hbound : ms.natAbs ≤ maxEpochMs) : ofEpoch (.integer ms) m.offset = .ok m := by
  have hw : m.wall.InRange := m.inRange (by rw [hms]; rfl)
  rw [ofEpoch_integer, ofEpochMs_eq_ok_iff hbound, ← hm ms hms, WallClock.ofMs_toMs hw]
  exact ⟨rfl, hms, rfl⟩

/-- In universal time an existing reading has a moment, which is exact. -/
theorem ofWallClock_of_inRange (hw : w.InRange) (hy : w.year.natAbs < 1000000) :
    ∃ m, ofWallClock w 0 = .ok m ∧ m.instant = some w.toMs ∧ m.IsExact := by
  have hheld : Binary64.holdsInt (w.toMs - 0 * msPerMinute) = true := by
    have hbound := natAbs_toMs_le_of_year hw.fields hy
    exact holdsInt_of_le_maxEpochMs (by omega)
  obtain ⟨m, hm, -, hwall, hoffset, hinstant⟩ := exists_ofWallClock hw hheld
  rw [Int.zero_mul, Int.sub_zero] at hinstant
  refine ⟨m, hm, hinstant, ?_⟩
  intro ms hms
  rw [hwall, hoffset, Int.zero_mul, Int.add_zero]
  exact Option.some.inj (hinstant.symm.trans hms)

end Moment

namespace Stamp

variable {s : Stamp} {year : Int}

/-- The reading of a date-time, in some year. -/
def wallIn (year : Int) (s : Stamp) : WallClock :=
  ⟨year, s.date.month - 1, s.date.day, s.time.hour, s.time.minute, s.time.second,
    s.time.microsecond / 1000⟩

/-- The clock is off universal time by whole minutes, or by nothing that is known. -/
def HasWholeMinutes (s : Stamp) : Prop := ∀ us ∈ s.offset, us % usPerMinute = 0

theorem fieldsInRange_wallIn (year : Int) (s : Stamp) : (s.wallIn year).FieldsInRange := by
  obtain ⟨-, hm0, hm1, hd0, hd1⟩ := s.date_inRange
  obtain ⟨hhour, hminute, hsecond, hus⟩ := s.time_inRange
  have := monthLength_le s.date.year s.date.month
  simp only [WallClock.FieldsInRange, WallClock.MonthInRange, wallIn]
  omega

theorem inRange_wallIn (s : Stamp) : (s.wallIn s.date.year).InRange := by
  obtain ⟨hhour, hminute, hsecond, hus⟩ := s.time_inRange
  exact WallClock.inRange_of_date s.date_inRange.2 ⟨hhour, hminute, hsecond, by omega⟩

/-- No offset is as long as a day. -/
theorem natAbs_offset_le (s : Stamp) : (s.offset.getD 0 / 1000).natAbs ≤ msPerDay := by
  cases ho : s.offset with
  | none => decide
  | some us =>
    obtain ⟨hlow, hhigh⟩ := s.offset_inRange us ho
    simp only [Option.getD_some, usPerDay, msPerDay] at *
    omega

/-- Whole minutes lose nothing when they are brought to smaller units. -/
theorem HasWholeMinutes.offset_eq (h : s.HasWholeMinutes) :
    s.offset.getD 0 / 1000 = (s.offset.getD 0).tdiv usPerMinute * msPerMinute := by
  cases ho : s.offset with
  | none => rfl
  | some us =>
    obtain ⟨minutes, rfl⟩ := Int.dvd_of_emod_eq_zero (h us ho)
    rw [Option.getD_some, Int.mul_tdiv_cancel_left _ (by decide)]
    simp only [usPerMinute, msPerMinute]
    omega

end Stamp

namespace Moment

variable {s : Stamp} {year : Int}

/-- Of a date-time no more is looked at than its reading in the year and its offset. -/
theorem ofStampInYear_eq_bind (year : Int) (s : Stamp) :
    ofStampInYear year s = ofWallClock (s.wallIn year) 0 >>= fun clock =>
      make clock.wall ((s.wallIn year).toMs - s.offset.getD 0 / 1000)
        ((s.offset.getD 0).tdiv usPerMinute) := rfl

theorem holdsInt_wallIn (hy : year.natAbs < 1000000) :
    Binary64.holdsInt ((s.wallIn year).toMs - 0 * msPerMinute) = true := by
  have hbound := natAbs_toMs_le_of_year (s.fieldsInRange_wallIn year) hy
  exact holdsInt_of_le_maxEpochMs (by omega)

/-- Where the reading exists in the year there is a moment, which is exact at whole minutes. -/
theorem ofStampInYear_of_inRange (hy : year.natAbs < 1000000) (hw : (s.wallIn year).InRange) :
    ∃ m, ofStampInYear year s = .ok m ∧
      m.instant = some ((s.wallIn year).toMs - s.offset.getD 0 / 1000) ∧
      (s.HasWholeMinutes → m.IsExact) := by
  let ms := (s.wallIn year).toMs - s.offset.getD 0 / 1000
  let minutes := (s.offset.getD 0).tdiv usPerMinute
  let m : Moment := ⟨s.wallIn year, some ms, minutes, fun _ => hw⟩
  have hclock : ofWallClock (s.wallIn year) 0 =
      .ok ⟨s.wallIn year, some ((s.wallIn year).toMs - 0 * msPerMinute), 0, fun _ => hw⟩ :=
    ofWallClock_eq_ok_iff.mpr ⟨holdsInt_wallIn hy, hw, rfl, rfl, rfl⟩
  have hheld : Binary64.holdsInt ms = true := by
    have hbound := natAbs_toMs_le_of_year (s.fieldsInRange_wallIn year) hy
    have hoffset := s.natAbs_offset_le
    refine holdsInt_of_le_maxEpochMs ?_
    simp only [ms, msPerDay, maxEpochMs] at *
    omega
  have hmake : make (s.wallIn year) ms minutes = .ok m :=
    make_eq_ok_iff.mpr ⟨hheld, hw, rfl, rfl, rfl⟩
  refine ⟨m, ?_, rfl, fun hwhole => ?_⟩
  · rw [ofStampInYear_eq_bind, hclock, ok_bind, hmake]
  · intro instant hinstant
    cases hinstant
    change (s.wallIn year).toMs = ms + minutes * msPerMinute
    rw [← hwhole.offset_eq, Int.sub_add_cancel]

theorem ofStampInYear_of_not_inRange (hy : year.natAbs < 1000000)
    (hw : ¬ (s.wallIn year).InRange) : ∃ f, ofStampInYear year s = .error (.field f) := by
  obtain ⟨f, hf, -⟩ := exists_ofWallClock_eq_field hw fun _ => holdsInt_wallIn hy
  refine ⟨f, ?_⟩
  rw [ofStampInYear_eq_bind, hf]
  rfl

/-- A moment as it is read: the invalid one, or one of an instant within the bound, which gives it
again at its offset if the clock that was read is off by whole minutes. -/
def IsRead (whole : Prop) (m : Moment) : Prop :=
  m = invalid ∨ ∃ ms, m.instant = some ms ∧ ms.natAbs ≤ maxEpochMs ∧
    (whole → ofEpoch (.integer ms) m.offset = .ok m)

section

variable {m : Moment} {whole : Prop}

theorem IsRead.imp {weaker : Prop} (h : m.IsRead whole) (hweaker : weaker → whole) :
    m.IsRead weaker := by
  obtain hinvalid | ⟨ms, hms, hbound, hgiven⟩ := h
  · exact .inl hinvalid
  · exact .inr ⟨ms, hms, hbound, fun hw => hgiven (hweaker hw)⟩

theorem isRead_invalid : invalid.IsRead whole := .inl rfl

theorem IsExact.isRead {ms : Int} (hexact : whole → m.IsExact) (hms : m.instant = some ms)
    (hbound : ms.natAbs ≤ maxEpochMs) : m.IsRead whole :=
  .inr ⟨ms, hms, hbound, fun h => (hexact h).ofEpoch_eq_ok hms hbound⟩

theorem isRead_bounded {ms : Int} (hexact : whole → m.IsExact) (hms : m.instant = some ms) :
    m.bounded.IsRead whole := by
  by_cases hbound : maxEpochMs < ms.natAbs
  · have hinvalid : m.bounded = invalid := by rw [bounded, hms]; exact if_pos hbound
    rw [hinvalid]
    exact isRead_invalid
  · have hself : m.bounded = m := by rw [bounded, hms]; exact if_neg hbound
    rw [hself]
    exact IsExact.isRead hexact hms (by omega)

/-- A date-time shows a day of its own year, and no such day is near the bound. -/
theorem ofStamp_isRead (s : Stamp) : ∃ m, ofStamp s = .ok m ∧ m.IsRead s.HasWholeMinutes := by
  have hw := s.inRange_wallIn
  have hyear : (s.wallIn s.date.year).date.HasFourDigitYear := s.date_inRange.1
  have hy : s.date.year.natAbs < 1000000 := by
    obtain ⟨h1, h9999⟩ := s.date_inRange.1
    omega
  obtain ⟨m, hm, hms, hexact⟩ := ofStampInYear_of_inRange hy hw
  refine ⟨m, hm, IsExact.isRead hexact hms ?_⟩
  have hdays := CivilDate.natAbs_dayCount_le (WallClock.date_isValid hw) hyear
  have hclock := WallClock.natAbs_toMs_le hw.fields 10000000 (by omega)
  have hoffset := s.natAbs_offset_le
  simp only [msPerDay, maxEpochMs] at *
  omega

theorem ofDay_isRead (d : Day) : ∃ m, ofDay d = .ok m ∧ m.IsRead whole := by
  obtain ⟨hyear, hdate⟩ := d.inRange
  have hw : (⟨d.date.year, d.date.month - 1, d.date.day, 0, 0, 0, 0⟩ : WallClock).InRange :=
    WallClock.inRange_of_date hdate (by decide)
  have hy : d.date.year.natAbs < 1000000 := by
    obtain ⟨h1, h9999⟩ := hyear
    omega
  obtain ⟨m, hm, hms, hexact⟩ := ofWallClock_of_inRange hw hy
  exact ⟨m, hm, IsExact.isRead (fun _ => hexact) hms (natAbs_toMs_le hw hyear)⟩

theorem ofEpochMs_isRead (ms : Int) : ∃ m, ofEpochMs ms 0 = .ok m ∧ m.IsRead whole := by
  by_cases hbound : maxEpochMs < ms.natAbs
  · exact ⟨invalid, if_pos hbound, isRead_invalid⟩
  · have hle : ms.natAbs ≤ maxEpochMs := by omega
    let m : Moment := ⟨.ofMs (ms + 0 * msPerMinute), some ms, 0, fun _ => WallClock.ofMs_inRange _⟩
    have hm : ofEpochMs ms 0 = .ok m := (ofEpochMs_eq_ok_iff hle).mpr ⟨rfl, rfl, rfl⟩
    refine ⟨m, hm, .inr ⟨ms, rfl, hle, fun _ => ?_⟩⟩
    rw [ofEpoch_integer]
    exact hm

/-- A double is beyond the bound, or has no place in the order, or has a whole part. -/
theorem exists_epochMs?_binary (x : Binary64) : ∃ ms, epochMs? (.binary x) = .ok ms := by
  cases x with
  | nan => exact ⟨none, rfl⟩
  | infinite negative => exact ⟨none, rfl⟩
  | finite negative significand exponent =>
    let size : Number := .binary (.finite false significand exponent)
    have habs : (Number.binary (.finite negative significand exponent)).abs = .ok size := rfl
    have horder : size.order? (.integer maxEpochMs) =
        .ok (some (compareOfLessAndEq size.fraction (Number.integer maxEpochMs).fraction)) := rfl
    rw [epochMs?, habs, ok_bind, horder, ok_bind]
    cases compareOfLessAndEq size.fraction (Number.integer maxEpochMs).fraction with
    | lt => exact ⟨_, rfl⟩
    | eq => exact ⟨_, rfl⟩
    | gt => exact ⟨_, rfl⟩

theorem ofEpoch_binary_isRead (x : Binary64) :
    ∃ m, ofEpoch (.binary x) 0 = .ok m ∧ m.IsRead whole := by
  obtain ⟨ms, hms⟩ := exists_epochMs?_binary x
  cases ms with
  | none => exact ⟨invalid, by rw [ofEpoch, hms], isRead_invalid⟩
  | some ms =>
    rw [ofEpoch, hms]
    exact ofEpochMs_isRead ms

end

end Moment

theorem digitValue?_lt {c : Char} {d : Nat} (h : digitValue? c = some d) : d < 10 := by
  obtain ⟨first, hfirst, rfl⟩ := Option.map_eq_some_iff.mp h
  have hrange := List.find?_some hfirst
  rw [decide_eq_true_eq] at hrange
  omega

private theorem leadingNumber_go_lt (cs : List Char) (value count : Nat) :
    (leadingNumber.go value count cs).1 < (value + 1) * tenTo cs.length := by
  induction cs generalizing value count with
  | nil =>
    change value < (value + 1) * 1
    omega
  | cons c cs ih =>
    have hten : tenTo (c :: cs).length = 10 * tenTo cs.length := by
      rw [tenTo, tenTo, List.length_cons, Nat.pow_eq, Nat.pow_eq, Nat.pow_succ, Nat.mul_comm]
    have hpos : 1 ≤ tenTo cs.length := Nat.pow_pos (by decide)
    rw [leadingNumber.go, hten, ← Nat.mul_assoc]
    cases hd : digitValue? c with
    | none =>
      have hle : (value + 1) * 10 ≤ (value + 1) * 10 * tenTo cs.length :=
        Nat.le_mul_of_pos_right _ hpos
      change value < _
      omega
    | some d =>
      have hd10 := digitValue?_lt hd
      have hle : value * 10 + d + 1 ≤ (value + 1) * 10 := by omega
      exact (ih (value * 10 + d) (count + 1)).trans_le (Nat.mul_le_mul_right _ hle)

/-- Digits write a number that has no more of them. -/
theorem leadingNumber_lt (cs : List Char) : (leadingNumber cs).1 < tenTo cs.length := by
  have hgo := leadingNumber_go_lt cs 0 0
  rwa [Nat.zero_add, Nat.one_mul] at hgo

namespace Moment

/-- The date-time that a text holds, in the leap year that stands for an expanded one. -/
def stampOfText? (s : String) : Option Stamp :=
  let cs := trimBlanks s.toList
  match expandedYear? cs with
  | some (_, _, rest) => IsoText.read? (['2', '0', '0', '0'] ++ rest)
  | none => IsoText.read? cs

theorem natAbs_signed (negative : Bool) (n : Nat) : (signed negative n).natAbs = n := by
  cases negative with
  | false => exact Int.natAbs_natCast n
  | true => exact (Int.natAbs_neg _).trans (Int.natAbs_natCast n)

/-- A year of at most six digits: what is no day of it, and what is no date-time, is invalid. -/
theorem ofExpandedYear_isRead {digits : List Char} (hlength : digits.length ≤ 6) (negative : Bool)
    (rest : List Char) :
    ∃ m, orInvalid (ofExpandedYear negative digits rest) = .ok m ∧
      m.bounded.IsRead (∀ s ∈ IsoText.read? (['2', '0', '0', '0'] ++ rest), s.HasWholeMinutes) := by
  have hlimit : ¬ digitLimit < digits.length := by
    have : 6 ≤ digitLimit := by decide
    omega
  have hy : (signed negative (leadingNumber digits).1).natAbs < 1000000 := by
    rw [natAbs_signed]
    exact (leadingNumber_lt digits).trans_le (tenTo_le_tenTo hlength)
  rw [ofExpandedYear, if_neg hlimit]
  split
  · have hw :
        (⟨signed negative (leadingNumber digits).1, 1 - 1, 1, 0, 0, 0, 0⟩ : WallClock).InRange :=
      WallClock.inRange_of_date (CivilDate.isValid_newYear _) (by decide)
    obtain ⟨m, hm, hms, hexact⟩ := ofWallClock_of_inRange hw hy
    exact ⟨m, congrArg orInvalid hm, isRead_bounded (fun _ => hexact) hms⟩
  · split
    · cases hread : IsoText.read? (['2', '0', '0', '0'] ++ rest) with
      | none => exact ⟨invalid, rfl, isRead_invalid⟩
      | some stamp =>
        by_cases hw : (stamp.wallIn (signed negative (leadingNumber digits).1)).InRange
        · obtain ⟨m, hm, hms, hexact⟩ := ofStampInYear_of_inRange hy hw
          exact ⟨m, congrArg orInvalid hm, isRead_bounded (fun h => hexact (h stamp rfl)) hms⟩
        · obtain ⟨f, hf⟩ := ofStampInYear_of_not_inRange hy hw
          exact ⟨invalid, congrArg orInvalid hf, isRead_invalid⟩
    · exact ⟨invalid, rfl, isRead_invalid⟩

theorem ofText_isRead (s : String) {k : Int} (hk : 0 ≤ k ∧ k ≤ 2) :
    ∃ m, ofText s (.int k) = .ok m ∧ m.IsRead (∀ t ∈ stampOfText? s, t.HasWholeMinutes) := by
  simp only [ofText, stampOfText?]
  cases hyear : expandedYear? (trimBlanks s.toList) with
  | some parts =>
    obtain ⟨negative, digits, rest⟩ := parts
    simp only [countsDigits_int]
    by_cases hcount : (4 + k == (digits.length : Int)) = true
    · have hlength : digits.length ≤ 6 := by
        rw [beq_iff_eq] at hcount
        omega
      obtain ⟨m, hm, hread⟩ := ofExpandedYear_isRead hlength negative rest
      refine ⟨m.bounded, ?_, hread⟩
      rw [hcount, hm]
      rfl
    · rw [Bool.not_eq_true] at hcount
      refine ⟨invalid, ?_, isRead_invalid⟩
      rw [hcount]
      rfl
  | none =>
    cases hread : IsoText.read? (trimBlanks s.toList) with
    | none => exact ⟨invalid, rfl, isRead_invalid⟩
    | some stamp =>
      obtain ⟨m, hm, hisRead⟩ := ofStamp_isRead stamp
      exact ⟨m, congrArg (Except.mapError Fault.moment) hm, hisRead.imp fun h => h stamp rfl⟩

end Moment

/-- The date-time that a value is or, as a text, holds. -/
def Argument.stamp? : Argument → Option Stamp
  | .atom (.stamp s) => some s
  | .atom (.zoned z) => z.stamp.toOption
  | .atom (.text s) => Moment.stampOfText? s
  | _ => none

/-- The value is a date-time whose zone raises what is given when it is asked for the offset. -/
def Argument.LacksOffset (x : Argument) (r : Raised) : Prop :=
  ∃ z, x = .atom (.zoned z) ∧ z.offset = .raises r

theorem ofArgument_of_lacksOffset {x : Argument} {r : Raised} (h : x.LacksOffset r)
    (extraDigits : Argument) :
    Dated.ofArgument x extraDigits = .error (.argument (.raised r)) := by
  obtain ⟨z, rfl, hz⟩ := h
  rw [Dated.ofArgument, Moment.ofAtom, ZonedStamp.stamp_of_raises hz]
  rfl

theorem Moment.ofAtom_isRead {a : Atom} (ha : ∀ m, a ≠ .moment m)
    (hoffset : ∀ r, ¬ (Argument.atom a).LacksOffset r) {k : Int} (hk : 0 ≤ k ∧ k ≤ 2) :
    ∃ m, ofAtom a (.int k) = .ok m ∧
      m.IsRead (∀ s ∈ (Argument.atom a).stamp?, s.HasWholeMinutes) := by
  -- Each kind has a result of its own kind of fault, which it does not come to.
  have hlift {r : Except MomentFault Moment} {whole whole' : Prop} (hwhole : whole' → whole)
      (h : ∃ m, r = .ok m ∧ m.IsRead whole) :
      ∃ m, r.mapError Fault.moment = .ok m ∧ m.IsRead whole' := by
    obtain ⟨m, rfl, hm⟩ := h
    exact ⟨m, rfl, hm.imp hwhole⟩
  cases a with
  | moment m => exact absurd rfl (ha m)
  | stamp s => exact hlift (fun h => h s rfl) (ofStamp_isRead s)
  | zoned z =>
    obtain ⟨s, hs⟩ := z.exists_stamp fun r hr => hoffset r ⟨z, rfl, hr⟩
    have hheld : (Argument.atom (.zoned z)).stamp? = some s := congrArg Except.toOption hs
    rw [ofAtom, hs]
    exact hlift (fun h => h s hheld) (ofStamp_isRead s)
  | day d => exact hlift id (ofDay_isRead d)
  | text s => exact ofText_isRead s hk
  | number x =>
    cases x with
    | integer n => exact hlift id (ofEpochMs_isRead n)
    | binary x => exact hlift id (ofEpoch_binary_isRead x)
    | ratio q => exact ⟨invalid, rfl, isRead_invalid⟩
    | decimal d => exact ⟨invalid, rfl, isRead_invalid⟩
  | absent => exact ⟨invalid, rfl, isRead_invalid⟩
  | flag b => exact ⟨invalid, rfl, isRead_invalid⟩
  | bytes bs => exact ⟨invalid, rfl, isRead_invalid⟩
  | foreign o => exact ⟨invalid, rfl, isRead_invalid⟩
  | options o => exact ⟨invalid, rfl, isRead_invalid⟩

theorem ofArgument_of_dated? {x : Argument} {given : Dated} (h : x.dated? = some given)
    (extraDigits : Argument) : Dated.ofArgument x extraDigits = .ok given := by
  cases x with
  | record f =>
    cases h
    rfl
  | list items => cases h
  | mapping entries => cases h
  | atom a =>
    cases a <;> cases h
    rfl

theorem ofArgument_isRead_of_dated?_none {x : Argument} (h : x.dated? = none)
    (hoffset : ∀ r, ¬ x.LacksOffset r) {k : Int} (hk : 0 ≤ k ∧ k ≤ 2) :
    ∃ m, Dated.ofArgument x (.int k) = .ok (.moment m) ∧
      m.IsRead (∀ s ∈ x.stamp?, s.HasWholeMinutes) := by
  cases x with
  | record f => cases h
  | list items => exact ⟨.invalid, rfl, Moment.isRead_invalid⟩
  | mapping entries => exact ⟨.invalid, rfl, Moment.isRead_invalid⟩
  | atom a =>
    have ha : ∀ m, a ≠ .moment m := by
      rintro m rfl
      cases h
    obtain ⟨m, hm, hread⟩ := Moment.ofAtom_isRead ha hoffset hk
    exact ⟨m, congrArg (Except.map Dated.moment) hm, hread⟩

/-- Reading a date, with up to two extra digits in expanded years, fails exactly for a date-time
whose zone raises something in place of the offset, with what it raises. What is a date already is
kept. Of anything else comes the invalid moment, or a moment of an instant within the bound; and
unless a date-time was read whose offset has seconds, that moment is the one of its instant at its
offset, so that instant, offset and fields agree. -/
theorem ofArgument_total (x : Argument) {k : Int} (hk : 0 ≤ k ∧ k ≤ 2) :
    (∀ r, x.LacksOffset r → Dated.ofArgument x (.int k) = .error (.argument (.raised r))) ∧
    ((∀ r, ¬ x.LacksOffset r) →
      ∃ d, Dated.ofArgument x (.int k) = .ok d ∧ (∀ given, x.dated? = some given → d = given) ∧
        (x.dated? = none → ∃ m, d = .moment m ∧
          (m = .invalid ∨ ∃ ms, m.instant = some ms ∧ ms.natAbs ≤ Moment.maxEpochMs ∧
            ((∀ s ∈ x.stamp?, ∀ us ∈ s.offset, us % usPerMinute = 0) →
              Moment.ofEpoch (.integer ms) m.offset = .ok m)))) := by
  refine ⟨fun r hr => ofArgument_of_lacksOffset hr _, fun hoffset => ?_⟩
  cases hx : x.dated? with
  | some given =>
    refine ⟨given, ofArgument_of_dated? hx _, fun other hother => ?_, fun hnone => ?_⟩
    · exact Option.some.inj hother
    · cases hnone
  | none =>
    obtain ⟨m, hm, hread⟩ := ofArgument_isRead_of_dated?_none hx hoffset hk
    refine ⟨.moment m, hm, fun given hgiven => ?_, fun _ => ⟨m, rfl, hread⟩⟩
    cases hgiven

/-- The evening of a leap day far ahead, on a clock east of universal time. -/
theorem ofArgument_total_leapDay :
    let x : Argument := .text "+012344-02-29T23:30:00+05:30"
    (0 ≤ (2 : Int) ∧ (2 : Int) ≤ 2) ∧ (∀ r, ¬ x.LacksOffset r) ∧ x.dated? = none ∧
    (∀ s ∈ x.stamp?, ∀ us ∈ s.offset, us % usPerMinute = 0) ∧
    ∃ m, Dated.ofArgument x (.int 2) = .ok (.moment m) ∧ m.wall = ⟨12344, 1, 29, 23, 30, 0, 0⟩ ∧
      m.instant = some 327376922400000 ∧ m.offset = 330 ∧
      Moment.ofEpoch (.integer 327376922400000) 330 = .ok m := by
  intro x
  have hk : 0 ≤ (2 : Int) ∧ (2 : Int) ≤ 2 := by decide
  have hchars : "+012344-02-29T23:30:00+05:30".toList =
      ['+', '0', '1', '2', '3', '4', '4', '-', '0', '2', '-', '2', '9', 'T', '2', '3', ':', '3',
        '0', ':', '0', '0', '+', '0', '5', ':', '3', '0'] := rfl
  have hwhole : ∀ s ∈ x.stamp?, ∀ us ∈ s.offset, us % usPerMinute = 0 := by
    change ∀ s ∈ Moment.stampOfText? "+012344-02-29T23:30:00+05:30", ∀ us ∈ s.offset, _
    rw [Moment.stampOfText?, hchars]
    decide +kernel
  let shown : Moment :=
    ⟨⟨12344, 1, 29, 23, 30, 0, 0⟩, some 327376922400000, 330, fun _ => by decide⟩
  have hread : Moment.ofText "+012344-02-29T23:30:00+05:30" (.int 2) = .ok shown := by
    rw [Moment.ofText, hchars]
    decide +kernel
  have hshown : Dated.ofArgument x (.int 2) = .ok (.moment shown) := by
    change (Moment.ofText "+012344-02-29T23:30:00+05:30" (.int 2)).map Dated.moment = _
    rw [hread]
    rfl
  have hoffset (r : Raised) : ¬ (Argument.text "+012344-02-29T23:30:00+05:30").LacksOffset r := by
    rintro ⟨z, ⟨⟩, -⟩
  obtain ⟨d, hd, -, hresult⟩ := (ofArgument_total x hk).2 hoffset
  obtain ⟨m, rfl, hm⟩ := hresult rfl
  cases hshown.symm.trans hd
  obtain hinvalid | ⟨ms, hms, -, hgiven⟩ := hm
  · cases congrArg Moment.offset hinvalid
  · cases hms
    exact ⟨hk, hoffset, rfl, hwhole, shown, hshown, rfl, rfl, rfl, hgiven hwhole⟩

/-- A zone that does not tell its offset at all. -/
theorem ofArgument_silentZone_fails :
    let silent : Raised := ⟨"NotImplementedError", "a tzinfo subclass must implement utcoffset()"⟩
    let newYear : Argument := .atom (.zoned ⟨⟨2020, 1, 1⟩, ⟨0, 0, 0, 0⟩, .raises silent,
      .gives "<datetime.tzinfo object>", by decide, by decide, by rintro given ⟨⟩⟩)
    Dated.ofArgument newYear (.int 2) = .error (.argument (.raised silent)) ∧
      ¬ ∃ d, Dated.ofArgument newYear (.int 2) = .ok d := by
  intro silent newYear
  have hfails := ofArgument_of_lacksOffset (x := newYear) ⟨_, rfl, rfl⟩ (.int 2)
  refine ⟨hfails, ?_⟩
  rintro ⟨d, hd⟩
  cases hfails.symm.trans hd

end DatePattern
