import DatePattern.Proofs.Moment.StampInstant

/-! A year of four digits may be written as an expanded one, with a plus sign and zeros before it. What
stands behind the year is then read in a leap year that stands in for it, with the same result. -/
namespace DatePattern

theorem WritesNumber.lt_tenTo {cs : List Char} {width n : Nat} (h : WritesNumber cs width n) :
    n < tenTo width := by
  have hlt := leadingNumber_lt cs
  rwa [leadingNumber_of_writesNumber h, h.length] at hlt

namespace BehindYear

variable {ys rest : List Char} {y : Nat} {s t : Stamp}

theorem year_eq (h : BehindYear rest) (hy : WritesNumber ys 4 y)
    (hs : IsoText.read? (ys ++ rest) = some s) : s.date.year = y := by
  obtain ⟨months, days, tail, month, day, rfl, hm, hd, -⟩ := h.dashed
  rw [((IsoText.read?_dashed_eq_some_iff hy hm hd).mp hs).1]

/-- What is read in a year is read in the leap year as well, where every month is longest. -/
theorem exists_standIn (h : BehindYear rest) (hy : WritesNumber ys 4 y)
    (hs : IsoText.read? (ys ++ rest) = some s) :
    ∃ t, IsoText.read? (['2', '0', '0', '0'] ++ rest) = some t ∧
      t.wallIn y = s.wallIn y ∧ t.offset = s.offset := by
  obtain ⟨months, days, tail, month, day, rfl, hm, hd, -⟩ := h.dashed
  obtain ⟨hdate, htime⟩ := (IsoText.read?_dashed_eq_some_iff hy hm hd).mp hs
  have hvalid := s.date_inRange.2
  rw [hdate] at hvalid
  let t : Stamp := ⟨_, s.time, s.offset, hvalid.standIn, s.time_inRange, s.offset_inRange⟩
  refine ⟨t, (IsoText.read?_dashed_eq_some_iff writesNumber_standIn hm hd).mpr ⟨rfl, htime⟩, ?_, rfl⟩
  simp only [Stamp.wallIn, hdate, t]

/-- What is read in the leap year is read in any year that has the day. -/
theorem exists_of_standIn (h : BehindYear rest) (hy : WritesNumber ys 4 y) (hpos : 1 ≤ y)
    (ht : IsoText.read? (['2', '0', '0', '0'] ++ rest) = some t) (hw : (t.wallIn y).InRange) :
    ∃ s, IsoText.read? (ys ++ rest) = some s := by
  obtain ⟨months, days, tail, month, day, rfl, hm, hd, -⟩ := h.dashed
  obtain ⟨hdate, htime⟩ := (IsoText.read?_dashed_eq_some_iff writesNumber_standIn hm hd).mp ht
  have hvalid := WallClock.date_isValid hw
  simp only [Stamp.wallIn, WallClock.date, hdate, Int.sub_add_cancel] at hvalid
  have hlast : y < 10000 := hy.lt_tenTo
  have hyear : CivilDate.HasFourDigitYear ⟨y, month, day⟩ :=
    ⟨show (1 : Int) ≤ y by omega, show (y : Int) ≤ 9999 by omega⟩
  exact ⟨⟨_, t.time, t.offset, ⟨hyear, hvalid⟩, t.time_inRange, t.offset_inRange⟩,
    (IsoText.read?_dashed_eq_some_iff hy hm hd).mpr ⟨rfl, htime⟩⟩

end BehindYear

namespace Moment

variable {ys digits rest : List Char} {y k n : Nat} {m : Moment} {s t : Stamp} {year : Int}

theorem ofStampInYear_congr (hwall : t.wallIn year = s.wallIn year) (ho : t.offset = s.offset) :
    ofStampInYear year t = ofStampInYear year s := by
  rw [ofStampInYear_eq_bind, ofStampInYear_eq_bind, hwall, ho]

theorem IsRead.bounded_eq {whole : Prop} (h : m.IsRead whole) : m.bounded = m := by
  obtain rfl | ⟨ms, hms, hbound, -⟩ := h
  · rfl
  · rw [bounded, hms]
    exact if_neg (by omega)

/-- Where the text is a date-time with its year in four digits, the expanded year gives the same. -/
theorem ofExpandedYear_of_read (hy : WritesNumber ys 4 y) (hd : WritesNumber digits k y)
    (hk : k ≤ digitLimit) (hrest : BehindYear rest) (hs : IsoText.read? (ys ++ rest) = some s) :
    ofExpandedYear false digits rest = ofStamp s := by
  obtain ⟨t, ht, hwall, hoffset⟩ := hrest.exists_standIn hy hs
  have hyear := hrest.year_eq hy hs
  rw [ofExpandedYear_eq hd hk hrest, ht, ofStamp, hyear]
  exact ofStampInYear_congr hwall hoffset

/-- Where it is none, the stand-in may still have the day, but then the real year lacks it. -/
theorem ofExpandedYear_of_not_read (hy : WritesNumber ys 4 y) (hpos : 1 ≤ y)
    (hd : WritesNumber digits k y) (hk : k ≤ digitLimit) (hrest : BehindYear rest)
    (hs : IsoText.read? (ys ++ rest) = none) :
    orInvalid (ofExpandedYear false digits rest) = .ok invalid := by
  rw [ofExpandedYear_eq hd hk hrest]
  cases ht : IsoText.read? (['2', '0', '0', '0'] ++ rest) with
  | none => rfl
  | some t =>
    have hw : ¬ (t.wallIn y).InRange := by
      intro hw
      obtain ⟨s, hread⟩ := hrest.exists_of_standIn hy hpos ht hw
      cases hs.symm.trans hread
    have hlast : y < 10000 := hy.lt_tenTo
    obtain ⟨f, hf⟩ := ofStampInYear_of_not_inRange (by omega) hw
    change orInvalid (ofStampInYear y t) = .ok invalid
    rw [hf]
    rfl

theorem ne_invalid_of_ofStamp (h : ofStamp s = .ok m) : m ≠ invalid := by
  rintro rfl
  cases (parts_of_ofStampInYear h).2.1

end Moment

/-- A year of four digits may be written with a plus sign and up to two zeros before it, where as many
extra digits are asked for. Whatever month, day, time and offset stand behind the year, both texts
give the same moment, which is invalid exactly where the shorter text is no date-time. -/
theorem ofArgument_expandedYear {k : Nat} (hk : k ≤ 2) {ys rest : List Char} {year : Nat}
    (hy : WritesNumber ys 4 year) (hpos : 1 ≤ year) (hrest : BehindYear rest)
    (extraDigits : Argument) :
    ∃ m : Moment,
      Dated.ofArgument (.text (String.ofList ('+' :: (List.replicate k '0' ++ ys ++ rest)))) (.int k) =
        .ok (.moment m) ∧
      Dated.ofArgument (.text (String.ofList (ys ++ rest))) extraDigits = .ok (.moment m) ∧
      (m = .invalid ↔ IsoText.read? (ys ++ rest) = none) := by
  have hdigits := hy.zeros_append k
  have hlimit : k + 4 ≤ digitLimit := by
    have : 6 ≤ digitLimit := by decide
    omega
  have hplus : Moment.ofText (String.ofList ('+' :: (List.replicate k '0' ++ ys ++ rest))) (.int k) =
      ((Moment.orInvalid (Moment.ofExpandedYear false _ rest)).mapError Fault.moment).map
        Moment.bounded :=
    Moment.ofText_signedYear (.inl rfl) hdigits hrest
  have hplain := Moment.ofText_plainYear hy hrest extraDigits
  cases hs : IsoText.read? (ys ++ rest) with
  | some s =>
    obtain ⟨m, hm, hread⟩ := Moment.ofStamp_isRead s
    rw [Moment.ofExpandedYear_of_read hy hdigits hlimit hrest hs, hm] at hplus
    rw [hs, Option.map_some, hm] at hplain
    refine ⟨m, Moment.ofArgument_text (hplus.trans ?_), Moment.ofArgument_text hplain, ?_⟩
    · exact congrArg Except.ok hread.bounded_eq
    · simp [Moment.ne_invalid_of_ofStamp hm]
  | none =>
    rw [Moment.ofExpandedYear_of_not_read hy hpos hdigits hlimit hrest hs] at hplus
    rw [hs, Option.map_none] at hplain
    exact ⟨.invalid, Moment.ofArgument_text hplus, Moment.ofArgument_text hplain, by simp⟩

/-- The evening of a leap day in the year 4, on a clock east of universal time. -/
theorem ofArgument_expandedYear_leapDay :
    let rest : List Char := ['-', '0', '2', '-', '2', '9', 'T', '2', '3', ':', '3', '0', '+', '0', '5']
    (2 : Nat) ≤ 2 ∧ WritesNumber ['0', '0', '0', '4'] 4 4 ∧ 1 ≤ (4 : Nat) ∧ BehindYear rest ∧
    ∃ m : Moment, m.wall = ⟨4, 1, 29, 23, 30, 0, 0⟩ ∧ m.offset = 300 ∧
      Dated.ofArgument (.text "+000004-02-29T23:30+05") (.int 2) = .ok (.moment m) ∧
      Dated.ofArgument (.text "0004-02-29T23:30+05") (.int 2) = .ok (.moment m) := by
  intro rest
  have hy : WritesNumber ['0', '0', '0', '4'] 4 4 := ⟨List.all_eq_true.mp (by decide), rfl, rfl⟩
  have hmonth : WritesNumber ['0', '2'] 2 2 := ⟨List.all_eq_true.mp (by decide), rfl, rfl⟩
  have hday : WritesNumber ['2', '9'] 2 29 := ⟨List.all_eq_true.mp (by decide), rfl, rfl⟩
  have hrest : BehindYear rest := by
    refine ⟨⟨['0', '2'], ['2', '9'], rest.drop 6, 2, 29, rfl, hmonth, hday, ?_⟩, by decide, ?_⟩
    · rintro c ⟨⟩
      exact .inl rfl
    · rintro c ⟨⟩
      rfl
  let s : Stamp := ⟨⟨4, 2, 29⟩, ⟨23, 30, 0, 0⟩, some (300 * usPerMinute), by decide, by decide, by decide⟩
  have hs : IsoText.read? (['0', '0', '0', '4'] ++ rest) = some s :=
    (IsoText.read?_dashed_eq_some_iff hy hmonth hday).mpr ⟨rfl, by decide⟩
  obtain ⟨m, hm, -⟩ := Moment.ofStamp_isRead s
  obtain ⟨hwall, -, hoffset⟩ := Moment.parts_of_ofStampInYear hm
  have hread : Moment.ofText (String.ofList (['0', '0', '0', '4'] ++ rest)) (.int 2) = .ok m := by
    rw [Moment.ofText_plainYear hy hrest, hs, Option.map_some, hm]
    rfl
  obtain ⟨m', hplus, hplain, -⟩ :=
    ofArgument_expandedYear (Nat.le_refl 2) hy (by decide) hrest (.int 2)
  obtain rfl : m' = m :=
    Dated.moment.inj (Except.ok.inj (hplain.symm.trans (Moment.ofArgument_text hread)))
  exact ⟨Nat.le_refl 2, hy, by decide, hrest, m', hwall, hoffset, hplus, hplain⟩

end DatePattern
