import DatePattern.Proofs.Moment.IsoCoercion
import DatePattern.Proofs.Pattern.OffsetDigits

/-! ISO texts of moments: what the patterns of ISO 8601 render is read as the same moment. -/
namespace DatePattern

variable {w : WallClock} {m : Moment} {offset : Int}

/-- The steps of month, day and time, which begin at a position of the pattern. -/
def isoWallSteps (position : Nat) : List Step :=
  [.literal ['-'], .field (.month .formatting) ⟨'M', 2, position + 1⟩ false,
    .literal ['-'], .field .dayOfMonth ⟨'d', 2, position + 4⟩ false,
    .literal ['T'], .field .hourTo23 ⟨'H', 2, position + 9⟩ false,
    .literal [':'], .field .minute ⟨'m', 2, position + 12⟩ false,
    .literal [':'], .field .second ⟨'s', 2, position + 15⟩ false,
    .literal ['.'], .field .fraction ⟨'S', 3, position + 18⟩ false]

/-- The texts of these steps. -/
def isoWallParts (w : WallClock) : List (List Char) :=
  [['-'], fixedWidth 2 (w.month + 1).natAbs, ['-'], fixedWidth 2 w.day.natAbs, ['T'],
    fixedWidth 2 w.hour.natAbs, [':'], fixedWidth 2 w.minute.natAbs, [':'],
    fixedWidth 2 w.second.natAbs, ['.'], fixedWidth 3 w.millisecond.natAbs]

/-- The steps behind the year, with the offset at the end. -/
def isoSteps (position : Nat) : List Step :=
  isoWallSteps position ++ [.field (.offset false) ⟨'x', 3, position + 21⟩ false]

@[inherit_doc isoWallParts]
def isoParts (w : WallClock) (offset : Int) : List (List Char) :=
  isoWallParts w ++ [isoOffset offset]

theorem flatten_isoParts : (isoParts w offset).flatten = isoRest w offset := by
  simp only [isoParts, isoWallParts, isoRest, WallClock.isoMonthDay, WallClock.isoClock,
    List.flatten_cons, List.flatten_nil, List.append_nil, List.append_assoc, List.cons_append,
    List.nil_append]

theorem hoursAndMinutes_isoOffset (ho : offset.natAbs ≤ 1439) :
    hoursAndMinutes offset ":" = .ok (String.ofList (isoOffset offset)) := by
  have hlong : ¬ IsTooLong (offset.natAbs / 60) := not_isTooLong_of_le_999 (by omega)
  have htext := hoursAndMinutes_eq_ok hlong [':']
  rwa [List.append_assoc] at htext

theorem writes_isoWallSteps (hw : m.wall.InRange) (position : Nat) :
    List.Forall₂ (Step.Writes m .unset) (isoWallSteps position) (isoWallParts m.wall) := by
  obtain ⟨hmonth, hday⟩ := WallClock.natAbs_monthDay_le hw
  obtain ⟨-, -, hhour, hminute, hsecond, hms⟩ := hw
  have htwo {f : Field} {letter : Char} {n : Int} {unit : Option CountedUnit} {place : Nat}
      (hn : n.natAbs ≤ 99) (hf : f.request 2 m .unset = .ok (.number n 2 .unset unit)) :
      (Step.field f ⟨letter, 2, place⟩ false).Writes m .unset (fixedWidth 2 n.natAbs) :=
    Step.writes_number rfl (show 0 < 2 by decide) (show 2 ≤ digitLimit by decide)
      (show n.natAbs < 100 by omega) hf
  refine .cons (Step.writes_literal _) (.cons (htwo (by omega) rfl) ?_)
  refine .cons (Step.writes_literal _) (.cons (htwo (by omega) rfl) ?_)
  refine .cons (Step.writes_literal _) (.cons (htwo (by omega) rfl) ?_)
  refine .cons (Step.writes_literal _) (.cons (htwo (by omega) rfl) ?_)
  refine .cons (Step.writes_literal _) (.cons (htwo (by omega) rfl) ?_)
  refine .cons (Step.writes_literal _) (.cons ?_ .nil)
  have hfraction : fractionDigits m.wall.millisecond 3 = m.wall.millisecond :=
    Int.ediv_one m.wall.millisecond
  have hf : Field.fraction.request 3 m .unset =
      .ok (.number m.wall.millisecond 3 .unset none) := by
    rw [Field.request, hfraction]
  exact Step.writes_number rfl (show 0 < 3 by decide) (show 3 ≤ digitLimit by decide)
    (show m.wall.millisecond.natAbs < 1000 by omega) hf

theorem writes_isoSteps (hm : Moment.ofWallClock w offset = .ok m) (ho : offset.natAbs ≤ 1439)
    (position : Nat) :
    List.Forall₂ (Step.Writes m .unset) (isoSteps position) (isoParts w offset) := by
  obtain ⟨-, hw, rfl, -, rfl⟩ := Moment.ofWallClock_eq_ok_iff.mp hm
  have htext : offsetRequest false 3 m.offset = .ok (String.ofList (isoOffset m.offset)) :=
    hoursAndMinutes_isoOffset ho
  have hf : (Field.offset false).request 3 m .unset =
      .ok (.text (String.ofList (isoOffset m.offset))) := by
    rw [Field.request, htext, ok_bind]
    rfl
  exact List.rel_append (writes_isoWallSteps hw position) (.cons (Step.writes_text hf) .nil)

-- The characters of a pattern are listed before its plan is computed, since computing them from the
-- encoded text is slow.
private theorem ofPattern_year :
    Plan.ofPattern "yyyy-MM-dd'T'HH:mm:ss.SSSxxx" =
      ⟨.field .year ⟨'y', 4, 0⟩ false :: isoSteps 4, none⟩ := by
  have hchars : "yyyy-MM-dd'T'HH:mm:ss.SSSxxx".toList =
      ['y', 'y', 'y', 'y', '-', 'M', 'M', '-', 'd', 'd', quote, 'T', quote, 'H', 'H', ':', 'm', 'm',
        ':', 's', 's', '.', 'S', 'S', 'S', 'x', 'x', 'x'] := rfl
  rw [Plan.ofPattern, Token.scan, hchars]
  rfl

private theorem ofPattern_positiveYear :
    Plan.ofPattern "'+'uuuuuu-MM-dd'T'HH:mm:ss.SSSxxx" =
      ⟨.literal ['+'] :: .field .signedYear ⟨'u', 6, 3⟩ false :: isoSteps 9, none⟩ := by
  have hchars : "'+'uuuuuu-MM-dd'T'HH:mm:ss.SSSxxx".toList =
      [quote, '+', quote, 'u', 'u', 'u', 'u', 'u', 'u', '-', 'M', 'M', '-', 'd', 'd', quote, 'T',
        quote, 'H', 'H', ':', 'm', 'm', ':', 's', 's', '.', 'S', 'S', 'S', 'x', 'x', 'x'] := rfl
  rw [Plan.ofPattern, Token.scan, hchars]
  rfl

private theorem ofPattern_negativeYear :
    Plan.ofPattern "uuuuuu-MM-dd'T'HH:mm:ss.SSSxxx" =
      ⟨.field .signedYear ⟨'u', 6, 0⟩ false :: isoSteps 6, none⟩ := by
  have hchars : "uuuuuu-MM-dd'T'HH:mm:ss.SSSxxx".toList =
      ['u', 'u', 'u', 'u', 'u', 'u', '-', 'M', 'M', '-', 'd', 'd', quote, 'T', quote, 'H', 'H', ':',
        'm', 'm', ':', 's', 's', '.', 'S', 'S', 'S', 'x', 'x', 'x'] := rfl
  rw [Plan.ofPattern, Token.scan, hchars]
  rfl

theorem yields_isoText (hm : Moment.ofWallClock w offset = .ok m) (ho : offset.natAbs ≤ 1439)
    (hy : w.date.HasFourDigitYear) (registry : LocaleRegistry) :
    (format (some (.atom (.moment m))) (some (.text "yyyy-MM-dd'T'HH:mm:ss.SSSxxx")) .absent none
      registry).Yields (· = String.ofList (isoText w offset)) := by
  have hsteps := writes_isoSteps hm ho 4
  have hvalid := Moment.isValid_of_ofWallClock hm
  obtain ⟨-, -, rfl, -⟩ := Moment.ofWallClock_eq_ok_iff.mp hm
  obtain ⟨hy0, hy1⟩ : 1 ≤ m.wall.year ∧ m.wall.year ≤ 9999 := hy
  have hf : Field.year.request 4 m .unset =
      .ok (.number m.wall.year 4 .unset (some .year)) := by
    have hera : yearOfEra m.wall.year = m.wall.year := if_pos (by omega)
    rw [Field.request, hera]
    rfl
  have hyear : (Step.field .year ⟨'y', 4, 0⟩ false).Writes m .unset
      (fixedWidth 4 m.wall.year.natAbs) :=
    Step.writes_number rfl (show 0 < 4 by decide) (show 4 ≤ digitLimit by decide)
      (show m.wall.year.natAbs < 10000 by omega) hf
  have htext : (fixedWidth 4 m.wall.year.natAbs :: isoParts m.wall offset).flatten =
      isoText m.wall offset := by
    rw [List.flatten_cons, flatten_isoParts, isoText]
  rw [← htext]
  exact yields_format hvalid ofPattern_year (.cons hyear hsteps) registry

theorem yields_expandedIsoText (hm : Moment.ofWallClock w offset = .ok m)
    (ho : offset.natAbs ≤ 1439) (hy : w.year.natAbs < 1000000) (registry : LocaleRegistry) :
    (format (some (.atom (.moment m)))
      (some (.text (if 0 ≤ w.year then "'+'uuuuuu-MM-dd'T'HH:mm:ss.SSSxxx"
        else "uuuuuu-MM-dd'T'HH:mm:ss.SSSxxx"))) .absent none registry).Yields
      (· = String.ofList (expandedIsoText w offset)) := by
  have hsteps := writes_isoSteps hm ho
  have hvalid := Moment.isValid_of_ofWallClock hm
  obtain ⟨-, -, rfl, -⟩ := Moment.ofWallClock_eq_ok_iff.mp hm
  have hyear (position : Nat) : (Step.field .signedYear ⟨'u', 6, position⟩ false).Writes m .unset
      ((if m.wall.year < 0 then ['-'] else []) ++ fixedWidth 6 m.wall.year.natAbs) :=
    Step.writes_signedNumber rfl (show 0 < 6 by decide) (show 6 ≤ digitLimit by decide) hy rfl
  -- The plus sign is a literal of the pattern, the minus sign comes from the field.
  by_cases hsign : 0 ≤ m.wall.year
  · have htext : (['+'] :: ([] ++ fixedWidth 6 m.wall.year.natAbs) ::
        isoParts m.wall offset).flatten = expandedIsoText m.wall offset := by
      rw [List.flatten_cons, List.flatten_cons, flatten_isoParts, expandedIsoText, isoSign, if_pos hsign]
      rfl
    rw [if_pos hsign, ← htext]
    have hyear' := hyear 3
    rw [if_neg (by omega)] at hyear'
    exact yields_format hvalid ofPattern_positiveYear
      (.cons (Step.writes_literal _) (.cons hyear' (hsteps 9))) registry
  · have htext : ((['-'] ++ fixedWidth 6 m.wall.year.natAbs) ::
        isoParts m.wall offset).flatten = expandedIsoText m.wall offset := by
      rw [List.flatten_cons, flatten_isoParts, expandedIsoText, isoSign, if_neg hsign]
      rfl
    rw [if_neg hsign, ← htext]
    have hyear' := hyear 0
    rw [if_pos (by omega)] at hyear'
    exact yields_format hvalid ofPattern_negativeYear (.cons hyear' (hsteps 6)) registry

/-- A moment written in ISO form is read as the same moment, with all its parts. A year of four
digits is written as it is; within the bound of instants any year may be written with a sign and
six digits. -/
theorem ofArgument_format_iso (hm : Moment.ofWallClock w offset = .ok m)
    (ho : offset.natAbs ≤ 1439) (registry : LocaleRegistry) (s : Session) :
    (1 ≤ m.wall.year → m.wall.year ≤ 9999 →
      ∃ text, ((format (some (.atom (.moment m)))
          (some (.text "yyyy-MM-dd'T'HH:mm:ss.SSSxxx")) .absent none registry).run.run s).1 =
            .ok text ∧
        ∀ extraDigits, Dated.ofArgument (.text text) extraDigits = .ok (.moment m)) ∧
    ∀ ms, m.instant = some ms → ms.natAbs ≤ Moment.maxEpochMs →
      ∃ text, ((format (some (.atom (.moment m)))
          (some (.text (if 0 ≤ m.wall.year then "'+'uuuuuu-MM-dd'T'HH:mm:ss.SSSxxx"
            else "uuuuuu-MM-dd'T'HH:mm:ss.SSSxxx"))) .absent none registry).run.run s).1 =
              .ok text ∧
        Dated.ofArgument (.text text) (.int 2) = .ok (.moment m) := by
  obtain ⟨-, hw, rfl, hinstant, -⟩ := Moment.ofWallClock_eq_ok_iff.mp hm
  constructor
  · intro hy0 hy1
    obtain ⟨_, s', hrun, rfl⟩ := yields_isoText hm ho ⟨hy0, hy1⟩ registry s
    exact ⟨_, congrArg Prod.fst hrun, fun extraDigits =>
      Moment.ofArgument_text (Moment.ofText_isoText hm ho ⟨hy0, hy1⟩ extraDigits)⟩
  · intro ms hms hbound
    have hval : m.wall.toMs - offset * msPerMinute = ms := Option.some.inj (hinstant.symm.trans hms)
    have hyear := Moment.natAbs_year_lt hw (Moment.natAbs_toMs_sub_le ho (hval ▸ hbound))
    obtain ⟨_, s', hrun, rfl⟩ := yields_expandedIsoText hm ho hyear registry s
    exact ⟨_, congrArg Prod.fst hrun,
      Moment.ofArgument_text (Moment.ofText_expandedIsoText hm ho hms hbound)⟩

/-- Leap days on clocks half an hour west of universal time, in a year of four digits and in one
before the era. -/
theorem ofArgument_format_iso_leapDays :
    (∃ m text, Moment.ofWallClock ⟨2024, 1, 29, 23, 59, 59, 999⟩ (-30) = .ok m ∧
      ((format (some (.atom (.moment m)))
        (some (.text "yyyy-MM-dd'T'HH:mm:ss.SSSxxx")) .absent none).run.run .start).1 = .ok text ∧
      Dated.ofArgument (.text text) (.int 2) = .ok (.moment m)) ∧
    ∃ m text, Moment.ofWallClock ⟨-4, 1, 29, 0, 0, 0, 1⟩ (-30) = .ok m ∧
      m.instant = some (-62288350199999) ∧
      (-62288350199999 : Int).natAbs ≤ Moment.maxEpochMs ∧
      ((format (some (.atom (.moment m)))
        (some (.text "uuuuuu-MM-dd'T'HH:mm:ss.SSSxxx")) .absent none).run.run .start).1 = .ok text ∧
      Dated.ofArgument (.text text) (.int 2) = .ok (.moment m) := by
  constructor
  · let m : Moment := ⟨⟨2024, 1, 29, 23, 59, 59, 999⟩, some 1709252999999, -30, fun _ => by decide⟩
    have hm : Moment.ofWallClock ⟨2024, 1, 29, 23, 59, 59, 999⟩ (-30) = .ok m :=
      Moment.ofWallClock_eq_ok_iff.mpr ⟨by decide +kernel, by decide, rfl, by decide, rfl⟩
    obtain ⟨text, hformat, hread⟩ :=
      (ofArgument_format_iso hm (by decide) .known .start).1 (by decide) (by decide)
    exact ⟨m, text, hm, hformat, hread (.int 2)⟩
  · let m : Moment := ⟨⟨-4, 1, 29, 0, 0, 0, 1⟩, some (-62288350199999), -30, fun _ => by decide⟩
    have hm : Moment.ofWallClock ⟨-4, 1, 29, 0, 0, 0, 1⟩ (-30) = .ok m :=
      Moment.ofWallClock_eq_ok_iff.mpr ⟨by decide +kernel, by decide, rfl, by decide, rfl⟩
    have hbound : (-62288350199999 : Int).natAbs ≤ Moment.maxEpochMs := by decide
    obtain ⟨text, hformat, hread⟩ := (ofArgument_format_iso hm (by decide) .known .start).2 _ rfl hbound
    rw [if_neg (by decide)] at hformat
    exact ⟨m, text, hm, rfl, hbound, hformat, hread⟩

end DatePattern
