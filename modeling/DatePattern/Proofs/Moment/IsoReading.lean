import DatePattern.Moment.WallClock
import DatePattern.Proofs.Calendar.DayCount
import DatePattern.Proofs.Numeral.FixedWidth

/-! The reader of date-times on the text it is meant for: every part gives back its number. -/
namespace DatePattern

namespace WallClock

/-- Month and day as they stand behind the year, and the time of day to the millisecond. -/
def isoMonthDay (w : WallClock) : List Char :=
  '-' :: (fixedWidth 2 (w.month + 1).natAbs ++ '-' :: fixedWidth 2 w.day.natAbs)

@[inherit_doc isoMonthDay]
def isoClock (w : WallClock) : List Char :=
  fixedWidth 2 w.hour.natAbs ++ ':' :: (fixedWidth 2 w.minute.natAbs ++ ':' ::
    (fixedWidth 2 w.second.natAbs ++ '.' :: fixedWidth 3 w.millisecond.natAbs))

end WallClock

/-- Minutes as hours and minutes. -/
def isoSize (minutes : Nat) : List Char :=
  fixedWidth 2 (minutes / 60) ++ ':' :: fixedWidth 2 (minutes % 60)

/-- The sign of a number; zero has a plus. -/
def isoSign (n : Int) : Char := if 0 ≤ n then '+' else '-'

def isoOffset (minutes : Int) : List Char := isoSign minutes :: isoSize minutes.natAbs

/-- What stands behind the year. -/
def isoRest (w : WallClock) (offset : Int) : List Char :=
  w.isoMonthDay ++ 'T' :: (w.isoClock ++ isoOffset offset)

theorem isoSign_mem (n : Int) : isoSign n = '+' ∨ isoSign n = '-' := by
  unfold isoSign
  split
  · exact .inl rfl
  · exact .inr rfl

namespace IsoText

variable {ys ms ds hs is ss fs : List Char} {y m d h i s f : Nat}

@[simp] theorem peek_cons (b : UInt8) (bs : List UInt8) : peek (b :: bs) = b := rfl

@[simp] theorem skip?_cons (b : UInt8) (bs : List UInt8) : skip? b (b :: bs) = some bs := if_pos rfl

private theorem isWeekMark_toUInt8 {c : Char} (h : c.isDigit = true) :
    isWeekMark c.toUInt8 = false := by
  have hb := isDigitByte_toUInt8 h
  rw [isWeekMark, beq_eq_false_iff_ne]
  intro hw
  rw [hw] at hb
  exact absurd hb (by decide)

/-- A year of four digits with month and day behind hyphens is read whole. -/
theorem readDate_dashed (hy : WritesNumber ys 4 y) (hm : WritesNumber ms 2 m)
    (hd : WritesNumber ds 2 d) (rest : List UInt8) :
    readDate (ys.map Char.toUInt8 ++ 45 :: (ms.map Char.toUInt8 ++
      45 :: (ds.map Char.toUInt8 ++ rest))) 10 = some ⟨y, m, d⟩ := by
  have hhyphen : isHyphen 45 = true := rfl
  have hweek : isWeekMark (peek (ms.map Char.toUInt8 ++ 45 :: (ds.map Char.toUInt8 ++ rest))) =
      false := by
    obtain ⟨c, cs, rfl⟩ := List.exists_cons_of_length_eq_add_one hm.length
    exact isWeekMark_toUInt8 (hm.isDigit c List.mem_cons_self)
  have hlen : (ys.map Char.toUInt8 ++ 45 :: (ms.map Char.toUInt8 ++
      45 :: (ds.map Char.toUInt8 ++ rest))).length - rest.length = 10 := by
    simp only [List.length_append, List.length_cons, List.length_map, hy.length, hm.length,
      hd.length]
    omega
  simp only [readDate, digits_append hy, digits_append hm, digits_append hd, Option.bind_eq_bind,
    Option.bind_some, peek_cons, hhyphen, if_true, List.drop_succ_cons, List.drop_zero, hweek,
    Bool.false_eq_true, if_false, skip?_cons, hlen]

/-- The separator stands behind such a date. -/
theorem dateLength_dashed (hy : WritesNumber ys 4 y) (hm : WritesNumber ms 2 m)
    {rest : List UInt8} (hrest : rest ≠ []) :
    dateLength (ys.map Char.toUInt8 ++ 45 :: (ms.map Char.toUInt8 ++ rest)) = some 10 := by
  have h4 : (ys.map Char.toUInt8).length = 4 := by rw [List.length_map, hy.length]
  have hhyphen : isHyphen ((ys.map Char.toUInt8 ++ 45 :: (ms.map Char.toUInt8 ++ rest)).getD 4 0) =
      true := by
    rw [List.getD_eq_getElem?_getD, List.getElem?_append_right (by omega), h4]
    rfl
  have hweek : isWeekMark ((ys.map Char.toUInt8 ++ 45 :: (ms.map Char.toUInt8 ++ rest)).getD 5 0) =
      false := by
    obtain ⟨c, cs, rfl⟩ := List.exists_cons_of_length_eq_add_one hm.length
    rw [List.getD_eq_getElem?_getD, List.getElem?_append_right (by omega), h4]
    exact isWeekMark_toUInt8 (hm.isDigit c List.mem_cons_self)
  have hpos := List.length_pos_iff.mpr hrest
  have hlen : (ys.map Char.toUInt8 ++ 45 :: (ms.map Char.toUInt8 ++ rest)).length =
      7 + rest.length := by
    simp only [List.length_append, List.length_cons, List.length_map, hy.length, hm.length]
    omega
  simp only [dateLength, hlen, hhyphen, hweek, if_true, Bool.false_eq_true, if_false]
  rw [if_neg (by omega), if_neg (by omega)]

theorem continuation_colon {left : Nat} (bs : List UInt8) (h : 1 < left) :
    continuation true (58 :: bs) left = some (.another bs (left - 1)) := by
  have hcolon : (true && isColon 58) = true := rfl
  rw [continuation, if_neg (by omega)]
  exact if_pos hcolon

theorem continuation_point {left : Nat} (bs : List UInt8) (h : 1 < left) :
    continuation true (46 :: bs) left = some (.fraction bs (left - 1)) := by
  have hcolon : ¬ (true && isColon 46) = true := by decide
  have hmark : isFractionMark 46 = true := rfl
  rw [continuation, if_neg (by omega), peek_cons, if_neg hcolon]
  exact if_pos hmark

theorem continuation_end {left : Nat} (colons : Bool) (bs : List UInt8) (h : left ≤ 1) :
    continuation colons bs left = some (.ended (peek bs != 0)) :=
  if_pos h

/-- Hours and minutes with a colon between them are read to the end of the text. -/
theorem readClock_minutes (hh : WritesNumber hs 2 h) (hi : WritesNumber is 2 i) :
    readClock (hs.map Char.toUInt8 ++ 58 :: is.map Char.toUInt8) 5 = some (⟨h, i, 0, 0⟩, false) := by
  have hcolon : isColon 58 = true := rfl
  have hrest := digits_append hi []
  rw [List.append_nil] at hrest
  simp only [readClock, digits_append hh, Option.bind_eq_bind, Option.bind_some, peek_cons, hcolon,
    continuation_colon _ (show 1 < 5 - 2 by decide), hrest,
    continuation_end _ _ (show 5 - 2 - 1 - 2 ≤ 1 by decide)]
  rfl

/-- Three digits of a fraction are milliseconds. -/
theorem readFraction_milliseconds (hf : WritesNumber fs 3 f) {bs : List UInt8}
    (hbs : isDigitByte (peek bs) = false) (hend : peek bs ≠ 0) (hour minute second : Nat) :
    readFraction hour minute second (fs.map Char.toUInt8 ++ bs) 3 =
      some (⟨hour, minute, second, (f * 1000 : Nat)⟩, true) := by
  have hrest : bs.dropWhile isDigitByte = bs := by
    cases bs with
    | nil => rfl
    | cons b bs => exact List.dropWhile_cons_of_neg (by rw [← peek_cons b bs, hbs]; decide)
  have hmore : (peek bs != 0) = true := bne_iff_ne.mpr hend
  -- Six digits count, so that three of them are still to be multiplied by a thousand.
  rw [readFraction, show min 6 3 = 3 from rfl, digits_append hf]
  simp only [Option.bind_eq_bind, Option.bind_some, hrest, hmore]
  rfl

/-- A time to the millisecond is read up to the text that goes on behind it. -/
theorem readClock_milliseconds (hh : WritesNumber hs 2 h) (hi : WritesNumber is 2 i)
    (hs' : WritesNumber ss 2 s) (hf : WritesNumber fs 3 f) {bs : List UInt8}
    (hbs : isDigitByte (peek bs) = false) (hend : peek bs ≠ 0) :
    readClock (hs.map Char.toUInt8 ++ 58 :: (is.map Char.toUInt8 ++ 58 :: (ss.map Char.toUInt8 ++
      46 :: (fs.map Char.toUInt8 ++ bs)))) 12 = some (⟨h, i, s, (f * 1000 : Nat)⟩, true) := by
  have hcolon : isColon 58 = true := rfl
  simp only [readClock, digits_append hh, Option.bind_eq_bind, Option.bind_some, peek_cons, hcolon,
    continuation_colon _ (show 1 < 12 - 2 by decide), digits_append hi,
    continuation_colon _ (show 1 < 12 - 2 - 1 - 2 by decide), digits_append hs',
    continuation_point _ (show 1 < 12 - 2 - 1 - 2 - 1 - 2 by decide)]
  exact readFraction_milliseconds hf hbs hend h i s

/-- A time in front of a signed offset. -/
theorem readTime_signed {body rest : List UInt8} {mark : UInt8} {time size : ClockTime}
    (hbody : ∀ b ∈ body, isZoneMark b = false) (hmark : mark = 43 ∨ mark = 45)
    (htime : readClock (body ++ mark :: rest) body.length = some (time, true))
    (hsize : readClock rest rest.length = some (size, false)) :
    readTime (body ++ mark :: rest) =
      some (time, some (if mark = 45 then -offsetSize size else offsetSize size)) := by
  have hzone : isZoneMark mark = true := by rcases hmark with rfl | rfl <;> rfl
  have hletter : mark ≠ 90 := by rcases hmark with rfl | rfl <;> decide
  have htake : (body ++ mark :: rest).takeWhile (fun b => !isZoneMark b) = body := by
    rw [List.takeWhile_append_of_pos fun b hb => by rw [hbody b hb]; rfl,
      List.takeWhile_cons_of_neg (by rw [hzone]; decide), List.append_nil]
  simp only [readTime, htake, htime, List.drop_left, hsize, hletter, Option.bind_eq_bind,
    Option.bind_some, if_false, Bool.false_eq_true]
  rfl

private theorem offsetSize_minutes (n : Nat) :
    offsetSize ⟨(n / 60 : Nat), (n % 60 : Nat), 0, 0⟩ = n * usPerMinute := by
  simp only [offsetSize, usPerSecond, usPerMinute]
  split <;> omega

private theorem toNat_of_isZoneMark {b : UInt8} (hb : isZoneMark b = true) :
    b.toNat = 43 ∨ b.toNat = 45 ∨ b.toNat = 90 := by
  simp only [isZoneMark, Bool.or_eq_true, beq_iff_eq] at hb
  rcases hb with (rfl | rfl) | rfl <;> decide

theorem readClock_isoSize {n : Nat} (h : n < 1440) :
    readClock ((isoSize n).map Char.toUInt8) ((isoSize n).map Char.toUInt8).length =
      some (⟨(n / 60 : Nat), (n % 60 : Nat), 0, 0⟩, false) := by
  have hh : WritesNumber (fixedWidth 2 (n / 60)) 2 (n / 60) := writesNumber_two (by omega)
  have hi : WritesNumber (fixedWidth 2 (n % 60)) 2 (n % 60) := writesNumber_two (by omega)
  have hlen : ((isoSize n).map Char.toUInt8).length = 5 := by
    rw [List.length_map, isoSize, List.length_append, List.length_cons, hh.length, hi.length]
  rw [hlen, isoSize, List.map_append, List.map_cons]
  exact readClock_minutes hh hi

variable {w : WallClock} {offset : Int}

theorem readClock_isoClock (hw : w.InRange) {bs : List UInt8}
    (hbs : isDigitByte (peek bs) = false) (hend : peek bs ≠ 0) :
    readClock (w.isoClock.map Char.toUInt8 ++ bs) (w.isoClock.map Char.toUInt8).length =
      some (⟨w.hour, w.minute, w.second, w.millisecond * 1000⟩, true) := by
  obtain ⟨-, -, hhour, hminute, hsecond, hms⟩ := hw
  have hh : WritesNumber _ 2 w.hour.natAbs := writesNumber_two (by omega)
  have hi : WritesNumber _ 2 w.minute.natAbs := writesNumber_two (by omega)
  have hs : WritesNumber _ 2 w.second.natAbs := writesNumber_two (by omega)
  have hf : WritesNumber _ 3 w.millisecond.natAbs :=
    writesNumber_fixedWidth (by decide) (show w.millisecond.natAbs < 1000 by omega)
  have hlen : (w.isoClock.map Char.toUInt8).length = 12 := by
    simp only [WallClock.isoClock, List.length_map, List.length_append, List.length_cons,
      hh.length, hi.length, hs.length, hf.length]
  have hread := readClock_milliseconds hh hi hs hf hbs hend
  rw [hlen]
  simp only [WallClock.isoClock, List.map_append, List.map_cons, List.append_assoc,
    List.cons_append]
  refine hread.trans ?_
  simp only [Int.natCast_mul, Int.natAbs_of_nonneg hhour.1, Int.natAbs_of_nonneg hminute.1,
    Int.natAbs_of_nonneg hsecond.1, Int.natAbs_of_nonneg hms.1]
  rfl

theorem toNat_of_mem_isoClock {c : Char} (hc : c ∈ w.isoClock) :
    46 ≤ c.toNat ∧ c.toNat ≤ 58 := by
  have hdigit {width n : Nat} (h : c ∈ fixedWidth width n) : 46 ≤ c.toNat ∧ c.toNat ≤ 58 := by
    have := toNat_of_mem_fixedWidth h
    omega
  simp only [WallClock.isoClock, List.mem_append, List.mem_cons] at hc
  rcases hc with hc | rfl | hc | rfl | hc | rfl | hc
  all_goals first | exact hdigit hc | decide

private theorem isZoneMark_of_mem_isoClock {b : UInt8} (hb : b ∈ w.isoClock.map Char.toUInt8) :
    isZoneMark b = false := by
  obtain ⟨c, hc, rfl⟩ := List.mem_map.mp hb
  have hrange := toNat_of_mem_isoClock hc
  have hnat := toNat_toUInt8_ascii (show c.toNat < 128 by omega)
  rw [← Bool.not_eq_true]
  intro hz
  have := toNat_of_isZoneMark hz
  omega

/-- The offset of a text begins at its sign and ends the text. -/
theorem readTime_iso (hw : w.InRange) (ho : offset.natAbs ≤ 1439) :
    readTime ((w.isoClock ++ isoOffset offset).map Char.toUInt8) =
      some (⟨w.hour, w.minute, w.second, w.millisecond * 1000⟩, some (offset * usPerMinute)) := by
  have hsize := readClock_isoSize (show offset.natAbs < 1440 by omega)
  rw [List.map_append, isoOffset, List.map_cons]
  by_cases hsign : 0 ≤ offset
  · rw [isoSign, if_pos hsign]
    refine (readTime_signed (fun b => isZoneMark_of_mem_isoClock) (.inl rfl)
      (readClock_isoClock hw rfl (show '+'.toUInt8 ≠ 0 by decide)) hsize).trans ?_
    rw [if_neg (by decide), offsetSize_minutes, Int.natAbs_of_nonneg hsign]
  · rw [isoSign, if_neg hsign]
    refine (readTime_signed (fun b => isZoneMark_of_mem_isoClock) (.inr rfl)
      (readClock_isoClock hw rfl (show '-'.toUInt8 ≠ 0 by decide)) hsize).trans ?_
    rw [if_pos rfl, offsetSize_minutes, ← Int.neg_mul, Int.ofNat_natAbs_of_nonpos (by omega),
      Int.neg_neg]

end IsoText

theorem wordFault?_eq_none {fields : List Int} (h : ∀ n ∈ fields, 0 ≤ n ∧ n < 1000000) :
    wordFault? fields = none := by
  have h31 : twoTo 31 = 2147483648 := rfl
  have h63 : twoTo 63 = 9223372036854775808 := rfl
  rw [wordFault?, List.findSome?_eq_none_iff]
  intro n hn
  obtain ⟨h0, h1⟩ := h n hn
  rw [if_neg (by omega), if_neg (by omega), if_neg (by omega)]

/-- Date, time and offset within their ranges make a date-time. -/
theorem Stamp.make_eq_ok {date : CivilDate} {time : ClockTime} {offset : Option Int}
    (hd : date.HasFourDigitYear ∧ date.IsValid) (ht : time.InRange)
    (ho : ∀ us ∈ offset, IsOffset us) :
    Stamp.make date time offset = .ok ⟨date, time, offset, hd, ht, ho⟩ := by
  have hword : wordFault? [date.year, date.month, date.day, time.hour, time.minute, time.second,
      time.microsecond] = none := by
    apply wordFault?_eq_none
    obtain ⟨⟨hy0, hy1⟩, hm0, hm1, hd0, hd1⟩ := hd
    obtain ⟨hh, hi, hs, hu⟩ := ht
    have := monthLength_le date.year date.month
    simp only [List.forall_mem_cons]
    exact ⟨by omega, by omega, by omega, by omega, by omega, by omega, by omega,
      fun _ hn => absurd hn List.not_mem_nil⟩
  rw [Stamp.make, dif_pos ho, hword]
  simp only [dif_pos hd, dif_pos ht]

/-- A date-time is made of parts where one with these parts exists. -/
theorem Stamp.toOption_make_eq_some_iff {date : CivilDate} {time : ClockTime} {offset : Option Int}
    {s : Stamp} :
    (make date time offset).toOption = some s ↔
      s.date = date ∧ s.time = time ∧ s.offset = offset := by
  constructor
  · intro h
    unfold make at h
    split at h
    · split at h
      · cases h
      · split at h
        · split at h
          · cases h
            exact ⟨rfl, rfl, rfl⟩
          · cases h
        · cases h
    · cases h
  · rintro ⟨rfl, rfl, rfl⟩
    rw [make_eq_ok s.date_inRange s.time_inRange s.offset_inRange]
    rfl

variable {w : WallClock} {offset : Int}

theorem WallClock.natAbs_monthDay_le (hw : w.InRange) :
    (w.month + 1).natAbs ≤ 12 ∧ w.day.natAbs ≤ 31 := by
  obtain ⟨⟨hm0, hm1⟩, ⟨hd0, hd1⟩, -⟩ := hw
  have := monthLength_le w.year (w.month + 1)
  omega

theorem WallClock.clockTime_inRange (hw : w.InRange) :
    ClockTime.InRange ⟨w.hour, w.minute, w.second, w.millisecond * 1000⟩ := by
  obtain ⟨-, -, hhour, hminute, hsecond, hms⟩ := hw
  exact ⟨hhour, hminute, hsecond, show 0 ≤ w.millisecond * 1000 ∧ w.millisecond * 1000 ≤ 999999 by omega⟩

theorem isOffset_minutes (ho : offset.natAbs ≤ 1439) :
    ∀ us ∈ some (offset * usPerMinute), IsOffset us := by
  rintro us ⟨⟩
  simp only [IsOffset, usPerDay, usPerMinute]
  omega

/-- The text behind the year is in ASCII from the plus sign to the letter T. -/
theorem toNat_of_mem_isoRest {c : Char} (hc : c ∈ isoRest w offset) :
    43 ≤ c.toNat ∧ c.toNat ≤ 84 := by
  have hdigit {width n : Nat} (h : c ∈ fixedWidth width n) : 43 ≤ c.toNat ∧ c.toNat ≤ 84 := by
    have := toNat_of_mem_fixedWidth h
    omega
  rcases List.mem_append.mp hc with hdate | hc
  · simp only [WallClock.isoMonthDay, List.mem_append, List.mem_cons] at hdate
    rcases hdate with rfl | h | rfl | h
    all_goals first | exact hdigit h | decide
  · rcases List.mem_cons.mp hc with rfl | hc
    · decide
    · rcases List.mem_append.mp hc with hclock | hoffset
      · have := IsoText.toNat_of_mem_isoClock hclock
        omega
      · simp only [isoOffset, isoSize, List.mem_append, List.mem_cons] at hoffset
        rcases hoffset with h | h | rfl | h
        · rcases isoSign_mem offset with hsign | hsign <;> rw [h, hsign] <;> decide
        · exact hdigit h
        · decide
        · exact hdigit h

theorem isoRest_eq (w : WallClock) (offset : Int) :
    isoRest w offset =
      '-' :: (fixedWidth 2 (w.month + 1).natAbs ++ '-' :: (fixedWidth 2 w.day.natAbs ++
        'T' :: (w.isoClock ++ isoOffset offset))) := by
  simp only [isoRest, WallClock.isoMonthDay, List.append_assoc, List.cons_append]

namespace IsoText

variable {ys ms ds tail : List Char} {y m d : Nat} {s : Stamp}

/-- The time behind a date, with one character before it; without a time it is midnight. -/
def timeBehind? (tail : List Char) : Option (ClockTime × Option Int) :=
  if bytesOf tail = [] then some (⟨0, 0, 0, 0⟩, none) else readTime (dropChar (bytesOf tail))

theorem bytesOf_dashed (hy : WritesNumber ys 4 y) (hm : WritesNumber ms 2 m)
    (hd : WritesNumber ds 2 d) :
    bytesOf (ys ++ '-' :: (ms ++ '-' :: (ds ++ tail))) =
      ys.map Char.toUInt8 ++ 45 :: (ms.map Char.toUInt8 ++
        45 :: (ds.map Char.toUInt8 ++ bytesOf tail)) := by
  have hhyphen (cs : List Char) : bytesOf ('-' :: cs) = 45 :: bytesOf cs := rfl
  rw [bytesOf_append, bytesOf_digits hy, hhyphen, bytesOf_append, bytesOf_digits hm, hhyphen,
    bytesOf_append, bytesOf_digits hd]

/-- A date with hyphens is read part by part, and the time behind it on its own. -/
theorem read?_dashed (hy : WritesNumber ys 4 y) (hm : WritesNumber ms 2 m)
    (hd : WritesNumber ds 2 d) :
    read? (ys ++ '-' :: (ms ++ '-' :: (ds ++ tail))) =
      (timeBehind? tail).bind fun t => (Stamp.make ⟨y, m, d⟩ t.1 t.2).toOption := by
  let date := ys.map Char.toUInt8 ++ 45 :: (ms.map Char.toUInt8 ++ 45 :: ds.map Char.toUInt8)
  have hdate : date.length = 10 := by
    simp only [date, List.length_append, List.length_cons, List.length_map, hy.length, hm.length,
      hd.length]
  have hbytes : ys.map Char.toUInt8 ++ 45 :: (ms.map Char.toUInt8 ++
      45 :: (ds.map Char.toUInt8 ++ bytesOf tail)) = date ++ bytesOf tail := by
    simp only [date, List.append_assoc, List.cons_append]
  have hend := dateLength_dashed hy hm (List.cons_ne_nil 45 (ds.map Char.toUInt8 ++ bytesOf tail))
  simp only [read?, bytesOf_dashed hy hm hd, hend, readDate_dashed hy hm hd, Option.bind_eq_bind,
    Option.bind_some]
  rw [hbytes, List.drop_left' hdate, List.length_append, hdate, timeBehind?]
  cases bytesOf tail with
  | nil => rfl
  | cons b bs =>
    rw [if_neg (List.cons_ne_nil b bs), if_neg (by rw [List.length_cons]; omega)]

/-- A text is read as the date-time of its year, month and day and of the time behind them. -/
theorem read?_dashed_eq_some_iff (hy : WritesNumber ys 4 y) (hm : WritesNumber ms 2 m)
    (hd : WritesNumber ds 2 d) :
    read? (ys ++ '-' :: (ms ++ '-' :: (ds ++ tail))) = some s ↔
      s.date = ⟨y, m, d⟩ ∧ timeBehind? tail = some (s.time, s.offset) := by
  rw [read?_dashed hy hm hd, Option.bind_eq_some_iff]
  constructor
  · rintro ⟨t, ht, hs⟩
    obtain ⟨hdate, htime, hoffset⟩ := Stamp.toOption_make_eq_some_iff.mp hs
    rw [htime, hoffset]
    exact ⟨hdate, ht⟩
  · rintro ⟨hdate, ht⟩
    exact ⟨_, ht, Stamp.toOption_make_eq_some_iff.mpr ⟨hdate, rfl, rfl⟩⟩

theorem timeBehind?_iso (hw : w.InRange) (ho : offset.natAbs ≤ 1439) :
    timeBehind? ('T' :: (w.isoClock ++ isoOffset offset)) =
      some (⟨w.hour, w.minute, w.second, w.millisecond * 1000⟩, some (offset * usPerMinute)) := by
  have hascii : ∀ c ∈ w.isoClock ++ isoOffset offset, c.toNat < 128 := by
    intro c hc
    have hmem : c ∈ isoRest w offset := List.mem_append_right _ (List.mem_cons_of_mem _ hc)
    have := toNat_of_mem_isoRest hmem
    omega
  have hbytes : bytesOf ('T' :: (w.isoClock ++ isoOffset offset)) =
      84 :: (w.isoClock ++ isoOffset offset).map Char.toUInt8 :=
    congrArg (List.cons 84) (bytesOf_ascii hascii)
  rw [timeBehind?, hbytes, if_neg (List.cons_ne_nil _ _), ← readTime_iso hw ho]
  rfl

/-- The text of a reading behind a year of four digits is read as its date-time. -/
theorem read?_iso (hw : w.InRange) (ho : offset.natAbs ≤ 1439) (hy : WritesNumber ys 4 y)
    (hd : CivilDate.HasFourDigitYear ⟨y, w.month + 1, w.day⟩ ∧
      CivilDate.IsValid ⟨y, w.month + 1, w.day⟩) :
    ∃ stamp, read? (ys ++ isoRest w offset) = some stamp ∧
      stamp.date = ⟨y, w.month + 1, w.day⟩ ∧
      stamp.time = ⟨w.hour, w.minute, w.second, w.millisecond * 1000⟩ ∧
      stamp.offset = some (offset * usPerMinute) := by
  obtain ⟨hmonth, hday⟩ := WallClock.natAbs_monthDay_le hw
  obtain ⟨⟨hm0, -⟩, ⟨hd0, -⟩, -⟩ := id hw
  have hmonths : WritesNumber _ 2 (w.month + 1).natAbs := writesNumber_two (by omega)
  have hdays : WritesNumber _ 2 w.day.natAbs := writesNumber_two (by omega)
  let stamp : Stamp := ⟨_, _, _, hd, WallClock.clockTime_inRange hw, isOffset_minutes ho⟩
  have hdate : stamp.date = ⟨y, (w.month + 1).natAbs, w.day.natAbs⟩ := by
    rw [Int.natAbs_of_nonneg (by omega), Int.natAbs_of_nonneg (by omega)]
  refine ⟨stamp, ?_, rfl, rfl, rfl⟩
  rw [isoRest_eq]
  exact (read?_dashed_eq_some_iff hy hmonths hdays).mpr ⟨hdate, timeBehind?_iso hw ho⟩

end IsoText

end DatePattern
