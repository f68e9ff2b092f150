import DatePattern.Proofs.Json.Grammar

/-! The reader of JSON reads each text that stands for a value as that value. So what is written is
read back. What is written is one line. -/
namespace DatePattern

namespace Json

theorem isSpace_of_isBlank {cs : List Char} (h : IsBlank cs) : ∀ c ∈ cs, isSpace c = true := by
  have hspaces : ∀ d ∈ [' ', '\n', '\t', '\r'], isSpace d = true := List.all_eq_true.mp (by decide)
  exact fun c hc => hspaces c (h c hc)

theorem skipSpace_append {blank : List Char} (h : IsBlank blank) (cs : List Char) :
    skipSpace (blank ++ cs) = skipSpace cs :=
  List.dropWhile_append_of_pos (isSpace_of_isBlank h)

theorem skipSpace_cons {c : Char} (h : isSpace c = false) (cs : List Char) :
    skipSpace (c :: cs) = c :: cs :=
  List.dropWhile_cons_of_neg (by rw [h]; decide)

section Strings

variable {c : Char} {cs form : List Char}

theorem readHex_of_form {n : Nat} (h : HexForm n form) (rest : List Char) :
    readHex (form ++ rest) = some (n, rest) := by
  obtain ⟨ha, hb, hc, hd⟩ := h
  simp only [List.cons_append, List.nil_append, readHex, ha, hb, hc, hd, Option.bind_eq_bind,
    Option.bind_some, Option.pure_def]

theorem readCode_of_form {n : Nat} (h : HexForm n form) (hn : n < 0xd800 ∨ 0xe000 ≤ n)
    (rest : List Char) : readCode (form ++ rest) = some (Char.ofNat n, rest) := by
  have hhigh : ¬ (0xd800 ≤ n ∧ n < 0xdc00) := by omega
  have hlow : ¬ (0xdc00 ≤ n ∧ n < 0xe000) := by omega
  rw [readCode, readHex_of_form h]
  simp only [Option.bind_eq_bind, Option.bind_some, if_neg hhigh, if_neg hlow, Option.pure_def]

theorem readCode_of_pair {high low : Nat} {other : List Char} (h : HexForm high form)
    (h' : HexForm low other) (hhigh : 0xd800 ≤ high ∧ high < 0xdc00)
    (hlow : 0xdc00 ≤ low ∧ low < 0xe000) (rest : List Char) :
    readCode (form ++ '\\' :: 'u' :: (other ++ rest)) =
      some (Char.ofNat (0x10000 + (high - 0xd800) * 0x400 + (low - 0xdc00)), rest) := by
  rw [readCode, readHex_of_form h]
  simp only [Option.bind_eq_bind, Option.bind_some, if_pos hhigh, readHex_of_form h', if_pos hlow,
    Option.pure_def]

/-- The letter of an escape that has a meaning of its own. -/
theorem namedEscape?_of_mem {letter : Char} (h : (letter, c) ∈ escapes) :
    letter ≠ 'u' ∧ namedEscape? letter = some c := by
  have table : ∀ entry ∈ escapes, entry.1 ≠ 'u' ∧ namedEscape? entry.1 = some entry.2 := by decide
  exact table _ h

/-- What is read behind a backslash comes in front of what the rest of the string holds. -/
theorem readChars_backslash (fuel : Nat) (e : Char) (rest : List Char) :
    readChars (fuel + 1) ('\\' :: e :: rest) = (do
      let (c, rest) ← if e = 'u' then readCode rest else (namedEscape? e).map fun c => (c, rest)
      let (cs, rest) ← readChars fuel rest
      return (c :: cs, rest)) := rfl

theorem readChars_plain (fuel : Nat) (hcontrol : 0x20 ≤ c.toNat) (hquote : c ≠ '"')
    (hescape : c ≠ '\\') (rest : List Char) :
    readChars (fuel + 1) (c :: rest) = (do
      let (cs, rest) ← readChars fuel rest
      return (c :: cs, rest)) := by
  rw [readChars.eq_def]
  simp only [if_neg hquote, if_neg hescape, if_neg (Nat.not_lt.mpr hcontrol)]

/-- One character is read, whatever stands behind its form. -/
theorem readChars_of_charForm (h : CharForm c form) (fuel : Nat) (rest : List Char) :
    readChars (fuel + 1) (form ++ rest) = (do
      let (cs, rest) ← readChars fuel rest
      return (c :: cs, rest)) := by
  cases h with
  | plain hcontrol hquote hescape => exact readChars_plain fuel hcontrol hquote hescape rest
  | escape h =>
    obtain ⟨hletter, hnamed⟩ := namedEscape?_of_mem h
    simp only [List.cons_append, List.nil_append, readChars_backslash, if_neg hletter, hnamed,
      Option.map_some, Option.bind_eq_bind, Option.bind_some]
  | code h hn =>
    simp only [List.cons_append, readChars_backslash, if_true, readCode_of_form h hn,
      Option.bind_eq_bind, Option.bind_some]
  | pair h h' hhigh hlow =>
    simp only [List.cons_append, List.append_assoc, readChars_backslash, if_true,
      readCode_of_pair h h' hhigh hlow, Option.bind_eq_bind, Option.bind_some]

/-- The fuel that is needed is one for each character and one for the closing quote. -/
theorem readChars_of_charsForm (h : CharsForm cs form) {fuel : Nat} (hfuel : cs.length < fuel)
    (rest : List Char) : readChars fuel (form ++ '"' :: rest) = some (cs, rest) := by
  induction h generalizing fuel with
  | nil =>
    cases fuel with
    | zero => exact absurd hfuel (Nat.not_lt_zero _)
    | succ fuel => rfl
  | @cons c cs form more h hmore ih =>
    cases fuel with
    | zero => exact absurd hfuel (Nat.not_lt_zero _)
    | succ fuel =>
      rw [List.append_assoc, readChars_of_charForm h, ih (Nat.lt_of_succ_lt_succ hfuel)]
      rfl

/-- No character has a shorter form than itself. -/
theorem length_le_of_charsForm (h : CharsForm cs form) : cs.length ≤ form.length := by
  induction h with
  | nil => exact Nat.le_refl 0
  | @cons c cs form more h hmore ih =>
    have hpos : 0 < form.length := by
      cases h <;> exact Nat.succ_pos _
    rw [List.length_cons, List.length_append]
    omega

end Strings

section Numbers

variable {n : Int} {cs rest : List Char}

/-- A number ends here: no character follows that could belong to it. -/
def EndsNumber (rest : List Char) : Prop := ∀ c ∈ rest.head?, isNumberChar c = false

theorem endsNumber_cons {c : Char} (h : isNumberChar c = false) (rest : List Char) :
    EndsNumber (c :: rest) := by
  intro d hd
  cases hd
  exact h

theorem endsNumber_append {blank : List Char} (h : IsBlank blank) (hrest : EndsNumber rest) :
    EndsNumber (blank ++ rest) := by
  cases blank with
  | nil => exact hrest
  | cons c blank =>
    have hspaces : ∀ d ∈ [' ', '\n', '\t', '\r'], (!isNumberChar d) = true :=
      List.all_eq_true.mp (by decide)
    have hc := hspaces c (h c List.mem_cons_self)
    exact endsNumber_cons (by simpa using hc) _

theorem isNumberChar_of_isDigit {c : Char} (h : c.isDigit = true) : isNumberChar c = true := by
  simp only [isNumberChar, h, Bool.true_or]

/-- The characters of a number, of which the first is a minus sign or a digit. -/
structure IsNumberToken (cs : List Char) : Prop where
  isNumberChar : ∀ c ∈ cs, isNumberChar c = true
  first : ∃ c tail, cs = c :: tail ∧ (c = '-' ∨ c.isDigit = true)

theorem isNumberToken_of_integerForm (h : IntegerForm n cs) : IsNumberToken cs := by
  cases h with
  | natural h =>
    refine ⟨fun c hc => isNumberChar_of_isDigit (h.writes.isDigit c hc), ?_⟩
    obtain ⟨c, tail, rfl⟩ := List.exists_cons_of_ne_nil h.ne_nil
    exact ⟨c, tail, rfl, .inr (h.writes.isDigit c List.mem_cons_self)⟩
  | @negative n cs h =>
    refine ⟨List.forall_mem_cons.mpr ⟨by decide, fun c hc => ?_⟩, '-', cs, rfl, .inl rfl⟩
    exact isNumberChar_of_isDigit (h.writes.isDigit c hc)

theorem IsNumberToken.append {other : List Char} (h : IsNumberToken cs)
    (hother : ∀ c ∈ other, Json.isNumberChar c = true) : IsNumberToken (cs ++ other) := by
  obtain ⟨c, tail, rfl, hfirst⟩ := h.first
  exact ⟨List.forall_mem_append.mpr ⟨h.isNumberChar, hother⟩, c, tail ++ other, rfl, hfirst⟩

theorem isNumberChar_of_fractionForm (h : FractionForm cs) :
    ∀ c ∈ cs, isNumberChar c = true := by
  cases h with
  | none => exact fun _ hc => absurd hc List.not_mem_nil
  | point h =>
    exact List.forall_mem_cons.mpr ⟨by decide, fun c hc => isNumberChar_of_isDigit (h.2 c hc)⟩

theorem isNumberChar_of_exponentForm (h : ExponentForm cs) :
    ∀ c ∈ cs, isNumberChar c = true := by
  cases h with
  | none => exact fun _ hc => absurd hc List.not_mem_nil
  | some he hsign h =>
    refine List.forall_mem_cons.mpr ⟨?_, List.forall_mem_append.mpr ⟨?_, fun c hc =>
      isNumberChar_of_isDigit (h.2 c hc)⟩⟩
    · rcases he with rfl | rfl <;> decide
    · rcases hsign with rfl | rfl | rfl <;> exact List.all_eq_true.mp rfl

/-- A token is read up to the end of the number. -/
theorem readNumber_of_token (h : IsNumberToken cs) (hrest : EndsNumber rest) :
    readNumber (cs ++ rest) =
      match integer? cs with
      | some n => some (int n, rest)
      | none => some (real (String.ofList cs), rest) := by
  obtain ⟨c, tail, hcs, hfirst⟩ := h.first
  have htail : rest.takeWhile isNumberChar = [] ∧ rest.dropWhile isNumberChar = rest := by
    cases rest with
    | nil => exact ⟨rfl, rfl⟩
    | cons d rest =>
      have hd := hrest d rfl
      exact ⟨List.takeWhile_cons_of_neg (by rw [hd]; decide),
        List.dropWhile_cons_of_neg (by rw [hd]; decide)⟩
  have hnot : ¬ (cs.isEmpty = true ∨ cs.head? = some '+') := by
    subst hcs
    rintro (hempty | hplus)
    · cases hempty
    · cases hplus
      exact hfirst.elim (by decide) (by decide)
  rw [readNumber, List.takeWhile_append_of_pos h.isNumberChar,
    List.dropWhile_append_of_pos h.isNumberChar, htail.1, htail.2, List.append_nil]
  exact if_neg hnot

theorem integer?_of_integerForm (h : IntegerForm n cs) : integer? cs = some n := by
  cases h with
  | natural h => exact integer?_of_writesNumber h.writes (List.length_pos_iff.mpr h.ne_nil)
  | negative h =>
    exact integer?_minus_of_writesNumber h.writes (List.length_pos_iff.mpr h.ne_nil)

/-- A text that holds a character other than a digit or a sign is no integer. -/
theorem integer?_of_mem {c : Char} (hc : c ∈ cs) (hdigit : c.isDigit = false) (hminus : c ≠ '-')
    (hplus : c ≠ '+') : integer? cs = none := by
  have hmem : c ∈ (splitSign cs).2 := by
    rw [splitSign.eq_def]
    split
    · exact (List.mem_cons.mp hc).resolve_left hminus
    · exact (List.mem_cons.mp hc).resolve_left hplus
    · exact hc
  have hall : (splitSign cs).2.all Char.isDigit = false :=
    List.all_eq_false.mpr ⟨c, hmem, by rw [hdigit]; decide⟩
  rw [integer?]
  simp only [hall, Bool.not_false, Bool.or_true, if_true]

theorem isNumberToken_of_realForm (h : RealForm cs) : IsNumberToken cs := by
  obtain ⟨hwhole, hfraction, hexponent, -⟩ := h
  exact (isNumberToken_of_integerForm hwhole).append (List.forall_mem_append.mpr
    ⟨isNumberChar_of_fractionForm hfraction, isNumberChar_of_exponentForm hexponent⟩)

/-- The point or the letter of the exponent tells a real from an integer. -/
theorem integer?_of_realForm (h : RealForm cs) : integer? cs = none := by
  obtain ⟨hwhole, hfraction, hexponent, hne⟩ := h
  cases hfraction with
  | point hdigits =>
    exact integer?_of_mem (c := '.') (by simp) (by decide) (by decide) (by decide)
  | none =>
    cases hexponent with
    | none => exact absurd rfl hne
    | @some e _ _ he _ _ =>
      refine integer?_of_mem (c := e) (by simp) ?_ ?_ ?_ <;> rcases he with rfl | rfl <;> decide

end Numbers

theorem ne_of_isDigit {c d : Char} (hc : c.isDigit = true) (hd : d.isDigit = false) : c ≠ d := by
  rintro rfl
  exact absurd (hc.symm.trans hd) (by decide)

/-- The character that a value begins with: no white space, and not the end of an array. -/
def IsFirst (c : Char) : Prop := isSpace c = false ∧ c ≠ ']'

theorem isFirst_of_number {c : Char} (h : c = '-' ∨ c.isDigit = true) : IsFirst c := by
  rcases h with rfl | h
  · exact ⟨by decide, by decide⟩
  · refine ⟨?_, ne_of_isDigit h (by decide)⟩
    simp only [isSpace, Bool.or_eq_false_iff, beq_eq_false_iff_ne]
    exact ⟨⟨⟨ne_of_isDigit h (by decide), ne_of_isDigit h (by decide)⟩,
      ne_of_isDigit h (by decide)⟩, ne_of_isDigit h (by decide)⟩

theorem exists_first_of_form {j : Json} {cs : List Char} (h : Form j cs) :
    ∃ c tail, cs = c :: tail ∧ IsFirst c := by
  have hnumber {cs : List Char} (h : IsNumberToken cs) : ∃ c tail, cs = c :: tail ∧ IsFirst c := by
    obtain ⟨c, tail, hcs, hc⟩ := h.first
    exact ⟨c, tail, hcs, isFirst_of_number hc⟩
  cases h with
  | int h => exact hnumber (isNumberToken_of_integerForm h)
  | real h => exact hnumber (isNumberToken_of_realForm h)
  | string h =>
    obtain ⟨h⟩ := h
    exact ⟨'"', _, rfl, by decide, by decide⟩
  | _ => exact ⟨_, _, rfl, by decide, by decide⟩

section Values

variable {fuel : Nat} {cs rest : List Char}

/-- A value that begins as a number does is read as one. -/
theorem readValue_of_token (h : IsNumberToken cs) (hrest : EndsNumber rest) :
    readValue (fuel + 1) (cs ++ rest) =
      match integer? cs with
      | some n => some (int n, rest)
      | none => some (real (String.ofList cs), rest) := by
  rw [← readNumber_of_token h hrest]
  obtain ⟨c, tail, rfl, hc⟩ := h.first
  have hne {d : Char} (hd : d.isDigit = false) (hminus : '-' ≠ d) : c ≠ d := by
    rcases hc with rfl | hc
    · exact hminus
    · exact ne_of_isDigit hc hd
  rw [List.cons_append, readValue, skipSpace_cons (isFirst_of_number hc).1]
  split
  case h_7 => rfl
  all_goals
    rename_i heq
    exact absurd (List.cons.inj heq).1 (hne (by decide) (by decide))

theorem readValue_append {blank : List Char} (h : IsBlank blank) (cs : List Char) :
    readValue fuel (blank ++ cs) = readValue fuel cs := by
  cases fuel with
  | zero => rfl
  | succ fuel => rw [readValue, readValue, skipSpace_append h]

/-- What so much fuel is enough for: to read each value, and the rest of each array and object, whose
form is shorter. -/
structure Reads (fuel : Nat) : Prop where
  value {j : Json} {cs rest : List Char} (h : Form j cs) (hfuel : cs.length < fuel)
    (hrest : EndsNumber rest) : readValue fuel (cs ++ rest) = some (j, rest)
  items {items : List Json} {cs rest : List Char} (h : ItemsForm items cs)
    (hfuel : cs.length + 1 < fuel) : readItems fuel (cs ++ ']' :: rest) = some (items, rest)
  members {members : List (String × Json)} {cs rest : List Char} (h : MembersForm members cs)
    (hfuel : cs.length + 1 < fuel) :
    readMembers fuel (cs ++ '\x7d' :: rest) = some (members, rest)

theorem Reads.padded (h : Reads fuel) {j : Json} (hform : PaddedForm j cs)
    (hfuel : cs.length < fuel) (hrest : EndsNumber rest) :
    ∃ behind, IsBlank behind ∧ readValue fuel (cs ++ rest) = some (j, behind ++ rest) := by
  obtain @⟨j, before, cs, behind, hbefore, hform, hbehind⟩ := hform
  refine ⟨behind, hbehind, ?_⟩
  rw [List.append_assoc, List.append_assoc, readValue_append hbefore]
  refine h.value hform ?_ (endsNumber_append hbehind hrest)
  simp only [List.length_append] at hfuel
  omega

theorem readItems_step (h : Reads fuel) {items : List Json} (hform : ItemsForm items cs)
    (hfuel : cs.length < fuel) :
    readItems (fuel + 1) (cs ++ ']' :: rest) = some (items, rest) := by
  cases hform with
  | last hform =>
    have hends : EndsNumber (']' :: rest) := endsNumber_cons (by decide) rest
    obtain ⟨behind, hbehind, hread⟩ := h.padded hform hfuel hends
    rw [readItems, hread]
    simp only [Option.bind_eq_bind, Option.bind_some, skipSpace_append hbehind]
    rfl
  | @more j items cs more hform hmore =>
    have hlength : cs.length + (more.length + 1) < fuel := by
      rwa [List.length_append, List.length_cons] at hfuel
    have hends : EndsNumber (',' :: (more ++ ']' :: rest)) := endsNumber_cons (by decide) _
    obtain ⟨behind, hbehind, hread⟩ := h.padded hform (by omega) hends
    rw [List.append_assoc, List.cons_append, readItems, hread]
    simp only [Option.bind_eq_bind, Option.bind_some, skipSpace_append hbehind]
    rw [skipSpace_cons (by decide)]
    simp only [h.items hmore (by omega)]
    rfl

/-- A string in its quotes is read up to the closing one. -/
theorem exists_readChars_of_stringForm {name : String} (h : StringForm name cs)
    (rest : List Char) : ∃ inner, cs ++ rest = '"' :: inner ∧
      readChars (inner.length + 1) inner = some (name.toList, rest) := by
  cases h with
  | @quoted form h =>
    refine ⟨form ++ '"' :: rest, by simp, readChars_of_charsForm h ?_ rest⟩
    have hle := length_le_of_charsForm h
    rw [List.length_append]
    omega

/-- A name and its value are read alike before the end of an object and before another member. -/
theorem readMembers_of_memberForm (h : Reads fuel) {m : String × Json} (hform : MemberForm m cs)
    (hfuel : cs.length < fuel) (hrest : EndsNumber rest) :
    ∃ behind, IsBlank behind ∧
      readMembers (fuel + 1) (cs ++ rest) =
        match skipSpace (behind ++ rest) with
        | '\x7d' :: rest => some ([m], rest)
        | ',' :: rest => do
          let (members, rest) ← readMembers fuel rest
          return (m :: members, rest)
        | _ => none := by
  cases hform with
  | @named name j before cs behind value hbefore hname hbehind hvalue =>
    have hlength : value.length < fuel := by
      simp only [List.length_append, List.length_cons] at hfuel
      omega
    obtain ⟨inner, hcs, hnameread⟩ :=
      exists_readChars_of_stringForm hname (behind ++ ':' :: (value ++ rest))
    obtain ⟨after, hafter, hvalueread⟩ := h.padded hvalue hlength hrest
    refine ⟨after, hafter, ?_⟩
    simp only [List.append_assoc, List.cons_append, hcs]
    rw [readMembers, skipSpace_append hbefore, skipSpace_cons (by decide)]
    simp only [hnameread, Option.bind_eq_bind, Option.bind_some, skipSpace_append hbehind]
    rw [skipSpace_cons (by decide)]
    simp only [hvalueread, Option.bind_some, String.ofList_toList]
    rfl

theorem readMembers_step (h : Reads fuel) {members : List (String × Json)}
    (hform : MembersForm members cs) (hfuel : cs.length < fuel) :
    readMembers (fuel + 1) (cs ++ '\x7d' :: rest) = some (members, rest) := by
  cases hform with
  | last hform =>
    have hends : EndsNumber ('\x7d' :: rest) := endsNumber_cons (by decide) rest
    obtain ⟨behind, hbehind, hread⟩ := readMembers_of_memberForm h hform hfuel hends
    rw [hread, skipSpace_append hbehind]
    rfl
  | @more m members cs more hform hmore =>
    have hlength : cs.length + (more.length + 1) < fuel := by
      rwa [List.length_append, List.length_cons] at hfuel
    have hends : EndsNumber (',' :: (more ++ '\x7d' :: rest)) := endsNumber_cons (by decide) _
    obtain ⟨behind, hbehind, hread⟩ := readMembers_of_memberForm h hform (by omega) hends
    rw [List.append_assoc, List.cons_append, hread, skipSpace_append hbehind,
      skipSpace_cons (by decide)]
    simp only [h.members hmore (by omega)]
    rfl

/-- Where an array has items, its end does not come first. -/
theorem exists_first_of_itemsForm {items : List Json} (h : ItemsForm items cs) (rest : List Char) :
    ∃ c tail, skipSpace (cs ++ rest) = c :: tail ∧ c ≠ ']' := by
  have hpadded {j : Json} {cs : List Char} (h : PaddedForm j cs) (rest : List Char) :
      ∃ c tail, skipSpace (cs ++ rest) = c :: tail ∧ c ≠ ']' := by
    obtain ⟨hbefore, hform, -⟩ := h
    obtain ⟨c, tail, rfl, hspace, hc⟩ := exists_first_of_form hform
    rw [List.append_assoc, List.append_assoc, skipSpace_append hbefore]
    exact ⟨c, _, skipSpace_cons hspace _, hc⟩
  cases h with
  | last h => exact hpadded h rest
  | more h hmore =>
    rw [List.append_assoc]
    exact hpadded h _

/-- Where an object has members, the name of the first one comes first. -/
theorem exists_quote_of_membersForm {members : List (String × Json)} (h : MembersForm members cs)
    (rest : List Char) : ∃ tail, skipSpace (cs ++ rest) = '"' :: tail := by
  have hmember {m : String × Json} {cs : List Char} (h : MemberForm m cs) (rest : List Char) :
      ∃ tail, skipSpace (cs ++ rest) = '"' :: tail := by
    cases h with
    | @named name j before cs behind value hbefore hname hbehind hvalue =>
      obtain ⟨inner, hcs, -⟩ :=
        exists_readChars_of_stringForm hname (behind ++ ':' :: (value ++ rest))
      refine ⟨inner, ?_⟩
      simp only [List.append_assoc, List.cons_append, hcs]
      rw [skipSpace_append hbefore, skipSpace_cons (by decide)]
  cases h with
  | last h => exact hmember h rest
  | more h hmore =>
    rw [List.append_assoc]
    exact hmember h _

theorem readValue_step (h : Reads fuel) {j : Json} (hform : Form j cs)
    (hfuel : cs.length < fuel + 1) (hrest : EndsNumber rest) :
    readValue (fuel + 1) (cs ++ rest) = some (j, rest) := by
  cases hform with
  | null | true | false => rfl
  | int hform =>
    rw [readValue_of_token (isNumberToken_of_integerForm hform) hrest,
      integer?_of_integerForm hform]
  | real hform =>
    rw [readValue_of_token (isNumberToken_of_realForm hform) hrest, integer?_of_realForm hform]
    simp only [String.ofList_toList]
  | string hform =>
    obtain ⟨inner, hcs, hread⟩ := exists_readChars_of_stringForm hform rest
    rw [hcs, readValue, skipSpace_cons (by decide)]
    simp only [hread, Option.bind_eq_bind, Option.bind_some, String.ofList_toList]
    rfl
  | emptyArray hblank =>
    rw [List.cons_append, List.append_assoc, readValue, skipSpace_cons (by decide)]
    simp only [skipSpace_append hblank]
    rfl
  | @array items cs hform =>
    have hlength : cs.length + 1 < fuel := by
      simp only [List.length_cons, List.length_append, List.length_nil] at hfuel
      omega
    obtain ⟨c, tail, hfirst, hc⟩ := exists_first_of_itemsForm hform (']' :: rest)
    have hread : readItems fuel (cs ++ ']' :: rest) = some (items, rest) := h.items hform hlength
    rw [List.cons_append, List.append_assoc, List.singleton_append, readValue,
      skipSpace_cons (by decide)]
    simp only [hfirst, hread]
    split
    · rename_i heq
      exact absurd (List.cons.inj heq).1 hc
    · rfl
  | emptyObject hblank =>
    rw [List.cons_append, List.append_assoc, readValue, skipSpace_cons (by decide)]
    simp only [skipSpace_append hblank]
    rfl
  | @object members cs hform =>
    have hlength : cs.length + 1 < fuel := by
      simp only [List.length_cons, List.length_append, List.length_nil] at hfuel
      omega
    obtain ⟨tail, hfirst⟩ := exists_quote_of_membersForm hform ('\x7d' :: rest)
    have hread : readMembers fuel (cs ++ '\x7d' :: rest) = some (members, rest) :=
      h.members hform hlength
    rw [List.cons_append, List.append_assoc, List.singleton_append, readValue,
      skipSpace_cons (by decide)]
    simp only [hfirst, hread]
    rfl

end Values

/-- By induction on the fuel, which each step of the reader takes one of. -/
theorem reads (fuel : Nat) : Reads fuel := by
  induction fuel with
  | zero =>
    exact ⟨fun _ hfuel => absurd hfuel (Nat.not_lt_zero _),
      fun _ hfuel => absurd hfuel (Nat.not_lt_zero _), fun _ hfuel => absurd hfuel (Nat.not_lt_zero _)⟩
  | succ fuel ih =>
    exact ⟨readValue_step ih, fun h hfuel => readItems_step ih h (Nat.lt_of_succ_lt_succ hfuel),
      fun h hfuel => readMembers_step ih h (Nat.lt_of_succ_lt_succ hfuel)⟩

/-- A text that stands for a value, with white space around it, is read as the value. -/
theorem ofText?_of_form {j : Json} {s : String} (h : PaddedForm j s.toList) : ofText? s = some j := by
  have hends : EndsNumber [] := fun _ hc => by cases hc
  obtain ⟨behind, hbehind, hread⟩ :=
    (reads (s.toList.length + 1)).padded h (Nat.lt_succ_self _) hends
  have hend : skipSpace (behind ++ []) = [] := skipSpace_append hbehind []
  rw [List.append_nil] at hread
  rw [ofText?, hread]
  simp only [Option.bind_eq_bind, Option.bind_some, hend]
  rfl

/-- What is written is read back. -/
theorem ofText?_text {j : Json} (h : j.IsProper) : ofText? j.text = some j := by
  apply ofText?_of_form
  rw [text, String.toList_ofList]
  exact paddedForm_of_form isBlank_nil (form_write h)

section OneLine

/-- No character is a control character, so that there is no line break. -/
def IsOneLine (cs : List Char) : Prop := ∀ c ∈ cs, 0x20 ≤ c.toNat

variable {cs ds : List Char} {c : Char}

theorem isOneLine_nil : IsOneLine [] := fun _ hc => absurd hc List.not_mem_nil

theorem isOneLine_of_all (h : cs.all (fun c => decide (0x20 ≤ c.toNat)) = true) : IsOneLine cs :=
  fun c hc => of_decide_eq_true (List.all_eq_true.mp h c hc)

theorem isOneLine_cons (hc : 0x20 ≤ c.toNat) (h : IsOneLine cs) : IsOneLine (c :: cs) :=
  List.forall_mem_cons.mpr ⟨hc, h⟩

theorem isOneLine_append (hcs : IsOneLine cs) (hds : IsOneLine ds) : IsOneLine (cs ++ ds) :=
  List.forall_mem_append.mpr ⟨hcs, hds⟩

/-- The comma between two items or members has a space behind it. -/
theorem isOneLine_comma (h : IsOneLine cs) : IsOneLine (',' :: ' ' :: cs) :=
  isOneLine_cons (by decide) (isOneLine_cons (by decide) h)

theorem isOneLine_of_isNumberToken (h : IsNumberToken cs) : IsOneLine cs := by
  intro c hc
  have hnumber := h.isNumberChar c hc
  simp only [isNumberChar, Bool.or_eq_true, beq_iff_eq] at hnumber
  rcases hnumber with ((((hdigit | rfl) | rfl) | rfl) | rfl) | rfl
  · have := toNat_of_isDigit hdigit
    omega
  all_goals decide

theorem isOneLine_of_hexForm {n : Nat} (h : HexForm n cs) : IsOneLine cs := by
  have hdigit {d : Char} {k : Nat} (hd : hexValue? d = some k) : 0x20 ≤ d.toNat := by
    have hle {c : Char} (hc : 0x20 ≤ c.toNat) (h : c ≤ d) : 0x20 ≤ d.toNat :=
      Nat.le_trans hc (UInt32.le_iff_toNat_le.mp h)
    rw [hexValue?] at hd
    split_ifs at hd with hdecimal hlower hupper
    · exact hle (by decide) hdecimal.1
    · exact hle (by decide) hlower.1
    · exact hle (by decide) hupper.1
  obtain ⟨ha, hb, hc, hd⟩ := h
  simp only [IsOneLine, List.forall_mem_cons]
  exact ⟨hdigit ha, hdigit hb, hdigit hc, hdigit hd, by simp⟩

/-- The forms of a character are on one line; so a control character is never written as itself. -/
theorem isOneLine_of_charForm (h : CharForm c cs) : IsOneLine cs := by
  cases h with
  | plain hcontrol _ _ => exact isOneLine_cons hcontrol isOneLine_nil
  | escape h =>
    have table : ∀ entry ∈ escapes, 0x20 ≤ entry.1.toNat := by decide
    exact isOneLine_cons (by decide) (isOneLine_cons (table _ h) isOneLine_nil)
  | code h _ => exact isOneLine_cons (by decide) (isOneLine_cons (by decide) (isOneLine_of_hexForm h))
  | pair h h' _ _ =>
    refine isOneLine_cons (by decide) (isOneLine_cons (by decide) ?_)
    refine isOneLine_append (isOneLine_of_hexForm h) ?_
    exact isOneLine_cons (by decide) (isOneLine_cons (by decide) (isOneLine_of_hexForm h'))

theorem isOneLine_writeString (s : String) : IsOneLine (writeString s) := by
  refine isOneLine_cons (by decide) (isOneLine_append ?_ (isOneLine_cons (by decide) isOneLine_nil))
  intro d hd
  obtain ⟨c, -, hd⟩ := List.mem_flatMap.mp hd
  exact isOneLine_of_charForm (charForm_escape c) d hd

theorem isOneLine_writeItems {items : List Json} (h : ∀ j ∈ items, IsOneLine j.write) :
    IsOneLine (writeItems items) := by
  induction items with
  | nil => exact isOneLine_nil
  | cons j items ih =>
    obtain ⟨hj, hrest⟩ := List.forall_mem_cons.mp h
    cases items with
    | nil => exact hj
    | cons k items => exact isOneLine_append hj (isOneLine_comma (ih hrest))

theorem isOneLine_writeMembers {members : List (String × Json)}
    (h : ∀ m ∈ members, IsOneLine m.2.write) : IsOneLine (writeMembers members) := by
  have hmember {j : Json} (name : String) (hj : IsOneLine j.write) :
      IsOneLine (writeString name ++ ':' :: ' ' :: j.write) :=
    isOneLine_append (isOneLine_writeString name)
      (isOneLine_cons (by decide) (isOneLine_cons (by decide) hj))
  induction members with
  | nil => exact isOneLine_nil
  | cons m members ih =>
    obtain ⟨hj, hrest⟩ := List.forall_mem_cons.mp h
    cases members with
    | nil => exact hmember m.1 hj
    | cons k members =>
      rw [writeMembers, ← List.cons_append, ← List.cons_append, ← List.append_assoc]
      exact isOneLine_append (hmember m.1 hj) (isOneLine_comma (ih hrest))

/-- A written value is on one line, since no white space is written but spaces. -/
theorem isOneLine_write {j : Json} (h : j.IsProper) : IsOneLine j.write := by
  have hbrackets {c d : Char} (hc : 0x20 ≤ c.toNat) (hd : 0x20 ≤ d.toNat) {cs : List Char}
      (h : IsOneLine cs) : IsOneLine (c :: (cs ++ [d])) :=
    isOneLine_cons hc (isOneLine_append h (isOneLine_cons hd isOneLine_nil))
  induction h with
  | null => exact isOneLine_of_all rfl
  | bool b => cases b <;> exact isOneLine_of_all rfl
  | int n => exact isOneLine_of_isNumberToken (isNumberToken_of_integerForm (integerForm_toString n))
  | real h => exact isOneLine_of_isNumberToken (isNumberToken_of_realForm h)
  | string s => exact isOneLine_writeString s
  | array _ ih => exact hbrackets (by decide) (by decide) (isOneLine_writeItems ih)
  | object _ ih => exact hbrackets (by decide) (by decide) (isOneLine_writeMembers ih)

end OneLine

end Json

end DatePattern
