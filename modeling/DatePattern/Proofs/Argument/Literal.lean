import DatePattern.Argument.Basic
import Mathlib.Tactic.SplitIfs

/-! Literals of values are on one line, whatever the values hold: line breaks in texts and bytes are
written as escapes, and nothing else writes any. -/
namespace DatePattern

/-- The text has no line break. -/
def IsUnbroken (cs : List Char) : Prop := '\n' ∉ cs

instance (cs : List Char) : Decidable (IsUnbroken cs) := inferInstanceAs (Decidable (_ ∉ _))

section

variable {cs ds : List Char} {c : Char}

@[simp] theorem isUnbroken_nil : IsUnbroken [] := List.not_mem_nil

@[simp] theorem isUnbroken_cons : IsUnbroken (c :: cs) ↔ c ≠ '\n' ∧ IsUnbroken cs := by
  rw [IsUnbroken, List.mem_cons, not_or, ne_comm, IsUnbroken]

@[simp] theorem isUnbroken_append : IsUnbroken (cs ++ ds) ↔ IsUnbroken cs ∧ IsUnbroken ds := by
  rw [IsUnbroken, List.mem_append, not_or, IsUnbroken, IsUnbroken]

theorem IsUnbroken.subset (h : IsUnbroken ds) (hsub : cs ⊆ ds) : IsUnbroken cs :=
  fun hmem => h (hsub hmem)

theorem isUnbroken_replicate (hc : c ≠ '\n') (n : Nat) : IsUnbroken (List.replicate n c) :=
  fun hmem => hc (List.mem_replicate.mp hmem).2.symm

theorem isUnbroken_flatMap {α : Type} {f : α → List Char} {as : List α}
    (h : ∀ a ∈ as, IsUnbroken (f a)) : IsUnbroken (as.flatMap f) := by
  intro hmem
  obtain ⟨a, ha, hbreak⟩ := List.mem_flatMap.mp hmem
  exact h a ha hbreak

theorem isUnbroken_concat {s t : String} :
    IsUnbroken (s ++ t).toList ↔ IsUnbroken s.toList ∧ IsUnbroken t.toList := by
  rw [String.toList_append, isUnbroken_append]

theorem isUnbroken_between {left body right : String} (hleft : IsUnbroken left.toList)
    (hbody : IsUnbroken body.toList) (hright : IsUnbroken right.toList) :
    IsUnbroken (left ++ body ++ right).toList :=
  isUnbroken_concat.mpr ⟨isUnbroken_concat.mpr ⟨hleft, hbody⟩, hright⟩

theorem isUnbroken_intercalate {sep : String} {parts : List String} (hsep : IsUnbroken sep.toList)
    (h : ∀ part ∈ parts, IsUnbroken part.toList) :
    IsUnbroken (sep.intercalate parts).toList := by
  induction parts with
  | nil => exact isUnbroken_nil
  | cons part parts ih =>
    obtain ⟨hpart, hrest⟩ := List.forall_mem_cons.mp h
    cases parts with
    | nil => rwa [String.intercalate_singleton]
    | cons next parts =>
      rw [String.intercalate_cons_cons]
      exact isUnbroken_between hpart hsep (ih hrest)

end

/-! ### Numerals -/

theorem isUnbroken_toDigits {base : Nat} (hbase : 1 < base) (n : Nat) :
    IsUnbroken (Nat.toDigits base n) := by
  induction n using Nat.strongRecOn with
  | ind n ih =>
    have hdigit (k : Nat) : IsUnbroken [Nat.digitChar k] :=
      isUnbroken_cons.mpr ⟨Nat.digitChar_ne '\n' (by decide), isUnbroken_nil⟩
    rw [Nat.toDigits_eq_if hbase]
    split
    · exact hdigit n
    case isFalse hn =>
      have hless : n / base < n := Nat.div_lt_self (by omega) hbase
      exact isUnbroken_append.mpr ⟨ih _ hless, hdigit _⟩

theorem isUnbroken_decimal (n : Nat) : IsUnbroken (Nat.toDigits 10 n) :=
  isUnbroken_toDigits (by decide) n

theorem isUnbroken_toString_nat (n : Nat) : IsUnbroken (toString n).toList := by
  rw [Nat.toString_eq_repr, Nat.toList_repr]
  exact isUnbroken_decimal n

theorem isUnbroken_toString (n : Int) : IsUnbroken (toString n).toList := by
  cases n with
  | ofNat k => exact isUnbroken_toString_nat k
  | negSucc k =>
    have hsign : toString (Int.negSucc k) = "-" ++ Nat.repr (k + 1) := rfl
    rw [hsign, isUnbroken_concat, Nat.toList_repr]
    exact ⟨by decide, isUnbroken_decimal _⟩

theorem isUnbroken_numeral {n : Int} {s : String} (h : numeral? n = some s) :
    IsUnbroken s.toList := by
  obtain ⟨digits, hdigits, rfl⟩ := Option.map_eq_some_iff.mp h
  have hunbroken : IsUnbroken digits := by
    rw [digits?] at hdigits
    split at hdigits
    · cases hdigits
      exact isUnbroken_decimal _
    · cases hdigits
  rw [String.toList_ofList]
  split
  · exact isUnbroken_cons.mpr ⟨by decide, hunbroken⟩
  · exact hunbroken

theorem Binary64.isUnbroken_decimalLayout (c : Nat) (k : Int) : IsUnbroken (decimalLayout c k) := by
  have hdigits := isUnbroken_decimal c
  have hzeros (n : Nat) : IsUnbroken (List.replicate n '0') := isUnbroken_replicate (by decide) n
  have hsign (e : Int) : (if e < 0 then '-' else '+') ≠ '\n' := by split <;> decide
  rw [decimalLayout]
  generalize Nat.toDigits 10 c = digits at hdigits
  have htake (n : Nat) : IsUnbroken (digits.take n) := hdigits.subset (List.take_subset _ _)
  have hdrop (n : Nat) : IsUnbroken (digits.drop n) := hdigits.subset (List.drop_subset _ _)
  dsimp only
  split
  case isTrue =>
    split_ifs
    · simp [hzeros, hdigits]
    · simp [htake, hdrop]
    · simp [hzeros, hdigits]
  case isFalse =>
    have htail (e : Int) : IsUnbroken ('e' :: (if e < 0 then '-' else '+') ::
        (List.replicate (2 - (Nat.toDigits 10 e.natAbs).length) '0' ++ Nat.toDigits 10 e.natAbs)) :=
      isUnbroken_cons.mpr ⟨by decide, isUnbroken_cons.mpr
        ⟨hsign e, isUnbroken_append.mpr ⟨hzeros _, isUnbroken_decimal _⟩⟩⟩
    cases digits with
    | nil => exact htail _
    | cons d more =>
      obtain ⟨hd, hmore⟩ := isUnbroken_cons.mp hdigits
      cases more with
      | nil => exact isUnbroken_cons.mpr ⟨hd, htail _⟩
      | cons e more =>
        exact isUnbroken_cons.mpr ⟨hd, isUnbroken_cons.mpr
          ⟨by decide, isUnbroken_append.mpr ⟨hmore, htail _⟩⟩⟩

theorem Binary64.isUnbroken_text (x : Binary64) : IsUnbroken x.text.toList := by
  cases x with
  | nan => decide
  | infinite negative => cases negative <;> decide
  | finite negative m e =>
    have hsigned {body : List Char} (hbody : IsUnbroken body) :
        IsUnbroken (if negative then '-' :: body else body) := by
      split
      · exact isUnbroken_cons.mpr ⟨by decide, hbody⟩
      · exact hbody
    rw [text, String.toList_ofList]
    refine hsigned ?_
    split
    · decide
    · exact isUnbroken_decimalLayout _ _

theorem ScaledDecimal.isUnbroken_text (d : ScaledDecimal) : IsUnbroken d.text.toList := by
  cases d with
  | nan negative signaling payload =>
    have hsign : IsUnbroken (if negative then "-" else "").toList := by cases negative <;> decide
    have hname : IsUnbroken (if signaling then "sNaN" else "NaN").toList := by
      cases signaling <;> decide
    have hpayload : IsUnbroken (if payload = 0 then "" else toString payload).toList := by
      split
      · decide
      · exact isUnbroken_toString_nat payload
    exact isUnbroken_between hsign hname hpayload
  | infinite negative => cases negative <;> decide
  | finite negative c e =>
    have hdigits := isUnbroken_decimal c
    have hzeros (n : Nat) : IsUnbroken (List.replicate n '0') := isUnbroken_replicate (by decide) n
    have hexponent (e : Int) : (if e < 0 then '-' else '+') ≠ '\n' := by split <;> decide
    have hsign : IsUnbroken (if negative then ['-'] else []) := by cases negative <;> decide
    rw [text, String.toList_ofList]
    generalize Nat.toDigits 10 c = digits at hdigits
    have htake (n : Nat) : IsUnbroken (digits.take n) := hdigits.subset (List.take_subset _ _)
    have hdrop (n : Nat) : IsUnbroken (digits.drop n) := hdigits.subset (List.drop_subset _ _)
    have hbody (place : Int) : IsUnbroken
        (if place ≤ 0 then '0' :: '.' :: (List.replicate (-place).toNat '0' ++ digits)
        else if digits.length ≤ place then
          digits ++ List.replicate (place.toNat - digits.length) '0'
        else digits.take place.toNat ++ '.' :: digits.drop place.toNat) := by
      split_ifs
      · simp [hzeros, hdigits]
      · simp [hzeros, hdigits]
      · simp [htake, hdrop]
    have htail (power : Int) : IsUnbroken (if power = 0 then []
        else 'E' :: (if power < 0 then '-' else '+') :: Nat.toDigits 10 power.natAbs) := by
      split
      · exact isUnbroken_nil
      · exact isUnbroken_cons.mpr ⟨by decide, isUnbroken_cons.mpr
          ⟨hexponent power, isUnbroken_decimal _⟩⟩
    exact isUnbroken_append.mpr ⟨isUnbroken_append.mpr ⟨hsign, hbody _⟩, htail _⟩

/-! ### Quoted texts -/

theorem isUnbroken_hexDigits (width n : Nat) : IsUnbroken (hexDigits width n) :=
  isUnbroken_append.mpr
    ⟨isUnbroken_replicate (by decide) _, isUnbroken_toDigits (by decide) n⟩

theorem quoteFor_ne (cs : List Char) : quoteFor cs ≠ '\n' := by
  rw [quoteFor]
  split <;> decide

/-- A line break has an escape, and what else is kept is no line break. -/
theorem isUnbroken_escapeChar {quote : Char} (hquote : quote ≠ '\n') (c : Char) :
    IsUnbroken (escapeChar quote c) := by
  rw [escapeChar]
  split_ifs with hescaped hline
  · have hc : c ≠ '\n' := by
      rcases hescaped with rfl | rfl
      · exact hquote
      · decide
    simp [hc]
  all_goals simp [isUnbroken_hexDigits, hline]

theorem isUnbroken_quoteText (s : String) : IsUnbroken (quoteText s).toList := by
  have hquote := quoteFor_ne s.toList
  rw [quoteText, String.toList_ofList, isUnbroken_cons, isUnbroken_append]
  exact ⟨hquote, isUnbroken_flatMap fun c _ => isUnbroken_escapeChar hquote c,
    isUnbroken_cons.mpr ⟨hquote, isUnbroken_nil⟩⟩

theorem isUnbroken_escapeByte {quote : Char} (hquote : quote ≠ '\n') (b : UInt8) :
    IsUnbroken (escapeByte quote b) := by
  rw [escapeByte]
  split
  · exact isUnbroken_escapeChar hquote _
  · simp [isUnbroken_hexDigits]

theorem isUnbroken_quoteBytes (bs : List UInt8) : IsUnbroken (quoteBytes bs).toList := by
  have hquote := quoteFor_ne (bs.map fun b => Char.ofNat b.toNat)
  rw [quoteBytes, String.toList_ofList, isUnbroken_cons, isUnbroken_cons, isUnbroken_append]
  exact ⟨by decide, hquote, isUnbroken_flatMap fun b _ => isUnbroken_escapeByte hquote b,
    isUnbroken_cons.mpr ⟨hquote, isUnbroken_nil⟩⟩

/-! ### Values -/

theorem Number.isUnbroken_literal {x : Number} {s : String} (h : x.literal? = some s) :
    IsUnbroken s.toList := by
  cases x with
  | integer n => exact isUnbroken_numeral h
  | binary x =>
    cases h
    exact x.isUnbroken_text
  | decimal d =>
    cases h
    exact isUnbroken_between (by decide) d.isUnbroken_text (by decide)
  | ratio q =>
    simp only [literal?, Option.bind_eq_bind, Option.bind_eq_some_iff] at h
    obtain ⟨num, hnum, den, hden, h⟩ := h
    cases h
    exact isUnbroken_between
      (isUnbroken_between (by decide) (isUnbroken_numeral hnum) (by decide))
      (isUnbroken_numeral hden) (by decide)

theorem isUnbroken_flagLiteral (b : Bool) : IsUnbroken (flagLiteral b).toList := by
  cases b <;> decide

theorem MomentFields.isUnbroken_literal {f : MomentFields String}
    (h : ∀ s ∈ f.values, IsUnbroken s.toList) : IsUnbroken f.literal.toList := by
  simp only [values, List.forall_mem_cons] at h
  obtain ⟨hyear, hmonth, hday, hhour, hminute, hsecond, hmillisecond, hinstant, hoffset, -⟩ := h
  unfold literal
  simp only [isUnbroken_concat, hyear, hmonth, hday, hhour, hminute, hsecond, hmillisecond, hinstant,
    hoffset, and_true]
  decide

theorem Moment.isUnbroken_literal {m : Moment} {s : String} (h : m.literal? = some s) :
    IsUnbroken s.toList := by
  rw [literal?] at h
  have hinstant : ∃ instant : String, IsUnbroken instant.toList ∧ s ∈ do
      let year ← numeral? m.wall.year
      let month ← numeral? m.wall.month
      let day ← numeral? m.wall.day
      let hour ← numeral? m.wall.hour
      let minute ← numeral? m.wall.minute
      let second ← numeral? m.wall.second
      let millisecond ← numeral? m.wall.millisecond
      let offset ← numeral? m.offset
      return MomentFields.literal
        ⟨year, month, day, hour, minute, second, millisecond, instant, offset⟩ := by
    cases hms : m.instant with
    | some ms =>
      rw [hms] at h
      obtain ⟨instant, hinstant, h⟩ := Option.bind_eq_some_iff.mp h
      exact ⟨instant, isUnbroken_numeral hinstant, h⟩
    | none =>
      rw [hms] at h
      exact ⟨"nan", by decide, h⟩
  obtain ⟨instant, hinstant, h⟩ := hinstant
  simp only [Option.bind_eq_bind, Option.mem_def, Option.bind_eq_some_iff, Option.pure_def,
    Option.some.injEq] at h
  obtain ⟨year, hyear, month, hmonth, day, hday, hour, hhour, minute, hminute, second, hsecond,
    millisecond, hmillisecond, offset, hoffset, rfl⟩ := h
  refine MomentFields.isUnbroken_literal ?_
  simp only [MomentFields.values, List.forall_mem_cons]
  exact ⟨isUnbroken_numeral hyear, isUnbroken_numeral hmonth, isUnbroken_numeral hday,
    isUnbroken_numeral hhour, isUnbroken_numeral hminute, isUnbroken_numeral hsecond,
    isUnbroken_numeral hmillisecond, hinstant, isUnbroken_numeral hoffset,
    List.forall_mem_nil _⟩

theorem Options.isUnbroken_literal {o : Options} {s : String} (h : o.literal? = some s) :
    IsUnbroken s.toList := by
  have hnumber (n : Option Int) : IsUnbroken ((n.map toString).getD "None").toList := by
    cases n with
    | none => decide
    | some n => exact isUnbroken_toString n
  have hwhole {digits : String} (hdigits : IsUnbroken digits.toList) : IsUnbroken
      ("FormatOptions(additional_digits=" ++ digits ++ ", week_starts_on=" ++
        (o.weekStartsOn.map toString).getD "None" ++ ", first_week_contains_date=" ++
        (o.firstWeekContains.map toString).getD "None" ++ ", use_additional_week_year_token=" ++
        flagLiteral o.acknowledgesWeekYear ++ ", use_additional_day_of_year_token=" ++
        flagLiteral o.acknowledgesDayOfYear ++ ", ordinal=" ++ flagLiteral o.ordinal ++
        ")").toList := by
    simp only [isUnbroken_concat, hdigits, hnumber, isUnbroken_flagLiteral, and_true]
    decide
  rw [literal?] at h
  cases hx : o.additionalDigits with
  | some x =>
    rw [hx] at h
    obtain ⟨digits, hdigits, h⟩ := Option.bind_eq_some_iff.mp h
    cases h
    exact hwhole (x.isUnbroken_literal hdigits)
  | none =>
    rw [hx] at h
    cases h
    exact hwhole (by decide)

theorem isUnbroken_spanText (us : Int) : IsUnbroken (spanText us).toList := by
  have hpart (name : String) (hname : IsUnbroken name.toList) (n : Int) :
      ∀ part ∈ (if n = 0 then [] else [name ++ "=" ++ toString n]), IsUnbroken part.toList := by
    split
    · exact List.forall_mem_nil _
    · refine List.forall_mem_singleton.mpr ?_
      exact isUnbroken_between hname (by decide) (isUnbroken_toString n)
  have hparts {parts : List String} (h : ∀ part ∈ parts, IsUnbroken part.toList) :
      IsUnbroken (if parts.isEmpty then "0" else ", ".intercalate parts).toList := by
    split
    · decide
    · exact isUnbroken_intercalate (by decide) h
  unfold spanText
  refine isUnbroken_between (by decide) (hparts ?_) (by decide)
  simp only [List.forall_mem_append]
  exact ⟨⟨hpart _ (by decide) _, hpart _ (by decide) _⟩, hpart _ (by decide) _⟩

theorem isUnbroken_offsetLiteral (us : Int) : IsUnbroken (offsetLiteral us).toList := by
  unfold offsetLiteral
  split
  · decide
  · exact isUnbroken_between (by decide) (isUnbroken_spanText us) (by decide)

theorem isUnbroken_stampLiteral (date : CivilDate) (time : ClockTime) {zone : Option String}
    (hzone : ∀ s ∈ zone, IsUnbroken s.toList) : IsUnbroken (stampLiteral date time zone).toList := by
  have hfields (fields : List Int) : ∀ part ∈ fields.map toString, IsUnbroken part.toList :=
    List.forall_mem_map.mpr fun n _ => isUnbroken_toString n
  have hlast : ∀ part ∈ (zone.map fun s => ["tzinfo=" ++ s]).getD [], IsUnbroken part.toList := by
    cases zone with
    | none => exact List.forall_mem_nil _
    | some s =>
      refine List.forall_mem_singleton.mpr ?_
      exact isUnbroken_concat.mpr ⟨by decide, hzone s rfl⟩
  unfold stampLiteral
  refine isUnbroken_between (by decide) (isUnbroken_intercalate (by decide) ?_) (by decide)
  exact List.forall_mem_append.mpr ⟨hfields _, hlast⟩

theorem Stamp.isUnbroken_literal (s : Stamp) : IsUnbroken s.literal.toList := by
  refine isUnbroken_stampLiteral s.date s.time ?_
  intro zone hzone
  obtain ⟨us, -, rfl⟩ := Option.map_eq_some_iff.mp hzone
  exact isUnbroken_offsetLiteral us

theorem Day.isUnbroken_literal (d : Day) : IsUnbroken d.literal.toList := by
  unfold literal
  simp only [isUnbroken_concat, isUnbroken_toString, and_true]
  decide

/-! ### Values -/

/-- The value is of a class that a caller defines, or has a zone of one. -/
def Atom.isForeign : Atom → Bool
  | foreign _ => true
  | zoned _ => true
  | _ => false

/-- No part of the value is of a class that a caller defines. -/
inductive Argument.IsBuiltIn : Argument → Prop
  | atom {a : Atom} (h : a.isForeign = false) : IsBuiltIn (.atom a)
  | list {items : List Argument} (h : ∀ x ∈ items, x.IsBuiltIn) : IsBuiltIn (.list items)
  | mapping {entries : List (Argument × Argument)} (hkeys : ∀ e ∈ entries, e.1.IsBuiltIn)
      (hvalues : ∀ e ∈ entries, e.2.IsBuiltIn) : IsBuiltIn (.mapping entries)
  | record {f : MomentFields Argument} (h : ∀ x ∈ f.values, x.IsBuiltIn) : IsBuiltIn (.record f)

theorem Atom.isUnbroken_literal {a : Atom} (ha : a.isForeign = false) {s : String}
    (h : a.literal = .ok s) : IsUnbroken s.toList := by
  cases a with
  | foreign o => cases ha
  | zoned z => cases ha
  | number x => exact Number.isUnbroken_literal (orTooLong_eq_ok_iff.mp h)
  | moment m => exact m.isUnbroken_literal (orTooLong_eq_ok_iff.mp h)
  | options o => exact o.isUnbroken_literal (orTooLong_eq_ok_iff.mp h)
  | flag b =>
    cases h
    exact isUnbroken_flagLiteral b
  | text s =>
    cases h
    exact isUnbroken_quoteText s
  | bytes bs =>
    cases h
    exact isUnbroken_quoteBytes bs
  | stamp s =>
    cases h
    exact s.isUnbroken_literal
  | day d =>
    cases h
    exact d.isUnbroken_literal
  | absent =>
    cases h
    decide

namespace Argument

mutual

/-- The literal of a value is on one line, unless a part of it is of a class that a caller defines. -/
theorem isUnbroken_literal :
    (x : Argument) → x.IsBuiltIn → ∀ s, x.literal = .ok s → IsUnbroken s.toList
  | atom a => by
    rintro ⟨ha⟩ s h
    exact a.isUnbroken_literal ha h
  | list items => by
    rintro (_ | hitems) s h
    obtain ⟨parts, hparts, h⟩ := bind_eq_ok_iff.mp h
    cases h
    have hparts := isUnbroken_itemLiterals items hitems _ hparts
    exact isUnbroken_between (by decide) (isUnbroken_intercalate (by decide) hparts) (by decide)
  | mapping entries => by
    rintro (_ | _ | ⟨hkeys, hvalues⟩) s h
    obtain ⟨parts, hparts, h⟩ := bind_eq_ok_iff.mp h
    cases h
    have hparts := isUnbroken_entryLiterals entries hkeys hvalues _ hparts
    exact isUnbroken_between (by decide) (isUnbroken_intercalate (by decide) hparts) (by decide)
  | record fields => by
    rintro (_ | _ | _ | hfields) s h
    obtain ⟨parts, hparts, h⟩ := bind_eq_ok_iff.mp h
    rw [← Except.ok.inj h]
    exact MomentFields.isUnbroken_literal (isUnbroken_fieldLiterals fields hfields _ hparts)
termination_by structural x => x

theorem isUnbroken_itemLiterals :
    (items : List Argument) → (∀ x ∈ items, x.IsBuiltIn) → ∀ parts,
      itemLiterals items = .ok parts → ∀ part ∈ parts, IsUnbroken part.toList
  | [] => fun _ parts h => by
    cases h
    exact List.forall_mem_nil _
  | x :: xs => fun hitems parts h => by
    obtain ⟨hx, hxs⟩ := List.forall_mem_cons.mp hitems
    obtain ⟨first, hfirst, h⟩ := bind_eq_ok_iff.mp h
    obtain ⟨rest, hrest, h⟩ := bind_eq_ok_iff.mp h
    cases h
    exact List.forall_mem_cons.mpr
      ⟨isUnbroken_literal x hx first hfirst, isUnbroken_itemLiterals xs hxs rest hrest⟩
termination_by structural x => x

theorem isUnbroken_entryLiteral :
    (entry : Argument × Argument) → entry.1.IsBuiltIn → entry.2.IsBuiltIn → ∀ s,
      entryLiteral entry = .ok s → IsUnbroken s.toList
  | (k, v) => fun hk hv s h => by
    obtain ⟨key, hkey, h⟩ := bind_eq_ok_iff.mp h
    obtain ⟨value, hvalue, h⟩ := bind_eq_ok_iff.mp h
    cases h
    exact isUnbroken_between (isUnbroken_literal k hk key hkey) (by decide)
      (isUnbroken_literal v hv value hvalue)
termination_by structural x => x

theorem isUnbroken_entryLiterals :
    (entries : List (Argument × Argument)) → (∀ e ∈ entries, e.1.IsBuiltIn) →
      (∀ e ∈ entries, e.2.IsBuiltIn) → ∀ parts,
      entryLiterals entries = .ok parts → ∀ part ∈ parts, IsUnbroken part.toList
  | [] => fun _ _ parts h => by
    cases h
    exact List.forall_mem_nil _
  | entry :: rest => fun hkeys hvalues parts h => by
    obtain ⟨hkey, hkeys⟩ := List.forall_mem_cons.mp hkeys
    obtain ⟨hvalue, hvalues⟩ := List.forall_mem_cons.mp hvalues
    obtain ⟨first, hfirst, h⟩ := bind_eq_ok_iff.mp h
    obtain ⟨others, hothers, h⟩ := bind_eq_ok_iff.mp h
    cases h
    exact List.forall_mem_cons.mpr
      ⟨isUnbroken_entryLiteral entry hkey hvalue first hfirst,
        isUnbroken_entryLiterals rest hkeys hvalues others hothers⟩
termination_by structural x => x

theorem isUnbroken_fieldLiterals :
    (fields : MomentFields Argument) → (∀ x ∈ fields.values, x.IsBuiltIn) → ∀ f,
      fieldLiterals fields = .ok f → ∀ s ∈ f.values, IsUnbroken s.toList
  | ⟨year, month, day, hour, minute, second, millisecond, instant, offset⟩ => fun hall f h => by
    simp only [MomentFields.values, List.forall_mem_cons] at hall
    obtain ⟨hyear, hmonth, hday, hhour, hminute, hsecond, hms, hinstant, hoffset, -⟩ := hall
    simp only [fieldLiterals, bind_eq_ok_iff] at h
    obtain ⟨a, ha, b, hb, c, hc, d, hd, e, he, f, hf, g, hg, i, hi, j, hj, h⟩ := h
    cases h
    simp only [MomentFields.values, List.forall_mem_cons]
    exact ⟨isUnbroken_literal year hyear a ha, isUnbroken_literal month hmonth b hb,
      isUnbroken_literal day hday c hc, isUnbroken_literal hour hhour d hd,
      isUnbroken_literal minute hminute e he, isUnbroken_literal second hsecond f hf,
      isUnbroken_literal millisecond hms g hg, isUnbroken_literal instant hinstant i hi,
      isUnbroken_literal offset hoffset j hj, List.forall_mem_nil _⟩
termination_by structural x => x

end

end Argument

end DatePattern
