import DatePattern.Json.Reader
import DatePattern.Proofs.Numeral.FixedWidth
import Mathlib.Tactic.SplitIfs

/-! The grammar of JSON: which texts stand for a value, apart from what writes and what reads them.
The writer keeps to it. -/
namespace DatePattern

namespace Json

/-- White space between tokens. -/
def IsBlank (cs : List Char) : Prop := ∀ c ∈ cs, c ∈ [' ', '\n', '\t', '\r']

/-- The letters behind a backslash that have a meaning of their own, and the characters that they
stand for. -/
def escapes : List (Char × Char) :=
  [('"', '"'), ('\\', '\\'), ('/', '/'), ('b', '\x08'), ('f', '\x0c'), ('n', '\n'), ('r', '\r'),
    ('t', '\t')]

/-- A number in four hexadecimal digits. -/
inductive HexForm : Nat → List Char → Prop
  | digits {a b c d : Char} {w x y z : Nat} (ha : hexValue? a = some w) (hb : hexValue? b = some x)
      (hc : hexValue? c = some y) (hd : hexValue? d = some z) :
      HexForm (w * 4096 + x * 256 + y * 16 + z) [a, b, c, d]

/-- A character within a string: itself, unless it is a quote, a backslash or a control character;
an escape; or its code, in two halves where it lies beyond four digits. -/
inductive CharForm : Char → List Char → Prop
  | plain {c : Char} (hcontrol : 0x20 ≤ c.toNat) (hquote : c ≠ '"') (hescape : c ≠ '\\') :
      CharForm c [c]
  | escape {letter c : Char} (h : (letter, c) ∈ escapes) : CharForm c ['\\', letter]
  | code {n : Nat} {cs : List Char} (h : HexForm n cs) (hn : n < 0xd800 ∨ 0xe000 ≤ n) :
      CharForm (Char.ofNat n) ('\\' :: 'u' :: cs)
  | pair {high low : Nat} {cs ds : List Char} (h : HexForm high cs) (h' : HexForm low ds)
      (hhigh : 0xd800 ≤ high ∧ high < 0xdc00) (hlow : 0xdc00 ≤ low ∧ low < 0xe000) :
      CharForm (Char.ofNat (0x10000 + (high - 0xd800) * 0x400 + (low - 0xdc00)))
        ('\\' :: 'u' :: (cs ++ '\\' :: 'u' :: ds))

inductive CharsForm : List Char → List Char → Prop
  | nil : CharsForm [] []
  | cons {c : Char} {cs form rest : List Char} (h : CharForm c form) (hrest : CharsForm cs rest) :
      CharsForm (c :: cs) (form ++ rest)

inductive StringForm : String → List Char → Prop
  | quoted {s : String} {cs : List Char} (h : CharsForm s.toList cs) :
      StringForm s ('"' :: (cs ++ ['"']))

/-- A number in decimal. There is no zero in front of another digit. -/
structure NaturalForm (n : Nat) (cs : List Char) : Prop where
  writes : WritesNumber cs cs.length n
  ne_nil : cs ≠ []
  leading : ∀ rest, cs = '0' :: rest → rest = []

inductive IntegerForm : Int → List Char → Prop
  | natural {n : Nat} {cs : List Char} (h : NaturalForm n cs) : IntegerForm n cs
  | negative {n : Nat} {cs : List Char} (h : NaturalForm n cs) : IntegerForm (-n) ('-' :: cs)

/-- Digits, at least one. -/
def IsDigits (cs : List Char) : Prop := cs ≠ [] ∧ ∀ c ∈ cs, c.isDigit = true

/-- The digits behind the point of a number, if it has one. -/
inductive FractionForm : List Char → Prop
  | none : FractionForm []
  | point {cs : List Char} (h : IsDigits cs) : FractionForm ('.' :: cs)

/-- The exponent of a number, if it has one. -/
inductive ExponentForm : List Char → Prop
  | none : ExponentForm []
  | some {e : Char} {sign cs : List Char} (he : e = 'e' ∨ e = 'E')
      (hsign : sign = [] ∨ sign = ['+'] ∨ sign = ['-']) (h : IsDigits cs) :
      ExponentForm (e :: (sign ++ cs))

/-- A number with a fraction or an exponent. -/
inductive RealForm : List Char → Prop
  | parts {n : Int} {whole fraction exponent : List Char} (hwhole : IntegerForm n whole)
      (hfraction : FractionForm fraction) (hexponent : ExponentForm exponent)
      (h : fraction ++ exponent ≠ []) : RealForm (whole ++ (fraction ++ exponent))

mutual

/-- The texts that stand for a value. -/
inductive Form : Json → List Char → Prop
  | null : Form null ['n', 'u', 'l', 'l']
  | true : Form (bool true) ['t', 'r', 'u', 'e']
  | false : Form (bool false) ['f', 'a', 'l', 's', 'e']
  | int {n : Int} {cs : List Char} (h : IntegerForm n cs) : Form (int n) cs
  | real {token : String} (h : RealForm token.toList) : Form (real token) token.toList
  | string {s : String} {cs : List Char} (h : StringForm s cs) : Form (string s) cs
  | emptyArray {blank : List Char} (h : IsBlank blank) : Form (array []) ('[' :: (blank ++ [']']))
  | array {items : List Json} {cs : List Char} (h : ItemsForm items cs) :
      Form (array items) ('[' :: (cs ++ [']']))
  | emptyObject {blank : List Char} (h : IsBlank blank) :
      Form (object []) ('\x7b' :: (blank ++ ['\x7d']))
  | object {members : List (String × Json)} {cs : List Char} (h : MembersForm members cs) :
      Form (object members) ('\x7b' :: (cs ++ ['\x7d']))

/-- A value with white space around it. -/
inductive PaddedForm : Json → List Char → Prop
  | padded {j : Json} {before cs behind : List Char} (hbefore : IsBlank before) (h : Form j cs)
      (hbehind : IsBlank behind) : PaddedForm j (before ++ (cs ++ behind))

/-- Items with commas between them. -/
inductive ItemsForm : List Json → List Char → Prop
  | last {j : Json} {cs : List Char} (h : PaddedForm j cs) : ItemsForm [j] cs
  | more {j : Json} {items : List Json} {cs rest : List Char} (h : PaddedForm j cs)
      (hrest : ItemsForm items rest) : ItemsForm (j :: items) (cs ++ ',' :: rest)

/-- A name with a colon and a value behind it. -/
inductive MemberForm : String × Json → List Char → Prop
  | named {name : String} {j : Json} {before cs behind value : List Char} (hbefore : IsBlank before)
      (hname : StringForm name cs) (hbehind : IsBlank behind) (h : PaddedForm j value) :
      MemberForm (name, j) (before ++ (cs ++ (behind ++ ':' :: value)))

/-- Members with commas between them. -/
inductive MembersForm : List (String × Json) → List Char → Prop
  | last {m : String × Json} {cs : List Char} (h : MemberForm m cs) : MembersForm [m] cs
  | more {m : String × Json} {members : List (String × Json)} {cs rest : List Char}
      (h : MemberForm m cs) (hrest : MembersForm members rest) :
      MembersForm (m :: members) (cs ++ ',' :: rest)

end

/-- A value whose reals have the form of a real. -/
inductive IsProper : Json → Prop
  | null : IsProper null
  | bool (b : Bool) : IsProper (bool b)
  | int (n : Int) : IsProper (int n)
  | real {token : String} (h : RealForm token.toList) : IsProper (real token)
  | string (s : String) : IsProper (string s)
  | array {items : List Json} (h : ∀ j ∈ items, IsProper j) : IsProper (array items)
  | object {members : List (String × Json)} (h : ∀ m ∈ members, IsProper m.2) :
      IsProper (object members)

theorem isBlank_nil : IsBlank [] := fun _ hc => absurd hc List.not_mem_nil

theorem isBlank_space : IsBlank [' '] := by simp [IsBlank]

/-- A control character is written by its code. -/
theorem hexForm_hexDigits {n : Nat} (h : n < 0x20) : HexForm n (hexDigits 4 n) := by
  have hdigits : ∀ n < 0x20, hexDigits 4 n =
      ['0', '0', Nat.digitChar (n / 16), Nat.digitChar (n % 16)] := by decide
  have hvalue : ∀ n < 16, hexValue? (Nat.digitChar n) = some n := by decide
  have hform : HexForm (0 * 4096 + 0 * 256 + n / 16 * 16 + n % 16) (hexDigits 4 n) := by
    rw [hdigits n h]
    exact .digits rfl rfl (hvalue (n / 16) (by omega)) (hvalue (n % 16) (by omega))
  have hsum : 0 * 4096 + 0 * 256 + n / 16 * 16 + n % 16 = n := by omega
  rwa [hsum] at hform

theorem charForm_escape (c : Char) : CharForm c (escape c) := by
  have hnamed {letter d : Char} (hd : (letter, d) ∈ escapes) (h : c = d) :
      CharForm c ['\\', letter] := by
    subst h
    exact .escape hd
  unfold escape
  split_ifs with hquote hescape hline hreturn htab hback hfeed hcontrol
  · exact hnamed (by decide) hquote
  · exact hnamed (by decide) hescape
  · exact hnamed (by decide) hline
  · exact hnamed (by decide) hreturn
  · exact hnamed (by decide) htab
  · exact hnamed (by decide) hback
  · exact hnamed (by decide) hfeed
  · have hcode := CharForm.code (hexForm_hexDigits hcontrol) (by omega)
    rwa [Char.ofNat_toNat] at hcode
  · exact .plain (Nat.not_lt.mp hcontrol) hquote hescape

theorem stringForm_writeString (s : String) : StringForm s (writeString s) := by
  refine .quoted ?_
  induction s.toList with
  | nil => exact .nil
  | cons c cs ih =>
    rw [List.flatMap_cons]
    exact .cons (charForm_escape c) ih

theorem naturalForm_toDigits (n : Nat) : NaturalForm n (Nat.toDigits 10 n) where
  writes := ⟨fun _ hc => Nat.isDigit_of_mem_toDigits (by decide) (by decide) hc, rfl,
    Nat.ofDigitChars_ten_toDigits⟩
  ne_nil := Nat.toDigits_ne_nil
  leading := by
    intro rest h
    rcases Nat.eq_zero_or_pos n with rfl | hpos
    · exact (List.cons.inj h).2.symm
    · exact absurd (congrArg List.head? h) (head?_toDigits hpos)

theorem integerForm_toString (n : Int) : IntegerForm n (toString n).toList := by
  cases n with
  | ofNat k =>
    have hdigits : (toString (Int.ofNat k)).toList = Nat.toDigits 10 k :=
      (congrArg String.toList Nat.repr_eq_ofList_toDigits).trans String.toList_ofList
    rw [hdigits]
    exact .natural (naturalForm_toDigits k)
  | negSucc k =>
    have hdigits : (toString (Int.negSucc k)).toList = '-' :: Nat.toDigits 10 (k + 1) := by
      have hsign : toString (Int.negSucc k) = "-" ++ Nat.repr (k + 1) := rfl
      rw [hsign, Nat.repr_eq_ofList_toDigits, String.toList_append, String.toList_ofList,
        String.toList_ofList]
      rfl
    rw [hdigits]
    exact .negative (naturalForm_toDigits (k + 1))

theorem paddedForm_of_form {j : Json} {before cs : List Char} (hbefore : IsBlank before)
    (h : Form j cs) : PaddedForm j (before ++ cs) := by
  have hpadded := PaddedForm.padded hbefore h isBlank_nil
  rwa [List.append_nil] at hpadded

theorem itemsForm_writeItems {items : List Json} (hne : items ≠ [])
    (h : ∀ j ∈ items, Form j j.write) {before : List Char} (hbefore : IsBlank before) :
    ItemsForm items (before ++ writeItems items) := by
  induction items generalizing before with
  | nil => exact absurd rfl hne
  | cons x rest ih =>
    obtain ⟨hx, hrest⟩ := List.forall_mem_cons.mp h
    have hfirst := paddedForm_of_form hbefore hx
    cases rest with
    | nil =>
      rw [writeItems]
      exact .last hfirst
    | cons y rest =>
      have htail := ItemsForm.more hfirst (ih (List.cons_ne_nil y rest) hrest isBlank_space)
      rw [writeItems, ← List.append_assoc]
      exact htail

theorem memberForm_write (name : String) {j : Json} (h : Form j j.write) {before : List Char}
    (hbefore : IsBlank before) :
    MemberForm (name, j) (before ++ (writeString name ++ ':' :: ' ' :: j.write)) :=
  .named hbefore (stringForm_writeString name) isBlank_nil (paddedForm_of_form isBlank_space h)

theorem membersForm_writeMembers {members : List (String × Json)} (hne : members ≠ [])
    (h : ∀ m ∈ members, Form m.2 m.2.write) {before : List Char} (hbefore : IsBlank before) :
    MembersForm members (before ++ writeMembers members) := by
  induction members generalizing before with
  | nil => exact absurd rfl hne
  | cons m rest ih =>
    obtain ⟨name, j⟩ := m
    obtain ⟨hj, hrest⟩ := List.forall_mem_cons.mp h
    have hfirst := memberForm_write name hj hbefore
    cases rest with
    | nil =>
      rw [writeMembers]
      exact .last hfirst
    | cons m rest =>
      have htail := MembersForm.more hfirst (ih (List.cons_ne_nil m rest) hrest isBlank_space)
      rw [writeMembers]
      simpa only [List.append_assoc, List.cons_append, List.nil_append] using htail

/-- What is written has the form of the value. -/
theorem form_write {j : Json} (h : j.IsProper) : Form j j.write := by
  induction h with
  | null => exact .null
  | bool b =>
    cases b with
    | true => exact .true
    | false => exact .false
  | int n => exact .int (integerForm_toString n)
  | real h => exact .real h
  | string s => exact .string (stringForm_writeString s)
  | @array items _ ih =>
    rw [write]
    cases items with
    | nil => exact .emptyArray isBlank_nil
    | cons x items => exact .array (itemsForm_writeItems (List.cons_ne_nil x items) ih isBlank_nil)
  | @object members _ ih =>
    rw [write]
    cases members with
    | nil => exact .emptyObject isBlank_nil
    | cons m members =>
      exact .object (membersForm_writeMembers (List.cons_ne_nil m members) ih isBlank_nil)

end Json

end DatePattern
