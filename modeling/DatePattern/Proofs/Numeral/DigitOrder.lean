import DatePattern.Proofs.Numeral.FixedWidth
import Mathlib.Data.List.Forall2
import Mathlib.Data.List.Lex

/-! The order of texts by code points. Numbers in digits of fixed widths are in it as the numbers are,
the leading ones first. -/
namespace DatePattern

/-- The first text is sorted before the second one by code points. -/
def SortsBefore (cs ds : List Char) : Prop :=
  List.Lex (· < ·) (cs.map Char.toNat) (ds.map Char.toNat)

section

variable {cs ds : List Char}

theorem SortsBefore.asymm (h : SortsBefore cs ds) : ¬ SortsBefore ds cs := by
  intro h'
  exact asymm_of (List.Lex (· < ·)) h h'

theorem SortsBefore.append_left (h : SortsBefore cs ds) (before : List Char) :
    SortsBefore (before ++ cs) (before ++ ds) := by
  unfold SortsBefore
  rw [List.map_append, List.map_append]
  exact List.Lex.append_left _ h _

/-- Between texts of one length nothing that stands behind them counts. -/
theorem lex_append_of_length_eq {as bs : List Nat} (h : List.Lex (· < ·) as bs)
    (hlength : as.length = bs.length) (cs ds : List Nat) :
    List.Lex (· < ·) (as ++ cs) (bs ++ ds) := by
  induction h with
  | nil => cases hlength
  | cons _ ih => exact .cons (ih (Nat.succ.inj hlength))
  | rel hlt => exact .rel hlt

theorem SortsBefore.append_right (h : SortsBefore cs ds) (hlength : cs.length = ds.length)
    (es fs : List Char) : SortsBefore (cs ++ es) (ds ++ fs) := by
  unfold SortsBefore
  rw [List.map_append, List.map_append]
  apply lex_append_of_length_eq h
  rw [List.length_map, List.length_map, hlength]

end

theorem sortsBefore_digitChar {n k : Nat} (h : n < k) (hk : k < 10) :
    SortsBefore [Nat.digitChar n] [Nat.digitChar k] := by
  apply List.Lex.rel
  rw [Nat.toNat_digitChar_of_lt_ten (h.trans hk), Nat.toNat_digitChar_of_lt_ten hk]
  omega

/-- In one width the smaller number comes first: the digits in front decide, and where they are the
same the last one does. -/
theorem sortsBefore_fixedWidth {width n k : Nat} (hw : 1 ≤ width) (h : n < k)
    (hk : k < tenTo width) : SortsBefore (fixedWidth width n) (fixedWidth width k) := by
  induction width, hw using Nat.le_induction generalizing n k with
  | base =>
    have hdigit : k < 10 := hk
    have hone {j : Nat} (hj : j < 10) : fixedWidth 1 j = [Nat.digitChar j] := by
      rw [fixedWidth, Nat.toDigits_of_lt_base hj]
      rfl
    rw [hone (h.trans hdigit), hone hdigit]
    exact sortsBefore_digitChar h hdigit
  | succ width hw ih =>
    have hpow : tenTo (width + 1) = tenTo width * 10 := rfl
    rw [fixedWidth_succ hw, fixedWidth_succ hw]
    rcases Nat.lt_or_ge (n / 10) (k / 10) with hfront | hfront
    · have hfits : k / 10 < tenTo width := by omega
      have hlength := (writesNumber_fixedWidth hw (hfront.trans hfits)).length.trans
        (writesNumber_fixedWidth hw hfits).length.symm
      exact (ih hfront hfits).append_right hlength _ _
    · have hsame : n / 10 = k / 10 := by omega
      rw [hsame]
      exact (sortsBefore_digitChar (by omega) (Nat.mod_lt _ (by decide))).append_left _

/-- A number in a text of fixed form: what stands before it, and its width. -/
structure NumberSlot where
  before : List Char
  width : Nat

def NumberSlot.Fits (slot : NumberSlot) (n : Nat) : Prop := 1 ≤ slot.width ∧ n < tenTo slot.width

/-- The text of numbers in a fixed form. -/
def filledSlots : List NumberSlot → List Nat → List Char
  | slot :: form, n :: ns => slot.before ++ (fixedWidth slot.width n ++ filledSlots form ns)
  | _, _ => []

/-- Texts of one form are sorted by the first number in which they differ. -/
theorem sortsBefore_filledSlots {form : List NumberSlot} {ns ks : List Nat}
    (hns : List.Forall₂ NumberSlot.Fits form ns) (hks : List.Forall₂ NumberSlot.Fits form ks)
    (h : List.Lex (· < ·) ns ks) : SortsBefore (filledSlots form ns) (filledSlots form ks) := by
  induction hns generalizing ks with
  | nil =>
    cases hks
    cases h
  | cons hn _ ih =>
    cases hks with
    | cons hk hks =>
      apply SortsBefore.append_left
      cases h with
      | cons h => exact (ih hks h).append_left _
      | rel hlt =>
        have hlength := (writesNumber_fixedWidth hn.1 hn.2).length.trans
          (writesNumber_fixedWidth hk.1 hk.2).length.symm
        exact (sortsBefore_fixedWidth hn.1 hlt hk.2).append_right hlength _ _

end DatePattern
