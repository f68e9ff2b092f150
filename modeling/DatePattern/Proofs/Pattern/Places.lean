import DatePattern.Proofs.Pattern.Scanning
import Mathlib.Data.List.SplitBy

/-! The tokens of a pattern, told place by place. The quotes before a place decide whether its
character is a letter of a run, and each longest run of quotes leaves half of them behind. -/
namespace DatePattern

/-- The character at a place is a letter of ASCII outside quotes: those before it pair up. -/
def IsBareLetter (cs : List Char) (i : Nat) : Prop :=
  (∃ c ∈ cs[i]?, c.isAlpha = true) ∧ (cs.take i).count quote % 2 = 0

-- The place is looked up: a search through all characters would decide it as well.
instance (cs : List Char) (i : Nat) : Decidable (IsBareLetter cs i) :=
  @instDecidableAnd _ _ (Option.decidableExistsMem _) inferInstance

section

variable {before rest : List Char} {i j : Nat} (chunk : List Char)

theorem isBareLetter_append_iff (hj : j < chunk.length) :
    IsBareLetter (before ++ (chunk ++ rest)) (before.length + j) ↔
      (∃ c ∈ chunk[j]?, c.isAlpha = true) ∧ inQuotes (before ++ chunk.take j) = false := by
  have hget : (before ++ (chunk ++ rest))[before.length + j]? = chunk[j]? := by
    rw [List.getElem?_append_right (Nat.le_add_right _ _), Nat.add_sub_cancel_left,
      List.getElem?_append_left hj]
  have htake : (before ++ (chunk ++ rest)).take (before.length + j) = before ++ chunk.take j := by
    rw [List.take_length_add_append, List.take_append_of_le_length hj.le]
  rw [IsBareLetter, hget, htake, inQuotes_eq_false_iff]

/-- A part of a pattern that holds no letter, or is within quotes, may be passed over. -/
theorem isBareLetter_skip_iff
    (h : (∀ c ∈ chunk, isPatternLetter c = false) ∨ (inQuotes before = true ∧ quote ∉ chunk)) :
    before.length ≤ i ∧ IsBareLetter (before ++ (chunk ++ rest)) i ↔
      (before ++ chunk).length ≤ i ∧ IsBareLetter (before ++ chunk ++ rest) i := by
  rw [List.append_assoc, List.length_append]
  constructor
  · rintro ⟨hi, hbare⟩
    refine ⟨?_, hbare⟩
    by_contra hlt
    obtain ⟨j, rfl⟩ := Nat.exists_eq_add_of_le hi
    rw [isBareLetter_append_iff chunk (by omega)] at hbare
    obtain ⟨⟨c, hc, hletter⟩, hout⟩ := hbare
    rcases h with h | ⟨hq, hquote⟩
    · exact Bool.false_ne_true ((h c (List.mem_of_getElem? hc)).symm.trans hletter)
    · have hcount : (chunk.take j).count quote = 0 :=
        List.count_eq_zero.mpr fun hmem => hquote (List.mem_of_mem_take hmem)
      rw [inQuotes_append (by rw [hcount]), hq] at hout
      cases hout
  · rintro ⟨hi, hbare⟩
    exact ⟨by omega, hbare⟩

end

namespace Token

/-- The place is one of a run. -/
def covers (i : Nat) : Token → Bool
  | literal _ => false
  | run r => decide (r.position ≤ i ∧ i < r.position + r.length)

theorem countP_covers_consLiteral (i : Nat) (c : Char) (tokens : List Token) :
    (consLiteral c tokens).countP (covers i) = tokens.countP (covers i) := by
  cases tokens with
  | nil => rfl
  | cons t ts => cases t <;> rfl

/-- Each letter outside quotes is in one run, and no other place is in any. -/
theorem countP_covers_scanAfter (before rest : List Char) (i : Nat) :
    (scanAfter before rest).countP (covers i) =
      if before.length ≤ i ∧ IsBareLetter (before ++ rest) i then 1 else 0 := by
  induction before, rest using scan_induction with
  | nil before =>
    have hnone : ¬ (before.length ≤ i ∧ IsBareLetter (before ++ []) i) := by
      rintro ⟨hi, ⟨c, hc, -⟩, -⟩
      rw [List.append_nil, List.getElem?_eq_none hi] at hc
      cases hc
    rw [scanAfter_nil, if_neg hnone]
    rfl
  | quotes before rest ih =>
    rw [scanAfter_quotes, countP_covers_consLiteral, ih]
    exact if_congr (isBareLetter_skip_iff [quote, quote] (.inl (by simp [quote_not_letter]))).symm rfl rfl
  | quote before rest h ih =>
    rw [scanAfter_quote h, ih]
    exact if_congr (isBareLetter_skip_iff [quote] (.inl (by simp [quote_not_letter]))).symm rfl rfl
  | text before c rest hc h ih =>
    have hskip : (∀ d ∈ [c], isPatternLetter d = false) ∨ (inQuotes before = true ∧ quote ∉ [c]) := by
      rcases h with h | h
      · exact .inr ⟨h, by simpa using hc.symm⟩
      · exact .inl (by simpa using h)
    rw [scanAfter_text hc h, countP_covers_consLiteral, ih]
    exact if_congr (isBareLetter_skip_iff [c] hskip).symm rfl rfl
  | letters before c n rest hq hc h ih =>
    have hbare : ∀ j < n + 1,
        IsBareLetter (before ++ (List.replicate (n + 1) c ++ rest)) (before.length + j) := by
      intro j hj
      rw [isBareLetter_append_iff _ (by rw [List.length_replicate]; exact hj)]
      refine ⟨⟨c, List.getElem?_replicate_of_lt hj, hc⟩, ?_⟩
      rw [List.take_replicate, inQuotes_append_replicate (ne_quote_of_letter hc), hq]
    rw [scanAfter_letters hq hc h, List.countP_cons, ih, List.length_append, List.length_replicate,
      List.append_assoc]
    by_cases hi : before.length ≤ i ∧ i < before.length + (n + 1)
    · obtain ⟨j, rfl⟩ := Nat.exists_eq_add_of_le hi.1
      have hcovers : covers (before.length + j) (.run ⟨c, n + 1, before.length⟩) = true :=
        decide_eq_true hi
      rw [if_neg (by omega), hcovers, if_pos rfl, if_pos ⟨hi.1, hbare j (by omega)⟩]
    · have hcovers : covers i (.run ⟨c, n + 1, before.length⟩) = false := decide_eq_false hi
      rw [hcovers, if_neg Bool.false_ne_true, Nat.add_zero]
      refine if_congr (and_congr_left fun _ => ?_) rfl rfl
      omega

/-- What a token says: a literal its text, a run the letters that it is written with. -/
def chars : Token → List Char
  | literal cs => cs
  | run r => List.replicate r.length r.letter

end Token

/-- Of each longest run of quotes half is kept, rounded down, and all else as it is. -/
def halveQuotes (cs : List Char) : List Char :=
  (cs.splitBy fun a b => a == quote && b == quote).flatMap fun part =>
    if quote ∈ part then List.replicate (part.length / 2) quote else part

theorem halveQuotes_cons_of_ne {c : Char} (hc : c ≠ quote) (cs : List Char) :
    halveQuotes (c :: cs) = c :: halveQuotes cs := by
  have hsplit : (c :: cs).splitBy (fun a b => a == quote && b == quote) =
      [c] :: cs.splitBy fun a b => a == quote && b == quote :=
    List.splitBy_append (l := [c]) (by simp [hc])
  have hkeep : (if quote ∈ [c] then List.replicate ([c].length / 2) quote else [c]) = [c] :=
    if_neg (by simpa using hc.symm)
  rw [halveQuotes, hsplit, List.flatMap_cons, hkeep]
  rfl

theorem halveQuotes_quoteRun {rest : List Char} (h : rest.head? ≠ some quote) (k : Nat) :
    halveQuotes (List.replicate k quote ++ rest) =
      List.replicate (k / 2) quote ++ halveQuotes rest := by
  cases k with
  | zero => rfl
  | succ k =>
    have hrun : (List.replicate (k + 1) quote).splitBy (fun a b => a == quote && b == quote) =
        [List.replicate (k + 1) quote] := by
      refine List.splitBy_of_isChain (by simp) ?_
      exact List.isChain_replicate_of_rel _ rfl
    have hsplit := List.splitBy_append (r := fun a b => a == quote && b == quote)
      (l := List.replicate (k + 1) quote) (m := rest) (by
        intro x _ y hy
        have hne : y ≠ quote := fun heq => h (heq ▸ hy)
        simp [hne])
    have hhalf : (if quote ∈ List.replicate (k + 1) quote then
        List.replicate ((List.replicate (k + 1) quote).length / 2) quote
        else List.replicate (k + 1) quote) = List.replicate ((k + 1) / 2) quote := by
      rw [if_pos (List.mem_replicate.mpr ⟨Nat.succ_ne_zero k, rfl⟩), List.length_replicate]
    rw [halveQuotes, hsplit, hrun, List.flatMap_append, List.flatMap_singleton, hhalf]
    rfl

theorem halveQuotes_quotes (cs : List Char) :
    halveQuotes (quote :: quote :: cs) = quote :: halveQuotes cs := by
  obtain ⟨n, rest, rfl, h⟩ := exists_longestRun quote cs
  have hhalf : (n + 2) / 2 = n / 2 + 1 := by omega
  have hpair := halveQuotes_quoteRun h (n + 2)
  rw [hhalf] at hpair
  rw [halveQuotes_quoteRun h n]
  exact hpair

theorem halveQuotes_letters {c : Char} (hc : c ≠ quote) (n : Nat) (rest : List Char) :
    halveQuotes (List.replicate n c ++ rest) = List.replicate n c ++ halveQuotes rest := by
  induction n with
  | zero => rfl
  | succ n ih =>
    rw [List.replicate_succ, List.cons_append, halveQuotes_cons_of_ne hc, ih, List.cons_append]

namespace Token

theorem flatMap_chars_consLiteral (c : Char) (tokens : List Token) :
    (consLiteral c tokens).flatMap chars = c :: tokens.flatMap chars := by
  cases tokens with
  | nil => rfl
  | cons t ts => cases t <;> rfl

theorem flatMap_chars_scanAfter (before rest : List Char) :
    (scanAfter before rest).flatMap chars = halveQuotes rest := by
  induction before, rest using scan_induction with
  | nil before =>
    rw [scanAfter_nil]
    rfl
  | quotes before rest ih =>
    rw [scanAfter_quotes, flatMap_chars_consLiteral, ih, halveQuotes_quotes]
  | quote before rest h ih =>
    rw [scanAfter_quote h, ih]
    exact (halveQuotes_quoteRun h 1).symm
  | text before c rest hc h ih =>
    rw [scanAfter_text hc h, flatMap_chars_consLiteral, ih, halveQuotes_cons_of_ne hc]
  | letters before c n rest hq hc h ih =>
    rw [scanAfter_letters hq hc h, List.flatMap_cons, ih, chars,
      halveQuotes_letters (ne_quote_of_letter hc)]

end Token

/-- The run is a longest run of its letter at its place in the pattern. -/
def LetterRun.IsLongestIn (r : LetterRun) (cs : List Char) : Prop :=
  1 ≤ r.length ∧ ∃ before after, cs = before ++ List.replicate r.length r.letter ++ after ∧
    before.length = r.position ∧
    before.getLast? ≠ some r.letter ∧ after.head? ≠ some r.letter

namespace Token

theorem mem_consLiteral {c : Char} {tokens : List Token} {r : LetterRun} :
    .run r ∈ consLiteral c tokens ↔ .run r ∈ tokens := by
  cases tokens with
  | nil => simp [consLiteral]
  | cons t ts => cases t <;> simp [consLiteral]

/-- A run is a longest one if the part of the pattern that is read does not begin in the middle of
one. -/
theorem isLongestIn_of_mem_scanAfter {before rest : List Char}
    (hcut : inQuotes before = false →
      ∀ c, before.getLast? = some c → isPatternLetter c = true → rest.head? ≠ some c)
    {r : LetterRun} (hr : .run r ∈ scanAfter before rest) : r.IsLongestIn (before ++ rest) := by
  induction before, rest using scan_induction with
  | nil before =>
    rw [scanAfter_nil] at hr
    cases hr
  | quotes before rest ih =>
    rw [scanAfter_quotes, mem_consLiteral] at hr
    have := ih (by simp [quote_not_letter]) hr
    rwa [List.append_assoc] at this
  | quote before rest h ih =>
    rw [scanAfter_quote h] at hr
    have := ih (by simp [quote_not_letter]) hr
    rwa [List.append_assoc] at this
  | text before c rest hc h ih =>
    rw [scanAfter_text hc h, mem_consLiteral] at hr
    have hcut' : inQuotes (before ++ [c]) = false → ∀ d, (before ++ [c]).getLast? = some d →
        isPatternLetter d = true → rest.head? ≠ some d := by
      intro hq d hd hletter
      rw [inQuotes_concat_of_ne hc] at hq
      rw [List.getLast?_concat, Option.some.injEq] at hd
      subst hd
      rcases h with h | h
      · rw [hq] at h
        cases h
      · rw [h] at hletter
        cases hletter
    have := ih hcut' hr
    rwa [List.append_assoc] at this
  | letters before c n rest hq hc h ih =>
    rw [scanAfter_letters hq hc h] at hr
    rcases List.mem_cons.mp hr with heq | hr
    · cases heq
      refine ⟨Nat.succ_pos n, before, rest, (List.append_assoc _ _ _).symm, rfl, ?_, h⟩
      intro hlast
      exact hcut hq c hlast hc rfl
    · have hlast : (before ++ List.replicate (n + 1) c).getLast? = some c := by
        rw [List.replicate_succ', ← List.append_assoc, List.getLast?_concat]
      have := ih (fun _ d hd _ => by
        rw [hlast] at hd
        cases hd
        exact h) hr
      rwa [List.append_assoc] at this

/-- A token that can stand in a pattern: text, or at least one of a letter. -/
def IsProper : Token → Prop
  | literal cs => cs ≠ []
  | run r => isPatternLetter r.letter = true ∧ 1 ≤ r.length

theorem isProper_of_mem_consLiteral {c : Char} {tokens : List Token}
    (h : ∀ t ∈ tokens, t.IsProper) : ∀ t ∈ consLiteral c tokens, t.IsProper := by
  have hliteral (cs : List Char) : (literal (c :: cs)).IsProper := List.cons_ne_nil c cs
  cases tokens with
  | nil => exact List.forall_mem_singleton.mpr (hliteral [])
  | cons t ts =>
    cases t with
    | literal cs => exact List.forall_mem_cons.mpr ⟨hliteral cs, (List.forall_mem_cons.mp h).2⟩
    | run r => exact List.forall_mem_cons.mpr ⟨hliteral [], h⟩

theorem isProper_of_mem_scanAfter (before rest : List Char) :
    ∀ t ∈ scanAfter before rest, t.IsProper := by
  induction before, rest using scan_induction with
  | nil before =>
    rw [scanAfter_nil]
    exact List.forall_mem_nil _
  | quotes before rest ih =>
    rw [scanAfter_quotes]
    exact isProper_of_mem_consLiteral ih
  | quote before rest h ih =>
    rwa [scanAfter_quote h]
  | text before c rest hc h ih =>
    rw [scanAfter_text hc h]
    exact isProper_of_mem_consLiteral ih
  | letters before c n rest hq hc h ih =>
    rw [scanAfter_letters hq hc h]
    exact List.forall_mem_cons.mpr ⟨⟨hc, Nat.succ_pos n⟩, ih⟩

/-- A token that may come directly behind another: never a literal behind a literal, and a run
behind a run only where that ends, and of another letter. -/
def Follows : Token → Token → Prop
  | literal _, literal _ => False
  | run r, run s => r.letter ≠ s.letter ∧ s.position = r.position + r.length
  | _, _ => True

theorem isChain_consLiteral {c : Char} {tokens : List Token} (h : tokens.IsChain Follows) :
    (consLiteral c tokens).IsChain Follows := by
  cases tokens with
  | nil => exact .singleton _
  | cons t ts =>
    cases t with
    | literal cs => exact h.cons_of_imp fun t ht => by cases t <;> exact ht
    | run r => exact .cons_cons trivial h

theorem isChain_scanAfter (before rest : List Char) :
    (scanAfter before rest).IsChain Follows := by
  induction before, rest using scan_induction with
  | nil before =>
    rw [scanAfter_nil]
    exact .nil
  | quotes before rest ih =>
    rw [scanAfter_quotes]
    exact isChain_consLiteral ih
  | quote before rest h ih =>
    rwa [scanAfter_quote h]
  | text before c rest hc h ih =>
    rw [scanAfter_text hc h]
    exact isChain_consLiteral ih
  | letters before c n rest hq hc h ih =>
    rw [scanAfter_letters hq hc h, List.isChain_cons]
    refine ⟨fun t ht => ?_, ih⟩
    cases t with
    | literal cs => trivial
    | run s =>
      have hq' : inQuotes (before ++ List.replicate (n + 1) c) = false := by
        rw [inQuotes_append_replicate (ne_quote_of_letter hc), hq]
      obtain ⟨hposition, hletter⟩ := head_scanAfter hq' ht
      refine ⟨fun hsame => h (hletter.trans (congrArg some hsame.symm)), ?_⟩
      rw [hposition, List.length_append, List.length_replicate]

/-- The tokens of any pattern, with quoted text closed or not. A place is in a run exactly when it
holds a letter with an even number of quotes before it, and then in one run only; a run is a longest
one of its letter. In order the tokens say what the pattern does when each longest run of quotes is
halved. No literal is empty or beside another, and runs side by side meet and differ in letter. -/
theorem scan_by_place (p : String) :
    (∀ i, (∃ t ∈ scan p, t.covers i = true) ↔ IsBareLetter p.toList i) ∧
    (∀ i, IsBareLetter p.toList i → (scan p).countP (covers i) = 1) ∧
    (∀ r, .run r ∈ scan p → r.IsLongestIn p.toList) ∧
    (scan p).flatMap chars = halveQuotes p.toList ∧
    .literal [] ∉ scan p ∧ (scan p).IsChain Follows := by
  have hcount (i : Nat) : (scan p).countP (covers i) = if IsBareLetter p.toList i then 1 else 0 := by
    rw [← scanAfter_empty, countP_covers_scanAfter]
    exact if_congr (and_iff_right (Nat.zero_le i)) rfl rfl
  refine ⟨fun i => ?_, fun i hi => ?_, fun r hr => ?_, ?_, fun hempty => ?_, ?_⟩
  · rw [← List.countP_pos_iff, hcount]
    split <;> simp_all
  · rw [hcount, if_pos hi]
  · rw [← scanAfter_empty] at hr
    have hlongest := isLongestIn_of_mem_scanAfter (fun _ _ hlast => by cases hlast) hr
    exact hlongest
  · exact flatMap_chars_scanAfter [] p.toList
  · exact isProper_of_mem_scanAfter [] p.toList _ hempty rfl
  · exact isChain_scanAfter [] p.toList

/-- The letter behind a quoted text that holds a quote itself. -/
theorem scan_by_place_behind_quotes :
    IsBareLetter "h'o''clock'a".toList 11 ∧
      (scan "h'o''clock'a").countP (covers 11) = 1 :=
  ⟨by decide, (scan_by_place _).2.1 11 (by decide)⟩

end Token

end DatePattern
