import DatePattern.Pattern.Token

/-! Reading a pattern from the middle: the state there is the parity of the quotes before it. Each
step of the reader is one equation, and one induction goes through a pattern by these steps. -/
namespace DatePattern

theorem quote_not_letter : isPatternLetter quote = false := rfl

theorem ne_quote_of_letter {c : Char} (hc : isPatternLetter c = true) : c ≠ quote := by
  rintro rfl
  rw [quote_not_letter] at hc
  cases hc

/-- The beginning of a pattern ends within quotes. -/
def inQuotes (before : List Char) : Bool := before.count quote % 2 == 1

theorem inQuotes_eq_false_iff {before : List Char} :
    inQuotes before = false ↔ before.count quote % 2 = 0 := by
  rw [inQuotes, beq_eq_false_iff_ne]
  omega

theorem inQuotes_concat_quote (before : List Char) :
    inQuotes (before ++ [quote]) = !inQuotes before := by
  have hcount : (before ++ [quote]).count quote = before.count quote + 1 := by
    rw [List.count_append, List.count_singleton_self]
  rw [inQuotes, inQuotes, hcount, Bool.eq_iff_iff]
  simp only [beq_iff_eq, Bool.not_eq_true', beq_eq_false_iff_ne]
  omega

theorem inQuotes_append {before cs : List Char} (h : cs.count quote % 2 = 0) :
    inQuotes (before ++ cs) = inQuotes before := by
  rw [inQuotes, inQuotes, List.count_append, Bool.eq_iff_iff, beq_iff_eq, beq_iff_eq]
  omega

theorem inQuotes_append_left {start : List Char} (h : inQuotes start = false) (before : List Char) :
    inQuotes (start ++ before) = inQuotes before := by
  have hcount := inQuotes_eq_false_iff.mp h
  rw [inQuotes, inQuotes, List.count_append, Bool.eq_iff_iff, beq_iff_eq, beq_iff_eq]
  omega

theorem inQuotes_append_replicate {before : List Char} {c : Char} (hc : c ≠ quote) (n : Nat) :
    inQuotes (before ++ List.replicate n c) = inQuotes before := by
  have hcount : (List.replicate n c).count quote = 0 :=
    List.count_eq_zero.mpr fun hmem => hc (List.eq_of_mem_replicate hmem).symm
  exact inQuotes_append (by rw [hcount])

theorem inQuotes_concat_of_ne {before : List Char} {c : Char} (hc : c ≠ quote) :
    inQuotes (before ++ [c]) = inQuotes before :=
  inQuotes_append_replicate hc 1

namespace Token

variable {before rest : List Char} {c : Char} {tokens : List Token}

/-- The tokens of the rest of a pattern, behind a beginning. -/
def scanAfter (before rest : List Char) : List Token :=
  scanFrom (inQuotes before) before.length rest

theorem scanAfter_empty (p : String) : scanAfter [] p.toList = scan p := rfl

theorem scanAfter_nil (before : List Char) : scanAfter before [] = [] := rfl

/-- What is no quote is text or a letter, which joins what comes behind it. -/
theorem scanFrom_of_ne {quoted : Bool} {position : Nat} (hc : c ≠ quote) :
    scanFrom quoted position (c :: rest) =
      if quoted || !isPatternLetter c then consLiteral c (scanFrom quoted (position + 1) rest)
      else consLetter c position (scanFrom quoted (position + 1) rest) := by
  rw [scanFrom.eq_def]
  exact if_neg hc

/-- Two quotes are one, within quotes and outside. -/
theorem scanAfter_quotes (before rest : List Char) :
    scanAfter before (quote :: quote :: rest) =
      consLiteral quote (scanAfter (before ++ [quote, quote]) rest) := by
  have hq : inQuotes (before ++ [quote, quote]) = inQuotes before := inQuotes_append rfl
  rw [scanAfter, scanAfter, hq, List.length_append]
  exact (if_pos rfl).trans (if_pos rfl)

/-- A quote alone opens or closes quoted text. -/
theorem scanAfter_quote (h : rest.head? ≠ some quote) :
    scanAfter before (quote :: rest) = scanAfter (before ++ [quote]) rest := by
  rw [scanAfter, scanAfter, inQuotes_concat_quote, List.length_append]
  cases rest with
  | nil => rfl
  | cons d rest =>
    have hd : d ≠ quote := fun hd => h (by rw [List.head?_cons, hd])
    exact (if_pos rfl).trans (if_neg hd)

theorem scanAfter_text (hc : c ≠ quote)
    (h : inQuotes before = true ∨ isPatternLetter c = false) :
    scanAfter before (c :: rest) = consLiteral c (scanAfter (before ++ [c]) rest) := by
  have htext : (inQuotes before || !isPatternLetter c) = true := by
    rcases h with h | h
    · rw [h, Bool.true_or]
    · rw [h, Bool.not_false, Bool.or_true]
  rw [scanAfter, scanFrom_of_ne hc, if_pos htext, scanAfter, inQuotes_concat_of_ne hc,
    List.length_append]
  rfl

theorem scanAfter_letter (hq : inQuotes before = false) (hc : isPatternLetter c = true) :
    scanAfter before (c :: rest) = consLetter c before.length (scanAfter (before ++ [c]) rest) := by
  have hletter : ¬ (inQuotes before || !isPatternLetter c) = true := by
    rw [hq, hc]
    decide
  have hne := ne_quote_of_letter hc
  rw [scanAfter, scanFrom_of_ne hne, if_neg hletter, scanAfter, inQuotes_concat_of_ne hne,
    List.length_append]
  rfl

theorem head_consLiteral (c : Char) (tokens : List Token) (r : LetterRun) :
    (consLiteral c tokens).head? ≠ some (.run r) := by
  cases tokens with
  | nil => simp [consLiteral]
  | cons t ts => cases t <;> simp [consLiteral]

/-- Outside quotes a run that comes first begins at once. -/
theorem head_scanAfter (hq : inQuotes before = false) {r : LetterRun}
    (h : (scanAfter before rest).head? = some (.run r)) :
    r.position = before.length ∧ rest.head? = some r.letter := by
  cases rest with
  | nil =>
    rw [scanAfter_nil] at h
    cases h
  | cons c rest =>
    by_cases hc : c = quote
    · subst hc
      exfalso
      cases rest with
      | nil =>
        rw [scanAfter_quote (by simp), scanAfter_nil] at h
        cases h
      | cons d rest =>
        by_cases hd : d = quote
        · subst hd
          rw [scanAfter_quotes] at h
          exact head_consLiteral _ _ _ h
        · have hopen : inQuotes (before ++ [quote]) = true := by rw [inQuotes_concat_quote, hq]; rfl
          rw [scanAfter_quote (by simpa using hd), scanAfter_text hd (.inl hopen)] at h
          exact head_consLiteral _ _ _ h
    · by_cases hletter : isPatternLetter c = true
      · rw [scanAfter_letter hq hletter] at h
        cases hts : scanAfter (before ++ [c]) rest with
        | nil =>
          rw [hts] at h
          cases h
          exact ⟨rfl, rfl⟩
        | cons t ts =>
          rw [hts] at h
          cases t with
          | literal cs =>
            cases h
            exact ⟨rfl, rfl⟩
          | run s =>
            rw [consLetter] at h
            split at h <;> cases h <;> exact ⟨rfl, rfl⟩
      · rw [scanAfter_text hc (.inr (Bool.not_eq_true _ ▸ hletter))] at h
        exact absurd h (head_consLiteral _ _ _)

/-- A longest run of a letter is one token. -/
theorem scanAfter_letters (hq : inQuotes before = false) (hc : isPatternLetter c = true)
    (hrest : rest.head? ≠ some c) (n : Nat) :
    scanAfter before (List.replicate (n + 1) c ++ rest) =
      .run ⟨c, n + 1, before.length⟩ :: scanAfter (before ++ List.replicate (n + 1) c) rest := by
  induction n generalizing before with
  | zero =>
    have hq' : inQuotes (before ++ [c]) = false := by
      rw [inQuotes_concat_of_ne (ne_quote_of_letter hc), hq]
    rw [List.replicate_one, List.singleton_append, scanAfter_letter hq hc]
    cases hts : scanAfter (before ++ [c]) rest with
    | nil => rfl
    | cons t ts =>
      cases t with
      | literal cs => rfl
      | run r =>
        have hr := (head_scanAfter hq' (by rw [hts, List.head?_cons])).2
        exact if_neg fun h => hrest (by rw [hr, h.1])
  | succ n ih =>
    have hq' : inQuotes (before ++ [c]) = false := by
      rw [inQuotes_concat_of_ne (ne_quote_of_letter hc), hq]
    rw [List.replicate_succ, List.cons_append, scanAfter_letter hq hc, ih hq', List.append_assoc,
      List.length_append]
    exact if_pos ⟨rfl, rfl⟩

/-- A pattern of one letter, however long, is one run. -/
theorem scan_letters (hc : isPatternLetter c = true) (n : Nat) :
    scan (String.ofList (List.replicate (n + 1) c)) = [.run ⟨c, n + 1, 0⟩] := by
  have hrun := scanAfter_letters (show inQuotes [] = false from rfl) hc
    (show ([] : List Char).head? ≠ some c by simp) n
  rw [List.append_nil, scanAfter_nil] at hrun
  rw [← scanAfter_empty, String.toList_ofList]
  exact hrun

end Token

/-- Characters begin with a longest run of a character, which may be empty. -/
theorem exists_longestRun (c : Char) (cs : List Char) :
    ∃ n rest, cs = List.replicate n c ++ rest ∧ rest.head? ≠ some c := by
  induction cs with
  | nil => exact ⟨0, [], rfl, by simp⟩
  | cons d cs ih =>
    by_cases hd : d = c
    · subst hd
      obtain ⟨n, rest, rfl, hrest⟩ := ih
      exact ⟨n + 1, rest, rfl, hrest⟩
    · exact ⟨0, d :: cs, rfl, by simpa using hd⟩

/-- A pattern is gone through by pairs of quotes, quotes alone, longest runs of a letter outside
quotes, and other characters one by one. -/
theorem scan_induction {motive : List Char → List Char → Prop}
    (nil : ∀ before, motive before [])
    (quotes : ∀ before rest, motive (before ++ [quote, quote]) rest →
      motive before (quote :: quote :: rest))
    (quote : ∀ before rest, rest.head? ≠ some quote → motive (before ++ [quote]) rest →
      motive before (quote :: rest))
    (text : ∀ before c rest, c ≠ DatePattern.quote →
      (inQuotes before = true ∨ isPatternLetter c = false) →
      motive (before ++ [c]) rest → motive before (c :: rest))
    (letters : ∀ before c n rest, inQuotes before = false → isPatternLetter c = true →
      rest.head? ≠ some c → motive (before ++ List.replicate (n + 1) c) rest →
      motive before (List.replicate (n + 1) c ++ rest))
    (before rest : List Char) : motive before rest := by
  induction hlen : rest.length using Nat.strongRecOn generalizing before rest with
  | ind length ih =>
    subst hlen
    cases rest with
    | nil => exact nil before
    | cons c rest =>
      by_cases hc : c = DatePattern.quote
      · subst hc
        cases rest with
        | nil => exact quote before [] (by simp) (nil _)
        | cons d rest =>
          by_cases hd : d = DatePattern.quote
          · subst hd
            exact quotes before rest (ih _ (Nat.lt_add_of_pos_right (k := 2) Nat.two_pos) _ _ rfl)
          · exact quote before _ (by simpa using hd) (ih _ (Nat.lt_succ_self _) _ _ rfl)
      · by_cases hletter : inQuotes before = false ∧ isPatternLetter c = true
        · obtain ⟨n, more, rfl, hmore⟩ := exists_longestRun c rest
          have hshort : more.length < (c :: (List.replicate n c ++ more)).length := by
            simp only [List.length_cons, List.length_append]
            omega
          exact letters before c n more hletter.1 hletter.2 hmore (ih _ hshort _ _ rfl)
        · refine text before c _ hc ?_ (ih _ (Nat.lt_succ_self _) _ _ rfl)
          cases hq : inQuotes before with
          | true => exact .inl rfl
          | false => exact .inr (Bool.eq_false_iff.mpr fun h => hletter ⟨hq, h⟩)

end DatePattern
