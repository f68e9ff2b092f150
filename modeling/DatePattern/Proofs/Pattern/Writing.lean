import DatePattern.Proofs.Pattern.Places

/-! Patterns written from tokens: reading one gives the tokens back, whatever text their literals
hold and whatever stands beside them. -/
namespace DatePattern

namespace Token

variable {before rest cs : List Char} {tokens : List Token}

/-- A token as it is written in a pattern. -/
def written : Token → List Char
  | literal cs => escape cs
  | run r => List.replicate r.length r.letter

def write (tokens : List Token) : String := String.ofList (tokens.flatMap written)

/-- The token at another place. Only runs have one. -/
def movedTo (position : Nat) : Token → Token
  | literal cs => literal cs
  | run r => run { r with position := position }

/-- Tokens with the places that they have when they are written from a position on. -/
def placeFrom (position : Nat) : List Token → List Token
  | [] => []
  | t :: rest => t.movedTo position :: placeFrom (position + t.written.length) rest

/-- Two tokens that stay apart side by side: not two literals, and no two runs of one letter. -/
def Apart : Token → Token → Prop
  | literal _, literal _ => False
  | run r, run s => r.letter ≠ s.letter
  | _, _ => True

/-- Tokens that no other tokens are written like. -/
structure Normal (tokens : List Token) : Prop where
  proper : ∀ t ∈ tokens, t.IsProper
  apart : tokens.IsChain Apart

theorem Normal.tail {t : Token} (h : Normal (t :: tokens)) : Normal tokens :=
  ⟨(List.forall_mem_cons.mp h.proper).2, h.apart.of_cons⟩

theorem Follows.apart {t u : Token} (h : t.Follows u) : t.Apart u := by
  cases t with
  | literal cs => cases u <;> exact h
  | run r =>
    cases u with
    | literal cs => trivial
    | run s => exact h.1

theorem normal_scan (p : String) : Normal (scan p) where
  proper := isProper_of_mem_scanAfter [] p.toList
  apart := (isChain_scanAfter [] p.toList).imp fun _ _ => Follows.apart

theorem doubleQuotes_cons (c : Char) (cs : List Char) :
    doubleQuotes (c :: cs) = (if c = quote then [quote, quote] else [c]) ++ doubleQuotes cs := rfl

theorem count_doubleQuotes (cs : List Char) :
    (doubleQuotes cs).count quote = 2 * cs.count quote := by
  induction cs with
  | nil => rfl
  | cons c cs ih =>
    rw [doubleQuotes_cons, List.count_append, ih]
    by_cases hc : c = quote
    · subst hc
      have hcons : (quote :: cs).count quote = cs.count quote + 1 := List.count_cons_self
      have hpair : [quote, quote].count quote = 2 := rfl
      rw [if_pos rfl, hcons, hpair]
      omega
    · have hnone : [c].count quote = 0 := List.count_eq_zero.mpr (by simpa using Ne.symm hc)
      rw [if_neg hc, hnone, List.count_cons_of_ne hc, Nat.zero_add]

/-- Text with its quotes doubled is read as it was, within quotes or where it has no letters. -/
theorem scanAfter_doubleQuotes
    (h : inQuotes before = true ∨ ∀ c ∈ cs, isPatternLetter c = false) :
    scanAfter before (doubleQuotes cs ++ rest) =
      cs.foldr consLiteral (scanAfter (before ++ doubleQuotes cs) rest) := by
  induction cs generalizing before with
  | nil =>
    rw [show doubleQuotes [] = [] from rfl, List.append_nil]
    rfl
  | cons c cs ih =>
    have htail : inQuotes before = true ∨ ∀ d ∈ cs, isPatternLetter d = false :=
      h.imp_right fun h => (List.forall_mem_cons.mp h).2
    rw [doubleQuotes_cons, List.append_assoc, ← List.append_assoc before, List.foldr_cons]
    by_cases hc : c = quote
    · subst hc
      have hq : inQuotes (before ++ [quote, quote]) = inQuotes before := inQuotes_append rfl
      rw [if_pos rfl, ← ih (by rwa [hq])]
      exact scanAfter_quotes before _
    · rw [if_neg hc, ← ih (by rwa [inQuotes_concat_of_ne hc])]
      exact scanAfter_text hc (h.imp_right fun h => h c List.mem_cons_self)

/-- A text is its quotes at the start, and a rest that begins with no quote. -/
theorem exists_leadingQuotes (cs : List Char) :
    ∃ quotes more, cs = quotes ++ more ∧ (∀ c ∈ quotes, c = quote) ∧ more.head? ≠ some quote ∧
      escape cs = doubleQuotes quotes ++
        if more.isEmpty then [] else quote :: (doubleQuotes more ++ [quote]) := by
  refine ⟨cs.takeWhile fun c => c == quote, cs.dropWhile fun c => c == quote,
    List.takeWhile_append_dropWhile.symm, fun c hc => ?_, fun hhead => ?_, rfl⟩
  · exact beq_iff_eq.mp (List.all_eq_true.mp List.all_takeWhile c hc)
  · have hnot := List.head?_dropWhile_not (fun c => c == quote) cs
    rw [hhead] at hnot
    simp at hnot

theorem count_escape (cs : List Char) : (escape cs).count quote % 2 = 0 := by
  obtain ⟨quotes, more, -, -, -, hescape⟩ := exists_leadingQuotes cs
  rw [hescape, List.count_append, count_doubleQuotes]
  split
  · rw [List.count_nil]
    omega
  · rw [List.count_cons_self, List.count_append, count_doubleQuotes, List.count_singleton_self]
    omega

/-- A written text is read as the text, where no quote follows. -/
theorem scanAfter_escape (hq : inQuotes before = false) (h : rest.head? ≠ some quote) :
    scanAfter before (escape cs ++ rest) =
      cs.foldr consLiteral (scanAfter (before ++ escape cs) rest) := by
  obtain ⟨quotes, more, rfl, hquotes, hmore, hescape⟩ := exists_leadingQuotes cs
  have hletters : ∀ c ∈ quotes, isPatternLetter c = false := by
    intro c hc
    rw [hquotes c hc]
    exact quote_not_letter
  rw [hescape, List.append_assoc, scanAfter_doubleQuotes (.inr hletters), List.foldr_append]
  congr 1
  cases more with
  | nil => rw [List.isEmpty_nil, if_pos rfl, List.append_nil]; rfl
  | cons d ds =>
    -- The quote in front opens quoted text, since the text itself does not begin with one.
    have hd : d ≠ quote := by simpa using hmore
    have hopen : inQuotes (before ++ doubleQuotes quotes ++ [quote]) = true := by
      have heven : (doubleQuotes quotes).count quote % 2 = 0 := by
        rw [count_doubleQuotes]
        omega
      rw [inQuotes_concat_quote, inQuotes_append heven, hq]
      rfl
    have hhead : (doubleQuotes (d :: ds) ++ ([quote] ++ rest)).head? ≠ some quote := by
      rw [doubleQuotes_cons, if_neg hd]
      simpa using hd
    rw [List.isEmpty_cons, if_neg Bool.false_ne_true, List.cons_append, List.append_assoc,
      scanAfter_quote hhead, scanAfter_doubleQuotes (.inl hopen)]
    congr 1
    rw [List.singleton_append, scanAfter_quote h]
    simp only [List.append_assoc, List.cons_append, List.nil_append]

theorem foldr_consLiteral (hcs : cs ≠ []) (h : ∀ ds, tokens.head? ≠ some (.literal ds)) :
    cs.foldr consLiteral tokens = .literal cs :: tokens := by
  induction cs with
  | nil => exact absurd rfl hcs
  | cons c cs ih =>
    cases cs with
    | nil =>
      cases tokens with
      | nil => rfl
      | cons t ts =>
        cases t with
        | literal ds => exact absurd rfl (h ds)
        | run r => rfl
    | cons d ds =>
      rw [List.foldr_cons, ih (List.cons_ne_nil d ds)]
      rfl

/-- The character that a proper token is written from on. -/
def firstChar : Token → Char
  | literal _ => quote
  | run r => r.letter

theorem head_written {t : Token} (h : t.IsProper) : t.written.head? = some t.firstChar := by
  cases t with
  | literal cs =>
    obtain ⟨quotes, more, rfl, hquotes, -, hescape⟩ := exists_leadingQuotes cs
    rw [written, hescape]
    cases quotes with
    | nil =>
      cases more with
      | nil => exact absurd rfl h
      | cons d ds => rfl
    | cons q qs => rw [hquotes q List.mem_cons_self]; rfl
  | run r =>
    obtain ⟨n, hn⟩ := Nat.exists_eq_add_of_le h.2
    rw [written, hn, Nat.add_comm]
    rfl

theorem head_flatMap_written (h : ∀ t ∈ tokens, t.IsProper) :
    (tokens.flatMap written).head? = tokens.head?.map firstChar := by
  cases tokens with
  | nil => rfl
  | cons t ts =>
    have hhead := head_written (h t List.mem_cons_self)
    rw [List.flatMap_cons, List.head?_append, hhead]
    rfl

theorem head_placeFrom (position : Nat) (tokens : List Token) :
    (placeFrom position tokens).head? = tokens.head?.map (movedTo position) := by
  cases tokens <;> rfl

/-- Written tokens are read back in their places. -/
theorem scanAfter_written (hq : inQuotes before = false) (h : Normal tokens) :
    scanAfter before (tokens.flatMap written) = placeFrom before.length tokens := by
  induction tokens generalizing before with
  | nil => exact scanAfter_nil before
  | cons t ts ih =>
    have hts := h.tail
    have hhead := head_flatMap_written hts.proper
    have ht := h.proper t List.mem_cons_self
    have hnext := (List.isChain_cons.mp h.apart).1
    rw [List.flatMap_cons]
    cases t with
    | literal cs =>
      have hrun : ∀ u ∈ ts.head?, ∃ r, u = .run r := by
        intro u hu
        cases u with
        | literal ds => exact (hnext _ hu).elim
        | run r => exact ⟨r, rfl⟩
      have hquote : (ts.flatMap written).head? ≠ some quote := by
        rw [hhead]
        intro heq
        obtain ⟨u, hu, hchar⟩ := Option.map_eq_some_iff.mp heq
        obtain ⟨r, rfl⟩ := hrun u hu
        exact ne_quote_of_letter (hts.proper _ (List.mem_of_head? hu)).1 hchar
      have hq' : inQuotes (before ++ escape cs) = false := by
        rw [inQuotes_append (count_escape cs), hq]
      rw [written, scanAfter_escape hq hquote, ih hq' hts, placeFrom, written, List.length_append]
      refine foldr_consLiteral ht fun ds => ?_
      rw [head_placeFrom]
      intro heq
      obtain ⟨u, hu, hmoved⟩ := Option.map_eq_some_iff.mp heq
      obtain ⟨r, rfl⟩ := hrun u hu
      cases hmoved
    | run r =>
      obtain ⟨letter, length, position⟩ := r
      obtain ⟨hletter, hlength⟩ : isPatternLetter letter = true ∧ 1 ≤ length := ht
      obtain ⟨n, rfl⟩ := Nat.exists_eq_add_of_le' hlength
      have hne : (ts.flatMap written).head? ≠ some letter := by
        rw [hhead]
        intro heq
        obtain ⟨u, hu, hchar⟩ := Option.map_eq_some_iff.mp heq
        cases u with
        | literal ds => exact ne_quote_of_letter hletter hchar.symm
        | run s => exact hnext _ hu hchar.symm
      have hq' : inQuotes (before ++ List.replicate (n + 1) letter) = false := by
        rw [inQuotes_append_replicate (ne_quote_of_letter hletter), hq]
      rw [written, scanAfter_letters hq hletter hne, ih hq' hts, placeFrom, written,
        List.length_append]
      rfl

theorem map_movedTo_placeFrom (position : Nat) (tokens : List Token) :
    (placeFrom position tokens).map (movedTo 0) = tokens.map (movedTo 0) := by
  induction tokens generalizing position with
  | nil => rfl
  | cons t ts ih =>
    have ht : (t.movedTo position).movedTo 0 = t.movedTo 0 := by cases t <;> rfl
    rw [placeFrom, List.map_cons, List.map_cons, ih, ht]

theorem scan_write_of_normal (h : Normal tokens) : scan (write tokens) = placeFrom 0 tokens := by
  rw [← scanAfter_empty, write, String.toList_ofList]
  exact scanAfter_written rfl h

/-- Reading undoes writing. Normal tokens, with any text in their literals, are read back as they
are, each run at the place where it was written. The tokens of any pattern are normal, and are the
same up to their places when they are written and read again. A text that is not empty is written as
a literal of its own. -/
theorem scan_write :
    (∀ tokens, Normal tokens → scan (write tokens) = placeFrom 0 tokens) ∧
    (∀ p, Normal (scan p) ∧
      (scan (write (scan p))).map (movedTo 0) = (scan p).map (movedTo 0)) ∧
    ∀ cs, cs ≠ [] → scan (String.ofList (escape cs)) = [.literal cs] := by
  refine ⟨fun tokens => scan_write_of_normal, fun p => ⟨normal_scan p, ?_⟩, fun cs hcs => ?_⟩
  · rw [scan_write_of_normal (normal_scan p), map_movedTo_placeFrom]
  · have hnormal : Normal [.literal cs] := ⟨List.forall_mem_singleton.mpr hcs, .singleton _⟩
    have hread := scan_write_of_normal hnormal
    rwa [write, List.flatMap_singleton] at hread

/-- Quotes and a letter within a literal, beside letters, and a quote alone. -/
theorem scan_write_quoted :
    Normal [.run ⟨'h', 2, 0⟩, .literal [quote, ' ', 'a'], .run ⟨'a', 1, 0⟩] ∧
      scan (write [.run ⟨'h', 2, 0⟩, .literal [quote, ' ', 'a'], .run ⟨'a', 1, 0⟩]) =
        [.run ⟨'h', 2, 0⟩, .literal [quote, ' ', 'a'], .run ⟨'a', 1, 8⟩] ∧
      [quote] ≠ [] ∧ scan (String.ofList (escape [quote])) = [.literal [quote]] := by
  have hproper : ∀ t ∈ [run ⟨'h', 2, 0⟩, literal [quote, ' ', 'a'], run ⟨'a', 1, 0⟩], t.IsProper := by
    simp only [List.forall_mem_cons]
    exact ⟨⟨rfl, by decide⟩, List.cons_ne_nil _ _, ⟨rfl, by decide⟩, List.forall_mem_nil _⟩
  have hnormal : Normal [run ⟨'h', 2, 0⟩, literal [quote, ' ', 'a'], run ⟨'a', 1, 0⟩] :=
    ⟨hproper, .cons_cons trivial (.cons_cons trivial (.singleton _))⟩
  exact ⟨hnormal, scan_write.1 _ hnormal, List.cons_ne_nil _ _,
    scan_write.2.2 _ (List.cons_ne_nil _ _)⟩

end Token

end DatePattern
