import DatePattern.Localizer.English
import DatePattern.Proofs.Pattern.Outcome
import DatePattern.Proofs.Pattern.PlanByPlace

/-! Two patterns one behind the other. Where the cut tears nothing apart, the tokens of both are
those of each, but that a literal at the cut is one; and the text is the text of each. -/
namespace DatePattern

/-- No quote and no letter of ASCII stands on both sides of the cut. -/
def KeepsApart (p q : List Char) : Prop :=
  ∀ c, p.getLast? = some c → q.head? = some c → c ≠ quote ∧ isPatternLetter c = false

/-- A cut of a pattern outside quoted text, between characters that do not belong together. -/
structure IsSafeCut (p q : List Char) : Prop where
  closed : p.count quote % 2 = 0
  apart : KeepsApart p q

section

variable {rest q : List Char} {c : Char} (chunk : List Char)

theorem KeepsApart.of_append (h : KeepsApart (chunk ++ rest) q) : KeepsApart rest q :=
  fun d hlast hhead => h d (by rw [List.getLast?_append, hlast, Option.some_or]) hhead

/-- What does not come next in the first part does not come next in the whole. -/
theorem KeepsApart.head_append_ne (h : KeepsApart (chunk ++ rest) q)
    (hc : c = quote ∨ isPatternLetter c = true) (hchunk : chunk.getLast? = some c)
    (hrest : rest.head? ≠ some c) : (rest ++ q).head? ≠ some c := by
  cases rest with
  | nil =>
    rw [List.append_nil] at h
    rw [List.nil_append]
    intro hhead
    obtain ⟨hquote, hletter⟩ := h c hchunk hhead
    rcases hc with hc | hc
    · exact hquote hc
    · exact Bool.false_ne_true (hletter.symm.trans hc)
  | cons d rest => exact hrest

end

namespace Token

variable {before p q : List Char} {tokens more : List Token}

/-- Tokens with a token in front. The text of a literal joins a literal that comes first. -/
def joinFront : Token → List Token → List Token
  | literal cs, tokens => cs.foldr consLiteral tokens
  | run r, tokens => run r :: tokens

def joined (tokens more : List Token) : List Token := tokens.foldr joinFront more

theorem joined_nil (more : List Token) : joined [] more = more := rfl

theorem joined_literal (cs : List Char) (tokens more : List Token) :
    joined (literal cs :: tokens) more = cs.foldr consLiteral (joined tokens more) := rfl

theorem joined_run (r : LetterRun) (tokens more : List Token) :
    joined (run r :: tokens) more = run r :: joined tokens more := rfl

theorem joined_consLiteral (c : Char) (tokens more : List Token) :
    joined (consLiteral c tokens) more = consLiteral c (joined tokens more) := by
  cases tokens with
  | nil => rfl
  | cons t ts => cases t <;> rfl

/-- Behind a beginning, the tokens of two parts of a pattern are those of each, joined. -/
theorem scanAfter_append (hclosed : inQuotes (before ++ p) = false) (hapart : KeepsApart p q) :
    scanAfter before (p ++ q) = joined (scanAfter before p) (scanAfter (before ++ p) q) := by
  induction before, p using scan_induction with
  | nil before => rw [scanAfter_nil, joined_nil, List.nil_append, List.append_nil]
  | quotes before rest ih =>
    have hwhole : before ++ quote :: quote :: rest = before ++ [quote, quote] ++ rest :=
      (List.append_assoc before [quote, quote] rest).symm
    rw [hwhole] at hclosed ⊢
    rw [List.cons_append, List.cons_append, scanAfter_quotes, scanAfter_quotes, joined_consLiteral,
      ih hclosed (hapart.of_append [quote, quote])]
  | quote before rest h ih =>
    rw [List.append_cons] at hclosed ⊢
    have hnext := hapart.head_append_ne [quote] (.inl rfl) rfl h
    rw [List.cons_append, scanAfter_quote hnext, scanAfter_quote h,
      ih hclosed (hapart.of_append [quote])]
  | text before c rest hc h ih =>
    rw [List.append_cons] at hclosed ⊢
    rw [List.cons_append, scanAfter_text hc h, scanAfter_text hc h, joined_consLiteral,
      ih hclosed (hapart.of_append [c])]
  | letters before c n rest hq hc h ih =>
    have hlast : (List.replicate (n + 1) c).getLast? = some c := by
      rw [List.replicate_succ', List.getLast?_concat]
    have hnext := hapart.head_append_ne _ (.inr hc) hlast h
    rw [← List.append_assoc] at hclosed ⊢
    rw [List.append_assoc, scanAfter_letters hq hc hnext, scanAfter_letters hq hc h, joined_run,
      ih hclosed (hapart.of_append _)]

/-- The token further on in a pattern. Only runs have a place. -/
def shift (n : Nat) : Token → Token
  | literal cs => literal cs
  | run r => run { r with position := n + r.position }

theorem map_shift_consLiteral (n : Nat) (c : Char) (tokens : List Token) :
    (consLiteral c tokens).map (shift n) = consLiteral c (tokens.map (shift n)) := by
  cases tokens with
  | nil => rfl
  | cons t ts => cases t <;> rfl

/-- A beginning that ends outside quotes shifts the tokens that come after it. -/
theorem scanAfter_append_left {start : List Char} (h : inQuotes start = false)
    (before rest : List Char) :
    scanAfter (start ++ before) rest = (scanAfter before rest).map (shift start.length) := by
  induction before, rest using scan_induction with
  | nil before => rw [scanAfter_nil, scanAfter_nil, List.map_nil]
  | quotes before rest ih =>
    rw [scanAfter_quotes, scanAfter_quotes, map_shift_consLiteral, List.append_assoc, ih]
  | quote before rest hrest ih =>
    rw [scanAfter_quote hrest, scanAfter_quote hrest, List.append_assoc, ih]
  | text before c rest hc htext ih =>
    rw [scanAfter_text hc (by rwa [inQuotes_append_left h]), scanAfter_text hc htext,
      map_shift_consLiteral, List.append_assoc, ih]
  | letters before c n rest hq hc hrest ih =>
    rw [scanAfter_letters (by rwa [inQuotes_append_left h]) hc hrest, scanAfter_letters hq hc hrest,
      List.map_cons, List.append_assoc, ih, List.length_append]
    rfl

/-- A run comes first in joined tokens only if it comes first in those of one part. -/
theorem head_joined (hproper : ∀ t ∈ tokens, t.IsProper) {r : LetterRun}
    (h : (joined tokens more).head? = some (run r)) :
    tokens.head? = some (run r) ∨ more.head? = some (run r) := by
  cases tokens with
  | nil => exact .inr h
  | cons t ts =>
    cases t with
    | literal cs =>
      cases cs with
      | nil => exact absurd rfl (hproper _ List.mem_cons_self)
      | cons c cs => exact absurd h (head_consLiteral _ _ _)
    | run s => exact .inl h

end Token

namespace Plan

variable {asks : Reading} {l : Localizer} {o : Options} {p : Plan} {r : LetterRun}
  {tokens more : List Token} {a b text : String}

theorem answer_eq_ok_iff :
    p.answer asks l o = .ok text ↔
      p.fault? = none ∧ ∃ texts, p.steps.mapM (Step.answer asks l o) = .ok texts ∧
        text = String.join texts := by
  rw [answer, bind_eq_ok_iff]
  cases p.fault? with
  | none =>
    constructor
    · rintro ⟨texts, htexts, ⟨⟩⟩
      exact ⟨rfl, texts, htexts, rfl⟩
    · rintro ⟨-, texts, htexts, rfl⟩
      exact ⟨texts, htexts, rfl⟩
  | some f =>
    constructor
    · rintro ⟨texts, htexts, ⟨⟩⟩
    · rintro ⟨⟨⟩, -⟩

theorem answer_fail_ne (f : PatternFault) (text : String) :
    (fail f).answer asks l o ≠ .ok text := by
  rintro ⟨⟩

/-- With a step in front the text of the step is in front, where there are texts. -/
theorem answer_cons_eq_ok_iff {step : Step} :
    (cons step p).answer asks l o = .ok text ↔
      ∃ first rest, step.answer asks l o = .ok first ∧ p.answer asks l o = .ok rest ∧
        text = first ++ rest := by
  simp only [answer_eq_ok_iff, cons, List.mapM_cons, bind_eq_ok_iff]
  constructor
  · rintro ⟨hfault, _, ⟨first, hfirst, texts, htexts, ⟨⟩⟩, rfl⟩
    exact ⟨first, _, hfirst, ⟨hfault, texts, htexts, rfl⟩, String.join_cons⟩
  · rintro ⟨first, _, hfirst, ⟨hfault, texts, htexts, rfl⟩, rfl⟩
    exact ⟨hfault, _, ⟨first, hfirst, texts, htexts, rfl⟩, String.join_cons.symm⟩

/-- A run has the same text in front of any plan, wherever it stands. -/
theorem exists_answer_consRun {ordinal : Bool}
    (h : (consRun r ordinal p).answer asks l o = .ok text) :
    ∃ first rest, p.answer asks l o = .ok rest ∧ text = first ++ rest ∧
      ∀ position next more, next.answer asks l o = .ok more →
        (consRun { r with position := position } ordinal next).answer asks l o =
          .ok (first ++ more) := by
  cases hf : Field.ofLetter? r.letter with
  | none =>
    rw [consRun_eq_fail hf] at h
    exact absurd h (answer_fail_ne _ _)
  | some f =>
    rw [consRun_eq_cons hf, answer_cons_eq_ok_iff] at h
    obtain ⟨first, rest, hfirst, hrest, rfl⟩ := h
    refine ⟨first, rest, hrest, rfl, fun position next more hmore => ?_⟩
    rw [consRun_eq_cons (r := { r with position := position }) hf]
    exact answer_cons_eq_ok_iff.mpr ⟨first, more, hfirst, hmore, rfl⟩

/-- Tokens are planned one by one, but an ordinal letter together with the run before it. -/
theorem ofTokens_induction {motive : List Token → Prop} (nil : motive [])
    (fault : ∀ tokens f, ofTokens tokens = fail f → motive tokens)
    (literal : ∀ cs rest, motive rest → motive (.literal cs :: rest))
    (modified : ∀ r s rest, r.letter ≠ Field.ordinalLetter → s.letter = Field.ordinalLetter →
      s.length = 1 → motive rest → motive (.run r :: .run s :: rest))
    (run : ∀ r rest, r.letter ≠ Field.ordinalLetter →
      (∀ s, rest.head? = some (.run s) → s.letter ≠ Field.ordinalLetter) →
      motive rest → motive (.run r :: rest))
    (tokens : List Token) : motive tokens := by
  induction tokens using ofTokens.induct with
  | case1 => exact nil
  | case2 cs rest ih => exact literal cs rest ih
  | case3 r rest hr => exact fault _ _ (ofTokens_modifier hr rest)
  | case4 r hr s rest hs hlength ih => exact modified r s rest hr hs hlength ih
  | case5 r hr s rest hs hlength =>
    exact fault _ _ ((ofTokens_run_modifier hr hs rest).trans (if_neg hlength))
  | case6 r hr s rest hs ih =>
    refine run r _ hr (fun t ht => ?_) ih
    cases ht
    exact hs
  | case7 r hr rest hrest ih =>
    refine run r rest hr (fun s hs => ?_) ih
    obtain ⟨more, hmore⟩ := List.head?_eq_some_iff.mp hs
    exact (hrest s more hmore).elim

theorem answer_consLiteral (c : Char) (h : (ofTokens tokens).answer asks l o = .ok text) :
    (ofTokens (Token.consLiteral c tokens)).answer asks l o = .ok (String.singleton c ++ text) := by
  have hfront : (ofTokens (.literal [c] :: tokens)).answer asks l o =
      .ok (String.singleton c ++ text) := by
    rw [ofTokens_literal]
    exact answer_cons_eq_ok_iff.mpr ⟨_, text, rfl, h, rfl⟩
  cases tokens with
  | nil => exact hfront
  | cons t ts =>
    cases t with
    | run r => exact hfront
    | literal cs =>
      rw [ofTokens_literal, answer_cons_eq_ok_iff] at h
      obtain ⟨_, rest, ⟨⟩, hrest, rfl⟩ := h
      rw [Token.consLiteral, ofTokens_literal, ← String.append_assoc, ← String.ofList_cons]
      exact answer_cons_eq_ok_iff.mpr ⟨_, rest, rfl, hrest, rfl⟩

theorem answer_literals (cs : List Char) (h : (ofTokens tokens).answer asks l o = .ok text) :
    (ofTokens (cs.foldr Token.consLiteral tokens)).answer asks l o =
      .ok (String.ofList cs ++ text) := by
  induction cs with
  | nil => rwa [String.ofList_nil, String.empty_append]
  | cons c cs ih =>
    rw [String.ofList_cons, String.append_assoc]
    exact answer_consLiteral c ih

/-- The places of runs do not show in the text. -/
theorem answer_map_shift (n : Nat) (h : (ofTokens tokens).answer asks l o = .ok text) :
    (ofTokens (tokens.map (Token.shift n))).answer asks l o = .ok text := by
  induction tokens using ofTokens_induction generalizing text with
  | nil => exact h
  | fault tokens f hf =>
    rw [hf] at h
    exact absurd h (answer_fail_ne f text)
  | literal cs rest ih =>
    rw [ofTokens_literal, answer_cons_eq_ok_iff] at h
    obtain ⟨first, text, hfirst, htext, rfl⟩ := h
    rw [List.map_cons, Token.shift, ofTokens_literal]
    exact answer_cons_eq_ok_iff.mpr ⟨first, text, hfirst, ih htext, rfl⟩
  | modified r s rest hr hs hlength ih =>
    rw [ofTokens_run_modifier hr hs, if_pos hlength] at h
    obtain ⟨first, text, htext, rfl, hanywhere⟩ := exists_answer_consRun h
    have hplan := ofTokens_run_modifier (r := { r with position := n + r.position })
      (s := { s with position := n + s.position }) hr hs (rest.map (Token.shift n))
    rw [List.map_cons, List.map_cons, Token.shift, Token.shift, hplan, if_pos hlength]
    exact hanywhere _ _ _ (ih htext)
  | run r rest hr hrest ih =>
    rw [ofTokens_run hr hrest] at h
    obtain ⟨first, text, htext, rfl, hanywhere⟩ := exists_answer_consRun h
    have hshifted : ∀ s, (rest.map (Token.shift n)).head? = some (.run s) →
        s.letter ≠ Field.ordinalLetter := by
      intro s hs
      rw [List.head?_map] at hs
      obtain ⟨t, ht, heq⟩ := Option.map_eq_some_iff.mp hs
      cases t with
      | literal cs => cases heq
      | run t =>
        cases heq
        exact hrest t ht
    have hplan := ofTokens_run (r := { r with position := n + r.position }) hr hshifted
    rw [List.map_cons, Token.shift, hplan]
    exact hanywhere _ _ _ (ih htext)

/-- Joined tokens have the text of one part behind that of the other. -/
theorem answer_joined (hproper : ∀ t ∈ tokens, t.IsProper)
    (ha : (ofTokens tokens).answer asks l o = .ok a)
    (hb : (ofTokens more).answer asks l o = .ok b) :
    (ofTokens (Token.joined tokens more)).answer asks l o = .ok (a ++ b) := by
  -- An ordinal run in front of the second part would be its fault.
  have hmore : ∀ s, more.head? = some (.run s) → s.letter ≠ Field.ordinalLetter := by
    intro s hs hmodifier
    obtain ⟨rest, rfl⟩ := List.head?_eq_some_iff.mp hs
    rw [ofTokens_modifier hmodifier] at hb
    exact answer_fail_ne _ b hb
  induction tokens using ofTokens_induction generalizing a with
  | nil =>
    obtain rfl : "" = a := Except.ok.inj ha
    rwa [Token.joined_nil, String.empty_append]
  | fault tokens f hf =>
    rw [hf] at ha
    exact absurd ha (answer_fail_ne f a)
  | literal cs rest ih =>
    rw [ofTokens_literal, answer_cons_eq_ok_iff] at ha
    obtain ⟨_, text, ⟨⟩, htext, rfl⟩ := ha
    rw [Token.joined_literal, String.append_assoc]
    exact answer_literals cs (ih (List.forall_mem_cons.mp hproper).2 htext)
  | modified r s rest hr hs hlength ih =>
    rw [ofTokens_run_modifier hr hs, if_pos hlength] at ha
    obtain ⟨first, text, htext, rfl, hanywhere⟩ := exists_answer_consRun ha
    have hrest := (List.forall_mem_cons.mp (List.forall_mem_cons.mp hproper).2).2
    rw [Token.joined_run, Token.joined_run, ofTokens_run_modifier hr hs, if_pos hlength,
      String.append_assoc]
    exact hanywhere r.position _ _ (ih hrest htext)
  | run r rest hr hrest ih =>
    rw [ofTokens_run hr hrest] at ha
    obtain ⟨first, text, htext, rfl, hanywhere⟩ := exists_answer_consRun ha
    have hproper' := (List.forall_mem_cons.mp hproper).2
    have hhead : ∀ s, (Token.joined rest more).head? = some (.run s) →
        s.letter ≠ Field.ordinalLetter :=
      fun s hs => (Token.head_joined hproper' hs).elim (hrest s) (hmore s)
    rw [Token.joined_run, ofTokens_run hr hhead, String.append_assoc]
    exact hanywhere r.position _ _ (ih hproper' htext)

/-- At a safe cut a pattern has the texts of its parts. -/
theorem answer_ofPattern_append {p q : String} (hcut : IsSafeCut p.toList q.toList)
    (ha : (ofPattern p).answer asks l o = .ok a) (hb : (ofPattern q).answer asks l o = .ok b) :
    (ofPattern (p ++ q)).answer asks l o = .ok (a ++ b) := by
  have hclosed : inQuotes p.toList = false := inQuotes_eq_false_iff.mpr hcut.closed
  have hscan : Token.scan (p ++ q) =
      Token.joined (Token.scan p) ((Token.scan q).map (Token.shift p.toList.length)) := by
    rw [← Token.scanAfter_empty, ← Token.scanAfter_empty q, String.toList_append,
      Token.scanAfter_append hclosed hcut.apart, ← Token.scanAfter_append_left hclosed,
      List.append_nil]
    rfl
  rw [ofPattern, hscan]
  exact answer_joined (Token.isProper_of_mem_scanAfter [] p.toList) ha (answer_map_shift _ hb)

end Plan

/-- The date denotes an instant, as it is read under the options. -/
def DenotesInstant (date options : Argument) : Prop :=
  ∀ o d, Options.ofArgument options = .ok o →
    Dated.ofArgument date (.number o.digitCount) = .ok d → d.isValid = .ok true

section

variable {date options : Argument} {l : Localizer} {registry : LocaleRegistry} {p q a b : String}

/-- Behind a text of a call stand options that pass and a date that can be read. -/
theorem exists_read_of_format {s : Session}
    (h : ((format (some date) (some (.text p)) options (some l) registry).run.run s).1 = .ok a) :
    ∃ o d, Options.ofArgument options = .ok o ∧
      Dated.ofArgument date (.number o.digitCount) = .ok d := by
  have htext : patternText (.text p) = .ok p := rfl
  cases ho : Options.ofArgument options with
  | error f =>
    rw [format, Run.ofExcept_ok_bind htext, Run.ofExcept_error_bind ho] at h
    cases h
  | ok o =>
    cases hd : Dated.ofArgument date (.number o.digitCount) with
    | error f =>
      rw [format, Run.ofExcept_ok_bind htext, Run.ofExcept_ok_bind ho,
        Run.ofExcept_error_bind hd] at h
      cases h
    | ok d => exact ⟨o, d, rfl, hd⟩

/-- Cut a pattern outside quoted text, and not within a run of a letter or between two quotes. If
each part has a text, then the pattern has the text of the first part and behind it that of the
second, for any date that denotes an instant and any localizer that does not look back. Either part
may be empty. Nothing is said of a part that fails alone: an ordinal letter in front of the second
part would apply to the first. -/
theorem format_append (hdate : DenotesInstant date options) (hl : l.IsStateless)
    (hcut : IsSafeCut p.toList q.toList) {first second : Session}
    (hp : ((format (some date) (some (.text p)) options (some l) registry).run.run first).1 = .ok a)
    (hq : ((format (some date) (some (.text q)) options (some l) registry).run.run second).1 = .ok b)
    (s : Session) :
    ((format (some date) (some (.text (p ++ q))) options (some l) registry).run.run s).1 =
      .ok (a ++ b) := by
  obtain ⟨o, d, ho, hd⟩ := exists_read_of_format hp
  have hvalid := hdate o d ho hd
  have ha := (gives_format ho hd hvalid hl p first).symm.trans hp
  have hb := (gives_format ho hd hvalid hl q second).symm.trans hq
  exact (gives_format ho hd hvalid hl (p ++ q) s).trans (Plan.answer_ofPattern_append hcut ha hb)

/-- Quoted text that holds a quote, and behind it a space that joins it and an ordinal day. -/
theorem format_append_ordinalDay :
    let m : Moment := ⟨⟨2024, 1, 29, 12, 0, 0, 0⟩, some 1709208000000, 0, fun _ => by decide⟩
    let text (pattern : String) :=
      ((format (some (.atom (.moment m))) (some (.text pattern)) .absent
        (some .english)).run.run .start).1
    DenotesInstant (.atom (.moment m)) .absent ∧ Localizer.english.IsStateless ∧
    IsSafeCut "h 'o''clock'".toList " do".toList ∧
    text "h 'o''clock'" = .ok "12 o'clock" ∧ text " do" = .ok " 29th" ∧
    text ("h 'o''clock'" ++ " do") = .ok ("12 o'clock" ++ " 29th") := by
  intro m text
  have ho : Options.ofArgument .absent = .ok .unset := rfl
  have hd : Dated.ofArgument (.atom (.moment m)) (.number Options.unset.digitCount) =
      .ok (.moment m) := rfl
  have hvalid : (Dated.moment m).isValid = .ok true := rfl
  have hdate : DenotesInstant (.atom (.moment m)) .absent := by
    intro o d ho' hd'
    cases hd'
    exact hvalid
  have hl : Localizer.english.IsStateless := Localizer.isStateless_ofFunction _
  have hchars : "h 'o''clock'".toList =
      ['h', ' ', quote, 'o', quote, quote, 'c', 'l', 'o', 'c', 'k', quote] := rfl
  have hchars' : " do".toList = [' ', 'd', 'o'] := rfl
  have hcut : IsSafeCut "h 'o''clock'".toList " do".toList := by
    rw [hchars, hchars']
    refine ⟨by decide, fun c hlast hhead => ?_⟩
    cases hlast
    cases hhead
  have hp : text "h 'o''clock'" = .ok "12 o'clock" := by
    refine (gives_format ho hd hvalid hl _ .start).trans ?_
    have hplan : Plan.ofPattern "h 'o''clock'" =
        ⟨[.field .hourTo12 ⟨'h', 1, 0⟩ false, .literal " o'clock".toList], none⟩ := by
      rw [Plan.ofPattern, Token.scan, hchars]
      decide +kernel
    rw [hplan]
    exact Plan.answer_eq_ok_iff.mpr ⟨rfl, ["12", " o'clock"], by decide +kernel, by decide +kernel⟩
  have hq : text " do" = .ok " 29th" := by
    refine (gives_format ho hd hvalid hl _ .start).trans ?_
    have hplan : Plan.ofPattern " do" =
        ⟨[.literal [' '], .field .dayOfMonth ⟨'d', 1, 1⟩ true], none⟩ := by
      rw [Plan.ofPattern, Token.scan, hchars']
      decide +kernel
    rw [hplan]
    exact Plan.answer_eq_ok_iff.mpr ⟨rfl, [" ", "29th"], by decide +kernel, by decide +kernel⟩
  exact ⟨hdate, hl, hcut, hp, hq, format_append hdate hl hcut hp hq .start⟩

end

end DatePattern
