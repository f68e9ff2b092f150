import DatePattern.Localizer.English
import DatePattern.Proofs.Diagnostic.Wording
import DatePattern.Proofs.Pattern.Places
import DatePattern.Proofs.Pattern.Rendering

/-! The plan of tokens, told place by place: what each token shows, where an ordinal letter applies,
and which token is at fault. -/
namespace DatePattern

namespace Token

/-- The run at a place of the tokens. -/
def runAt? (tokens : List Token) (k : Nat) : Option LetterRun :=
  match tokens[k]? with
  | some (.run r) => some r
  | _ => none

/-- A run of a letter that is not the ordinal one. -/
def IsDirectiveAt (tokens : List Token) (k : Nat) : Prop :=
  ∃ r ∈ runAt? tokens k, r.letter ≠ Field.ordinalLetter

instance (tokens : List Token) (k : Nat) : Decidable (IsDirectiveAt tokens k) :=
  inferInstanceAs (Decidable (∃ r ∈ runAt? tokens k, _))

/-- A single ordinal letter directly behind a run of another letter. It applies to that run. -/
def IsAppliedAt (tokens : List Token) : Nat → Prop
  | 0 => False
  | k + 1 => IsDirectiveAt tokens k ∧
      ∃ r ∈ runAt? tokens (k + 1), r.letter = Field.ordinalLetter ∧ r.length = 1

instance (tokens : List Token) : (k : Nat) → Decidable (IsAppliedAt tokens k)
  | 0 => inferInstanceAs (Decidable False)
  | _ + 1 => inferInstanceAs (Decidable (_ ∧ ∃ r ∈ runAt? tokens _, _))

/-- An ordinal run that does not apply, or a run of another letter that has no field. -/
def IsOffendingAt (tokens : List Token) (k : Nat) : Prop :=
  ∃ r ∈ runAt? tokens k,
    if r.letter = Field.ordinalLetter then ¬ IsAppliedAt tokens k
    else Field.ofLetter? r.letter = none

instance (tokens : List Token) (k : Nat) : Decidable (IsOffendingAt tokens k) :=
  inferInstanceAs (Decidable (∃ r ∈ runAt? tokens k, _))

/-- A run of a letter that is not the ordinal one, with a longer ordinal run directly behind it. -/
def IsSpoiledAt (tokens : List Token) (k : Nat) : Prop :=
  IsDirectiveAt tokens k ∧
    ∃ r ∈ runAt? tokens (k + 1), r.letter = Field.ordinalLetter ∧ 2 ≤ r.length

instance (tokens : List Token) (k : Nat) : Decidable (IsSpoiledAt tokens k) :=
  inferInstanceAs (Decidable (_ ∧ ∃ r ∈ runAt? tokens _, _))

/-- What a token shows: a literal its text, and a run its field, as an ordinal number where the next
token applies. The ordinal letter has no field, and shows nothing. -/
def shownAt (tokens : List Token) (k : Nat) : Option Step :=
  match tokens[k]? with
  | some (.literal cs) => some (.literal cs)
  | some (.run r) =>
    (Field.ofLetter? r.letter).map fun f => .field f r (IsAppliedAt tokens (k + 1))
  | none => none

/-- What the tokens before a place show. -/
def shownBefore (tokens : List Token) (n : Nat) : List Step :=
  (List.range n).filterMap (shownAt tokens)

/-- The place that is reported for an offending one: the next one, if its ordinal run hides the
run. -/
def reportedAt (tokens : List Token) (k : Nat) : Nat := if IsSpoiledAt tokens k then k + 1 else k

/-- How many tokens are rendered before an offending one is reported. A run directly before a longer
ordinal run is not. -/
def renderedBefore (tokens : List Token) : Nat → Nat
  | 0 => 0
  | k + 1 => if IsSpoiledAt tokens k then k else k + 1

end Token

/-- The fault of a run that cannot be rendered. -/
def PatternFault.ofOffender (r : LetterRun) : PatternFault :=
  if r.letter = Field.ordinalLetter then strayOrdinal r else ofRun r

namespace PatternFault

theorem run_ofOffender (r : LetterRun) : (ofOffender r).run = r := by
  rw [ofOffender, ofRun]
  split
  · rfl
  · split <;> rfl

theorem ofOffender_modifier {r : LetterRun} (h : r.letter = Field.ordinalLetter) :
    ofOffender r = strayOrdinal r :=
  if_pos h

theorem ofOffender_directive {r : LetterRun} (h : r.letter ≠ Field.ordinalLetter) :
    ofOffender r = ofRun r :=
  if_neg h

end PatternFault

namespace Plan

/-- A plan with steps in front. -/
def prepend (steps : List Step) (p : Plan) : Plan := ⟨steps ++ p.steps, p.fault?⟩

theorem prepend_append (first second : List Step) (p : Plan) :
    prepend (first ++ second) p = prepend first (prepend second p) := by
  simp only [prepend, List.append_assoc]

variable {r s : LetterRun} {f : Field} {rest : List Token}

theorem consRun_eq_cons (h : Field.ofLetter? r.letter = some f) (ordinal : Bool) (p : Plan) :
    consRun r ordinal p = cons (.field f r ordinal) p := by
  rw [consRun, h]

theorem consRun_eq_fail (h : Field.ofLetter? r.letter = none) (ordinal : Bool) (p : Plan) :
    consRun r ordinal p = fail (.ofRun r) := by
  rw [consRun, h]

theorem ofTokens_literal (cs : List Char) (rest : List Token) :
    ofTokens (.literal cs :: rest) = cons (.literal cs) (ofTokens rest) := by
  rw [ofTokens]

theorem ofTokens_modifier (h : r.letter = Field.ordinalLetter) (rest : List Token) :
    ofTokens (.run r :: rest) = fail (.strayOrdinal r) := by
  rw [ofTokens.eq_def]
  exact if_pos h

/-- A run with an ordinal run directly behind it. -/
theorem ofTokens_run_modifier (hr : r.letter ≠ Field.ordinalLetter)
    (hs : s.letter = Field.ordinalLetter) (rest : List Token) :
    ofTokens (.run r :: .run s :: rest) =
      if s.length = 1 then consRun r true (ofTokens rest) else fail (.strayOrdinal s) := by
  rw [ofTokens.eq_def]
  exact (if_neg hr).trans (if_pos hs)

/-- A run with none directly behind it. -/
theorem ofTokens_run (hr : r.letter ≠ Field.ordinalLetter)
    (hrest : ∀ s, rest.head? = some (.run s) → s.letter ≠ Field.ordinalLetter) :
    ofTokens (.run r :: rest) = consRun r false (ofTokens rest) := by
  rw [ofTokens.eq_def]
  refine (if_neg hr).trans ?_
  cases rest with
  | nil => rfl
  | cons t rest =>
    cases t with
    | literal cs => rfl
    | run s => exact if_neg (hrest s rfl)

end Plan

namespace Token

variable {tokens : List Token} {n k : Nat} {r : LetterRun}

theorem runAt?_eq_some : runAt? tokens n = some r ↔ tokens[n]? = some (.run r) := by
  rw [runAt?]
  split
  case h_1 s h =>
    rw [h]
    simp
  case h_2 h =>
    constructor
    · intro hr
      cases hr
    · intro hr
      exact absurd hr (h r)

theorem not_isDirectiveAt_of_modifier (hr : tokens[n]? = some (.run r))
    (ho : r.letter = Field.ordinalLetter) : ¬ IsDirectiveAt tokens n := by
  rintro ⟨s, hs, hletter⟩
  cases (runAt?_eq_some.mpr hr).symm.trans hs
  exact hletter ho

theorem isDirectiveAt_of_letter (hr : tokens[n]? = some (.run r))
    (ho : r.letter ≠ Field.ordinalLetter) : IsDirectiveAt tokens n :=
  ⟨r, runAt?_eq_some.mpr hr, ho⟩

/-- What does apply is an ordinal letter. -/
theorem not_isAppliedAt_of_directive (h : IsDirectiveAt tokens n) : ¬ IsAppliedAt tokens n := by
  cases n with
  | zero => exact id
  | succ k =>
    rintro ⟨-, s, hs, hletter, -⟩
    exact not_isDirectiveAt_of_modifier (runAt?_eq_some.mp hs) hletter h

theorem not_isAppliedAt_of_not_run (h : runAt? tokens n = none) : ¬ IsAppliedAt tokens n := by
  cases n with
  | zero => exact id
  | succ k =>
    rintro ⟨-, s, hs, -⟩
    cases h.symm.trans hs

/-- The longer ordinal run behind a spoiled run does not apply, to that run or any other. -/
theorem isOffendingAt_of_isSpoiledAt (h : IsSpoiledAt tokens n) : IsOffendingAt tokens (n + 1) := by
  obtain ⟨-, s, hs, hletter, hlength⟩ := h
  refine ⟨s, hs, ?_⟩
  rw [if_pos hletter]
  rintro ⟨-, t, ht, -, hone⟩
  cases hs.symm.trans ht
  omega

/-- The plan of the tokens from a place on. An ordinal letter that applies is done with by then. -/
def resume (tokens : List Token) (n : Nat) : Plan :=
  Plan.ofTokens (tokens.drop (if IsAppliedAt tokens n then n + 1 else n))

theorem resume_of_isAppliedAt (h : IsAppliedAt tokens n) :
    resume tokens n = Plan.ofTokens (tokens.drop (n + 1)) := by
  rw [resume, if_pos h]

theorem resume_of_not_isAppliedAt (h : ¬ IsAppliedAt tokens n) :
    resume tokens n = Plan.ofTokens (tokens.drop n) := by
  rw [resume, if_neg h]

theorem resume_of_length_le (h : tokens.length ≤ n) : resume tokens n = .done := by
  have hlength : tokens.length ≤ if IsAppliedAt tokens n then n + 1 else n := by
    split <;> omega
  rw [resume, List.drop_eq_nil_of_le hlength, Plan.ofTokens]

theorem drop_eq_cons {t : Token} (h : tokens[n]? = some t) :
    tokens.drop n = t :: tokens.drop (n + 1) := by
  obtain ⟨hn, rfl⟩ := List.getElem?_eq_some_iff.mp h
  exact List.drop_eq_getElem_cons hn

theorem shownAt_run (hr : tokens[n]? = some (.run r)) :
    shownAt tokens n =
      (Field.ofLetter? r.letter).map fun f => .field f r (IsAppliedAt tokens (n + 1)) := by
  rw [shownAt, hr]

/-- A run takes an ordinal letter that applies with it. -/
theorem resume_directive (hproper : ∀ t ∈ tokens, t.IsProper) (hr : tokens[n]? = some (.run r))
    (hletter : r.letter ≠ Field.ordinalLetter) (hkept : ¬ IsSpoiledAt tokens n) :
    resume tokens n = .consRun r (IsAppliedAt tokens (n + 1)) (resume tokens (n + 1)) := by
  have hdirective := isDirectiveAt_of_letter hr hletter
  rw [resume_of_not_isAppliedAt (not_isAppliedAt_of_directive hdirective), drop_eq_cons hr]
  by_cases hnext : IsAppliedAt tokens (n + 1)
  · obtain ⟨-, s, hs, hmodifier, hlength⟩ := id hnext
    rw [resume_of_isAppliedAt hnext, drop_eq_cons (runAt?_eq_some.mp hs),
      Plan.ofTokens_run_modifier hletter hmodifier, if_pos hlength, decide_eq_true hnext]
  · have hhead : ∀ s, (tokens.drop (n + 1)).head? = some (.run s) →
        s.letter ≠ Field.ordinalLetter := by
      intro s hs hmodifier
      rw [List.head?_drop] at hs
      have hone : 1 ≤ s.length := (hproper _ (List.mem_of_getElem? hs)).2
      by_cases hlength : s.length = 1
      · exact hnext ⟨hdirective, s, runAt?_eq_some.mpr hs, hmodifier, hlength⟩
      · exact hkept ⟨hdirective, s, runAt?_eq_some.mpr hs, hmodifier, by omega⟩
    rw [resume_of_not_isAppliedAt hnext, Plan.ofTokens_run hletter hhead, decide_eq_false hnext]

/-- One place on: what is planned is what the token shows, unless it offends or is spoiled. -/
theorem resume_step (hproper : ∀ t ∈ tokens, t.IsProper) (hgood : ¬ IsOffendingAt tokens n)
    (hkept : ¬ IsSpoiledAt tokens n) :
    resume tokens n = .prepend (shownAt tokens n).toList (resume tokens (n + 1)) := by
  cases ht : tokens[n]? with
  | none =>
    have hn := List.getElem?_eq_none_iff.mp ht
    rw [shownAt, ht, resume_of_length_le hn, resume_of_length_le (by omega)]
    rfl
  | some t =>
    cases t with
    | literal cs =>
      have hrun : runAt? tokens n = none := by rw [runAt?, ht]
      have hnext : ¬ IsAppliedAt tokens (n + 1) := by
        rintro ⟨⟨s, hs, -⟩, -⟩
        cases hrun.symm.trans hs
      rw [shownAt, ht, resume_of_not_isAppliedAt (not_isAppliedAt_of_not_run hrun),
        resume_of_not_isAppliedAt hnext, drop_eq_cons ht, Plan.ofTokens_literal]
      rfl
    | run r =>
      by_cases hletter : r.letter = Field.ordinalLetter
      · have happlied : IsAppliedAt tokens n := by
          by_contra hstray
          exact hgood ⟨r, runAt?_eq_some.mpr ht, by rwa [if_pos hletter]⟩
        have hnext : ¬ IsAppliedAt tokens (n + 1) := fun h =>
          not_isDirectiveAt_of_modifier ht hletter h.1
        rw [shownAt_run ht, hletter, resume_of_isAppliedAt happlied,
          resume_of_not_isAppliedAt hnext]
        rfl
      · obtain ⟨f, hf⟩ : ∃ f, Field.ofLetter? r.letter = some f := by
          rw [← Option.ne_none_iff_exists']
          intro hnone
          exact hgood ⟨r, runAt?_eq_some.mpr ht, by rwa [if_neg hletter]⟩
        rw [resume_directive hproper ht hletter hkept, Plan.consRun_eq_cons hf, shownAt_run ht, hf]
        rfl

theorem shownBefore_succ (tokens : List Token) (n : Nat) :
    shownBefore tokens (n + 1) = shownBefore tokens n ++ (shownAt tokens n).toList := by
  rw [shownBefore, List.range_succ, List.filterMap_append]
  cases hn : shownAt tokens n <;> simp [shownBefore, hn]

/-- The tokens before a place are all planned as they show, if none of them offends or is
spoiled. -/
theorem ofTokens_eq_prepend (hproper : ∀ t ∈ tokens, t.IsProper)
    (h : ∀ j < n, ¬ IsOffendingAt tokens j ∧ ¬ IsSpoiledAt tokens j) :
    Plan.ofTokens tokens = .prepend (shownBefore tokens n) (resume tokens n) := by
  induction n with
  | zero => rfl
  | succ n ih =>
    obtain ⟨hgood, hkept⟩ := h n (Nat.lt_succ_self n)
    rw [ih fun j hj => h j (Nat.lt_succ_of_lt hj), resume_step hproper hgood hkept,
      shownBefore_succ, Plan.prepend_append]

/-- A spoiled run is not planned, and the ordinal run behind it is the fault. -/
theorem resume_of_isSpoiledAt (h : IsSpoiledAt tokens n) :
    ∃ r, tokens[n + 1]? = some (.run r) ∧ resume tokens n = .fail (.ofOffender r) := by
  obtain ⟨⟨r, hr, hletter⟩, s, hs, hmodifier, hlength⟩ := id h
  rw [Option.mem_def, runAt?_eq_some] at hr hs
  refine ⟨s, hs, ?_⟩
  rw [resume_of_not_isAppliedAt (not_isAppliedAt_of_directive h.1), drop_eq_cons hr,
    drop_eq_cons hs, Plan.ofTokens_run_modifier hletter hmodifier, if_neg (by omega),
    PatternFault.ofOffender_modifier hmodifier]

/-- A run that offends ends the plan, with its own fault or that of the ordinal run behind it. -/
theorem resume_of_isOffendingAt (hproper : ∀ t ∈ tokens, t.IsProper) (h : IsOffendingAt tokens n) :
    ∃ r, tokens[reportedAt tokens n]? = some (.run r) ∧
      resume tokens n = .fail (.ofOffender r) := by
  by_cases hspoiled : IsSpoiledAt tokens n
  · rw [reportedAt, if_pos hspoiled]
    exact resume_of_isSpoiledAt hspoiled
  · rw [reportedAt, if_neg hspoiled]
    obtain ⟨r, hr, hoffends⟩ := h
    rw [Option.mem_def, runAt?_eq_some] at hr
    refine ⟨r, hr, ?_⟩
    by_cases hletter : r.letter = Field.ordinalLetter
    · rw [if_pos hletter] at hoffends
      rw [resume_of_not_isAppliedAt hoffends, drop_eq_cons hr, Plan.ofTokens_modifier hletter,
        PatternFault.ofOffender_modifier hletter]
    · rw [if_neg hletter] at hoffends
      rw [resume_directive hproper hr hletter hspoiled, Plan.consRun_eq_fail hoffends,
        PatternFault.ofOffender_directive hletter]

/-- Tokens of which none offends are all planned as they show. -/
theorem ofTokens_of_no_offender (hproper : ∀ t ∈ tokens, t.IsProper)
    (h : ∀ k, ¬ IsOffendingAt tokens k) :
    Plan.ofTokens tokens = ⟨shownBefore tokens tokens.length, none⟩ := by
  have hgood : ∀ j < tokens.length, ¬ IsOffendingAt tokens j ∧ ¬ IsSpoiledAt tokens j :=
    fun j _ => ⟨h j, fun hspoiled => h (j + 1) (isOffendingAt_of_isSpoiledAt hspoiled)⟩
  rw [ofTokens_eq_prepend hproper hgood, resume_of_length_le (Nat.le_refl _), Plan.prepend,
    Plan.done, List.append_nil]

theorem good_of_lt_renderedBefore (hfirst : ∀ j < k, ¬ IsOffendingAt tokens j) :
    ∀ j < renderedBefore tokens k, ¬ IsOffendingAt tokens j ∧ ¬ IsSpoiledAt tokens j := by
  cases k with
  | zero => exact fun j hj => absurd hj (Nat.not_lt_zero j)
  | succ i =>
    rw [renderedBefore]
    intro j hj
    by_cases hi : IsSpoiledAt tokens i
    · rw [if_pos hi] at hj
      exact ⟨hfirst j (by omega),
        fun hspoiled => hfirst (j + 1) (by omega) (isOffendingAt_of_isSpoiledAt hspoiled)⟩
    · rw [if_neg hi] at hj
      refine ⟨hfirst j hj, fun hspoiled => ?_⟩
      -- What follows a spoiled run offends, so that only the last place before could be spoiled.
      by_cases hlast : j = i
      · exact hi (hlast ▸ hspoiled)
      · exact hfirst (j + 1) (by omega) (isOffendingAt_of_isSpoiledAt hspoiled)

theorem resume_renderedBefore (hproper : ∀ t ∈ tokens, t.IsProper) (hk : IsOffendingAt tokens k) :
    ∃ r, tokens[reportedAt tokens k]? = some (.run r) ∧
      resume tokens (renderedBefore tokens k) = .fail (.ofOffender r) := by
  cases k with
  | zero => exact resume_of_isOffendingAt hproper hk
  | succ j =>
    by_cases hj : IsSpoiledAt tokens j
    · obtain ⟨r, hr, hfail⟩ := resume_of_isSpoiledAt hj
      obtain ⟨-, s, hs, hmodifier, -⟩ := id hj
      have hnot : ¬ IsSpoiledAt tokens (j + 1) := fun h =>
        not_isDirectiveAt_of_modifier (runAt?_eq_some.mp hs) hmodifier h.1
      rw [reportedAt, if_neg hnot, renderedBefore, if_pos hj]
      exact ⟨r, hr, hfail⟩
    · rw [renderedBefore, if_neg hj]
      exact resume_of_isOffendingAt hproper hk

/-- Before the first token that offends all are planned as they show, but for a run right before it
that it spoils. -/
theorem ofTokens_of_offender (hproper : ∀ t ∈ tokens, t.IsProper) (hk : IsOffendingAt tokens k)
    (hfirst : ∀ j < k, ¬ IsOffendingAt tokens j) :
    ∃ r, tokens[reportedAt tokens k]? = some (.run r) ∧
      Plan.ofTokens tokens =
        ⟨shownBefore tokens (renderedBefore tokens k), some (.ofOffender r)⟩ := by
  obtain ⟨r, hr, hfail⟩ := resume_renderedBefore hproper hk
  refine ⟨r, hr, ?_⟩
  rw [ofTokens_eq_prepend hproper (good_of_lt_renderedBefore hfirst), hfail, Plan.prepend,
    Plan.fail, List.append_nil]

/-- What a token comes to in a call: a literal its text; a run the warning about it, and then the text
of its field, with the option for ordinal numbers where the next token applies. The ordinal letter has
no field, and comes to nothing. -/
def textAt (asks : Reading) (l : Localizer) (o : Options) (tokens : List Token) (k : Nat) :
    Option (Run String) :=
  match tokens[k]? with
  | some (.literal cs) => some (pure (String.ofList cs))
  | some (.run r) =>
    (Field.ofLetter? r.letter).map fun f => do
      Run.warn (confusion? f r o)
      f.render r.length asks l (if IsAppliedAt tokens (k + 1) then o.withOrdinal else o)
  | none => none

/-- What the tokens before a place come to. -/
def textsBefore (asks : Reading) (l : Localizer) (o : Options) (tokens : List Token) (n : Nat) :
    List (Run String) :=
  (List.range n).filterMap (textAt asks l o tokens)

variable (asks : Reading) (l : Localizer) (o : Options)

theorem textAt_eq_render (tokens : List Token) (k : Nat) :
    textAt asks l o tokens k = (shownAt tokens k).map (Step.render asks l o) := by
  rw [textAt, shownAt]
  split
  · rfl
  · rw [Option.map_map]
    congr 1
    funext f
    simp only [Function.comp_apply, Step.render, decide_eq_true_eq]
  · rfl

theorem mapM_textsBefore (tokens : List Token) (n : Nat) :
    (textsBefore asks l o tokens n).mapM id =
      (shownBefore tokens n).mapM (Step.render asks l o) := by
  have hmapped (steps : List Step) : (steps.map (Step.render asks l o)).mapM id =
      steps.mapM (Step.render asks l o) := by
    induction steps with
    | nil => rfl
    | cons step steps ih => rw [List.map_cons, List.mapM_cons, List.mapM_cons, ih, id]
  rw [← hmapped, shownBefore, List.map_filterMap, textsBefore]
  simp only [textAt_eq_render]

end Token

section

variable {date options : Argument} {d : Dated} {o : Options}

/-- What a date in a pattern comes to, told token by token. If none offends, the calls are those of
what the tokens come to, in order and each once, and the text is theirs one behind the other.
Otherwise the first one that offends is reported, or the ordinal run that hides it, after what comes
before: the complaint names the letter and the position of the reported run, and its diagnostic the
run. No text is so long that its positions cannot be written. -/
theorem format_by_token (ho : Options.ofArgument options = .ok o)
    (hd : Dated.ofArgument date (.number o.digitCount) = .ok d) (hvalid : d.isValid = .ok true)
    (pattern : String) (registry : LocaleRegistry) (l : Localizer) :
    let tokens := Token.scan pattern
    ((∀ k, ¬ Token.IsOffendingAt tokens k) →
      format (some date) (some (.text pattern)) options (some l) registry = do
        let texts ← (Token.textsBefore d.reading l o tokens tokens.length).mapM id
        return String.join texts) ∧
    ∀ k, Token.IsOffendingAt tokens k → (∀ j < k, ¬ Token.IsOffendingAt tokens j) →
      ∃ r : LetterRun, tokens[Token.reportedAt tokens k]? = some (.run r) ∧
        (format (some date) (some (.text pattern)) options (some l) registry = do
          let _ ← (Token.textsBefore d.reading l o tokens (Token.renderedBefore tokens k)).mapM id
          throw (PatternFault.ofOffender r).fault) ∧
        (PatternFault.ofOffender r).diagnostic.directive = .text r.text ∧
        (¬ IsTooLong r.position →
          ∃ text, (PatternFault.ofOffender r).fault = .complaint
            ⟨.directive (.text r.letter.toString) (.int r.position), text,
              some (PatternFault.ofOffender r).diagnostic⟩) := by
  intro tokens
  have hproper : ∀ t ∈ tokens, t.IsProper := Token.isProper_of_mem_scanAfter [] pattern.toList
  constructor
  · intro hgood
    rw [format_eq_render ho hd hvalid, Plan.ofPattern, Token.ofTokens_of_no_offender hproper hgood,
      Token.mapM_textsBefore]
    rfl
  · intro k hk hfirst
    obtain ⟨r, hr, hplan⟩ := Token.ofTokens_of_offender hproper hk hfirst
    have hrun := PatternFault.run_ofOffender r
    refine ⟨r, hr, ?_, ?_, fun hposition => ?_⟩
    · rw [format_eq_render ho hd hvalid, Plan.ofPattern, hplan, Token.mapM_textsBefore]
      rfl
    · rw [PatternFault.directive_diagnostic, hrun]
    · have hfault := PatternFault.exists_fault_eq (f := .ofOffender r) (by rwa [hrun])
      rwa [hrun] at hfault

/-- An ordinal day of the month before the name of the month; and a letter without field, hidden by
the run of ordinal letters behind it. -/
theorem format_by_token_modifiers :
    let m : Moment := ⟨⟨2024, 1, 29, 12, 0, 0, 0⟩, some 1709208000000, 0, fun _ => by decide⟩
    let outcome (pattern : String) :=
      ((format (some (.atom (.moment m))) (some (.text pattern)) .absent
        (some .english)).run.run .start).1
    Options.ofArgument .absent = .ok .unset ∧
    Dated.ofArgument (.atom (.moment m)) (.number Options.unset.digitCount) = .ok (.moment m) ∧
    (Dated.moment m).isValid = .ok true ∧
    outcome "do MMMM" = .ok "29th February" ∧
    ∃ text d, outcome "d zoo" = .error (.complaint ⟨.directive (.text "o") (.int 3), text, some d⟩) ∧
      d.directive = .text "oo" := by
  intro m outcome
  have ho : Options.ofArgument .absent = .ok .unset := rfl
  have hd : Dated.ofArgument (.atom (.moment m)) (.number Options.unset.digitCount) =
      .ok (.moment m) := rfl
  have hvalid : (Dated.moment m).isValid = .ok true := rfl
  have happlied : Token.scan "do MMMM" =
      [.run ⟨'d', 1, 0⟩, .run ⟨'o', 1, 1⟩, .literal [' '], .run ⟨'M', 4, 3⟩] := by
    have hchars : "do MMMM".toList = ['d', 'o', ' ', 'M', 'M', 'M', 'M'] := rfl
    rw [Token.scan, hchars]
    decide +kernel
  have hspoiled : Token.scan "d zoo" =
      [.run ⟨'d', 1, 0⟩, .literal [' '], .run ⟨'z', 1, 2⟩, .run ⟨'o', 2, 3⟩] := by
    have hchars : "d zoo".toList = ['d', ' ', 'z', 'o', 'o'] := rfl
    rw [Token.scan, hchars]
    decide +kernel
  refine ⟨ho, hd, hvalid, ?_, ?_⟩
  · have hformat := (format_by_token ho hd hvalid "do MMMM" .known .english).1
    rw [happlied] at hformat
    have hgood (k : Nat) : ¬ Token.IsOffendingAt
        [.run ⟨'d', 1, 0⟩, .run ⟨'o', 1, 1⟩, .literal [' '], .run ⟨'M', 4, 3⟩] k := by
      match k with
      | 0 | 1 | 2 | 3 => decide
      | k + 4 =>
        rintro ⟨r, hr, -⟩
        cases hr
    change ((format _ _ _ _).run.run .start).1 = _
    rw [hformat hgood]
    decide +kernel
  · have hformat := (format_by_token ho hd hvalid "d zoo" .known .english).2
    rw [hspoiled] at hformat
    obtain ⟨r, hr, hthrow, hdirective, hfault⟩ := hformat 2 (by decide) (by decide)
    cases hr
    obtain ⟨text, hfault⟩ := hfault (not_isTooLong_of_le_999 (by decide))
    have hbefore : (((Token.textsBefore m.reading .english .unset
        [.run ⟨'d', 1, 0⟩, .literal [' '], .run ⟨'z', 1, 2⟩, .run ⟨'o', 2, 3⟩] 2).mapM id).run.run
        .start).1 = .ok ["29", " "] := by
      decide +kernel
    refine ⟨text, _, ?_, hdirective⟩
    change ((format _ _ _ _).run.run .start).1 = _
    rw [hthrow, hfault, Run.run_bind]
    split
    case h_1 => rfl
    case h_2 f t hrun => cases (congrArg Prod.fst hrun).symm.trans hbefore

end

end DatePattern
