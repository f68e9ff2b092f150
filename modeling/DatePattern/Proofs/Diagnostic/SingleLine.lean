import DatePattern.Proofs.Diagnostic.Raised
import Mathlib.Data.List.Infix

/-! The layout of one line, for diagnostics that calls fail with. One about a key that names no option
has the line breaks of the key; where a caller's classes have a part in the values, one that quotes such
a value has those of what it quotes; and no other has any. Several of them are told apart by the empty
lines between them, unless what they quote has empty lines of its own, or ends with a line break before
the last of them. -/
namespace DatePattern

/-- The text has two line breaks in a row. -/
def HasEmptyLine (cs : List Char) : Prop := ['\n', '\n'] <:+: cs

instance (cs : List Char) : Decidable (HasEmptyLine cs) := inferInstanceAs (Decidable (_ <:+: _))

/-- The pieces of a text between its empty lines. Of three line breaks in a row the first two make
one, and the third begins the next piece. -/
def paragraphs : List Char → List (List Char)
  | [] => [[]]
  | '\n' :: '\n' :: rest => [] :: paragraphs rest
  | c :: rest => (paragraphs rest).modifyHead (c :: ·)

section

variable {cs ds rest piece : List Char} {c : Char}

theorem not_hasEmptyLine_nil : ¬ HasEmptyLine [] := by decide

theorem hasEmptyLine_cons_iff :
    HasEmptyLine (c :: cs) ↔ (c = '\n' ∧ cs.head? = some '\n') ∨ HasEmptyLine cs := by
  rw [HasEmptyLine, List.infix_cons_iff, List.cons_prefix_cons, ← HasEmptyLine]
  refine or_congr_left (and_congr eq_comm ?_)
  cases cs with
  | nil => simp
  | cons d cs => simp [List.cons_prefix_cons, eq_comm]

theorem hasEmptyLine_reverse_iff : HasEmptyLine cs.reverse ↔ HasEmptyLine cs :=
  @List.reverse_infix _ ['\n', '\n'] cs

/-- A line break behind a text makes an empty line if the text ends with one. -/
theorem hasEmptyLine_break_iff :
    HasEmptyLine (cs ++ ['\n']) ↔ cs.getLast? = some '\n' ∨ HasEmptyLine cs := by
  rw [← hasEmptyLine_reverse_iff, List.reverse_append, List.reverse_singleton,
    List.singleton_append, hasEmptyLine_cons_iff, hasEmptyLine_reverse_iff, List.head?_reverse,
    and_iff_right rfl]

theorem hasEmptyLine_append_left (h : IsUnbroken cs) :
    HasEmptyLine (cs ++ ds) ↔ HasEmptyLine ds := by
  induction cs with
  | nil => rfl
  | cons c cs ih =>
    obtain ⟨hc, hcs⟩ := isUnbroken_cons.mp h
    rw [List.cons_append, hasEmptyLine_cons_iff, or_iff_right (fun hbreak => hc hbreak.1), ih hcs]

/-! ### Splitting at empty lines -/

theorem paragraphs_cons (h : ¬ (c = '\n' ∧ cs.head? = some '\n')) :
    paragraphs (c :: cs) = (paragraphs cs).modifyHead (c :: ·) := by
  rw [paragraphs]
  rintro rest rfl rfl
  exact h ⟨rfl, rfl⟩

/-- A text without empty lines is one piece. -/
theorem paragraphs_eq_singleton (h : ¬ HasEmptyLine cs) : paragraphs cs = [cs] := by
  induction cs with
  | nil => rw [paragraphs]
  | cons c cs ih =>
    rw [hasEmptyLine_cons_iff, not_or] at h
    rw [paragraphs_cons h.1, ih h.2, List.modifyHead_cons]

/-- A text is the first piece where an empty line follows it, unless one begins within it. -/
theorem paragraphs_append (h : ¬ HasEmptyLine (cs ++ ['\n'])) :
    paragraphs (cs ++ '\n' :: '\n' :: rest) = cs :: paragraphs rest := by
  induction cs with
  | nil => rw [List.nil_append, paragraphs]
  | cons c cs ih =>
    rw [List.cons_append, hasEmptyLine_cons_iff, not_or] at h
    have hnext : ¬ (c = '\n' ∧ (cs ++ '\n' :: '\n' :: rest).head? = some '\n') := by
      cases cs with
      | nil => exact h.1
      | cons d cs => exact h.1
    rw [List.cons_append, paragraphs_cons hnext, ih h.2, List.modifyHead_cons]

theorem isPrefix_of_paragraphs {pieces : List (List Char)} (h : paragraphs cs = piece :: pieces) :
    piece <+: cs := by
  induction cs using paragraphs.induct generalizing piece pieces with
  | case1 =>
    rw [paragraphs] at h
    cases h
    exact List.nil_prefix
  | case2 rest ih =>
    rw [paragraphs] at h
    cases h
    exact List.nil_prefix
  | case3 c rest hrest ih =>
    rw [paragraphs] at h
    · cases hpieces : paragraphs rest with
      | nil =>
        rw [hpieces] at h
        cases h
      | cons first others =>
        rw [hpieces] at h
        cases h
        exact List.cons_prefix_cons.mpr ⟨rfl, ih hpieces⟩
    · exact hrest

/-- No piece has an empty line. -/
theorem not_hasEmptyLine_of_mem_paragraphs (h : piece ∈ paragraphs cs) : ¬ HasEmptyLine piece := by
  induction cs using paragraphs.induct generalizing piece with
  | case1 =>
    rw [paragraphs, List.mem_singleton] at h
    rw [h]
    exact not_hasEmptyLine_nil
  | case2 rest ih =>
    rw [paragraphs, List.mem_cons] at h
    rcases h with rfl | h
    · exact not_hasEmptyLine_nil
    · exact ih h
  | case3 c rest hrest ih =>
    rw [paragraphs] at h
    · cases hpieces : paragraphs rest with
      | nil =>
        rw [hpieces] at h
        cases h
      | cons first others =>
        rw [hpieces, List.modifyHead_cons, List.mem_cons] at h
        rw [hpieces] at ih
        rcases h with rfl | h
        · -- A line break at the start of the first piece would be one behind `c` in the text too.
          rw [hasEmptyLine_cons_iff, not_or]
          refine ⟨?_, ih List.mem_cons_self⟩
          rintro ⟨hc, hfirst⟩
          obtain ⟨tail, hrestTail⟩ := isPrefix_of_paragraphs hpieces
          obtain ⟨first', rfl⟩ := List.head?_eq_some_iff.mp hfirst
          exact hrest _ hc hrestTail.symm
        · exact ih (List.mem_cons_of_mem _ h)
    · exact hrest

/-- Texts are told apart by the empty lines between them exactly if there is one at least, they have
no empty lines of their own, and none but the last ends with a line break. -/
theorem paragraphs_intercalate_iff {texts : List (List Char)} :
    paragraphs (['\n', '\n'].intercalate texts) = texts ↔
      texts ≠ [] ∧ (∀ t ∈ texts, ¬ HasEmptyLine t) ∧
        ∀ t ∈ texts.dropLast, t.getLast? ≠ some '\n' := by
  by_cases hnone : ∀ t ∈ texts, ¬ HasEmptyLine t
  case neg =>
    refine iff_of_false (fun h => hnone fun t ht => ?_) fun h => hnone h.2.1
    rw [← h] at ht
    exact not_hasEmptyLine_of_mem_paragraphs ht
  rw [and_iff_right hnone]
  induction texts with
  | nil =>
    rw [List.intercalate_nil, paragraphs]
    simp
  | cons t texts ih =>
    obtain ⟨ht, hnone⟩ := List.forall_mem_cons.mp hnone
    rw [and_iff_right (List.cons_ne_nil t texts)]
    cases texts with
    | nil =>
      rw [List.intercalate_singleton, paragraphs_eq_singleton ht]
      simp
    | cons next texts =>
      rw [List.intercalate_cons_cons, List.append_assoc, List.dropLast_cons_cons,
        List.forall_mem_cons]
      by_cases hlast : t.getLast? = some '\n'
      · -- The first piece ends before the line break that `t` ends with.
        obtain ⟨front, rfl⟩ := List.getLast?_eq_some_iff.mp hlast
        refine iff_of_false (fun h => ?_) fun h => h.1 hlast
        let others := ['\n', '\n'].intercalate (next :: texts)
        have hpieces : paragraphs (front ++ '\n' :: '\n' :: '\n' :: others) =
            front :: paragraphs ('\n' :: others) := paragraphs_append ht
        rw [List.append_assoc] at h
        have hsame := (List.cons.inj (hpieces.symm.trans h)).1
        simp at hsame
      · have hbreak : ¬ HasEmptyLine (t ++ ['\n']) := by
          rw [hasEmptyLine_break_iff, not_or]
          exact ⟨hlast, ht⟩
        have hpieces :
            paragraphs (t ++ (['\n', '\n'] ++ ['\n', '\n'].intercalate (next :: texts))) =
              t :: paragraphs (['\n', '\n'].intercalate (next :: texts)) :=
          paragraphs_append hbreak
        have hrest := ih hnone
        rw [and_iff_right (List.cons_ne_nil next texts)] at hrest
        rw [hpieces, and_iff_right hlast, ← hrest, List.cons.injEq, and_iff_right rfl]

end

/-- What text behind words on one line has exactly as it has it alone. Other words may bring it about,
but none takes it away. -/
structure IsTailProperty (p : List Char → Prop) : Prop where
  nil : ¬ p []
  of_append {before tail : List Char} (h : IsUnbroken before) : p (before ++ tail) → p tail
  append (before : List Char) {tail : List Char} : p tail → p (before ++ tail)

theorem isTailProperty_break : IsTailProperty ('\n' ∈ ·) where
  nil := List.not_mem_nil
  of_append h hbreak := (List.mem_append.mp hbreak).resolve_left h
  append _ {_} hbreak := List.mem_append_right _ hbreak

theorem isTailProperty_emptyLine : IsTailProperty HasEmptyLine where
  nil := not_hasEmptyLine_nil
  of_append h := (hasEmptyLine_append_left h).mp
  append _ {_} hempty := List.IsInfix.trans hempty (List.suffix_append _ _).isInfix

theorem isTailProperty_lastBreak : IsTailProperty (·.getLast? = some '\n') where
  nil := by rintro ⟨⟩
  of_append {before tail} h hlast := by
    rw [List.getLast?_append, Option.or_eq_some_iff] at hlast
    rcases hlast with hlast | ⟨-, hlast⟩
    · exact hlast
    · exact absurd (List.mem_of_getLast? hlast) h
  append before {tail} hlast := by
    rw [List.getLast?_append, hlast, Option.some_or]

/-- The style of one line, with nothing cut. -/
def DiagnosticStyle.oneLine : DiagnosticStyle := { layout := .line }

theorem DiagnosticCode.isUnbroken_name (code : DiagnosticCode) : IsUnbroken code.name.toList := by
  cases code <;> decide

namespace Diagnostic

variable {foreign : Prop} {d : Diagnostic} {text : String}

theorem render_oneLine {s : String} (h : d.message = .text s) :
    d.render .oneLine = .ok (d.code.name ++ ": " ++ s) := by
  change d.line .oneLine = _
  rw [line, h]
  rfl

theorem Quotes.exists_message {tail : String} (h : d.Quotes foreign tail) :
    ∃ before, d.message = .text (before ++ tail) := by
  cases h with
  | key h => exact ⟨_, congrArg Argument.text String.append_assoc⟩
  | value hforeign hx h => exact ⟨_, rfl⟩
  | kind hforeign hx h => exact ⟨_, rfl⟩
  | pattern hforeign hx => exact ⟨_, rfl⟩

/-- Without callers' classes only the text of a key that names no option is quoted as it is. -/
theorem Quotes.code_eq_or_foreign {tail : String} (h : d.Quotes foreign tail) :
    d.code = .optionUnknown ∨ foreign := by
  cases h with
  | key h => exact .inl rfl
  | value hforeign hx h => exact .inr hforeign
  | kind hforeign hx h => exact .inr hforeign
  | pattern hforeign hx => exact .inr hforeign

/-- What a raised diagnostic's text has of line breaks it has from what it quotes. -/
theorem IsRaised.render_oneLine_iff {p : List Char → Prop} (hp : IsTailProperty p)
    (h : d.IsRaised foreign) (htext : d.render .oneLine = .ok text) :
    p text.toList ↔ ∃ tail, d.Quotes foreign tail ∧ p tail.toList := by
  have hrendered {before tail : String} (hmessage : d.message = .text (before ++ tail)) :
      text.toList = (d.code.name ++ ": " ++ before).toList ++ tail.toList := by
    rw [render_oneLine hmessage] at htext
    rw [← Except.ok.inj htext, ← String.append_assoc, String.toList_append]
  constructor
  · intro hbroken
    obtain ⟨before, tail, hmessage, hbefore, hquotes⟩ := h.hasPlainMessage
    rw [hrendered hmessage] at hbroken
    have htail : p tail.toList := hp.of_append
      (isUnbroken_between d.code.isUnbroken_name (by decide) hbefore) hbroken
    rcases hquotes with rfl | hquotes
    · exact absurd htail hp.nil
    · exact ⟨tail, hquotes, htail⟩
  · rintro ⟨tail, hquotes, htail⟩
    obtain ⟨before, hmessage⟩ := hquotes.exists_message
    rw [hrendered hmessage]
    exact hp.append _ htail

theorem IsRaised.exists_render (h : d.IsRaised foreign) :
    ∃ text, d.render .oneLine = .ok text := by
  obtain ⟨before, tail, hmessage, -⟩ := h.hasPlainMessage
  exact ⟨_, render_oneLine hmessage⟩

/-- The diagnostic is raised, and this is its text. -/
def IsRaisedAs (foreign : Prop) (d : Diagnostic) (text : String) : Prop :=
  d.IsRaised foreign ∧ d.render .oneLine = .ok text

/-- Raised diagnostics all have texts. -/
theorem exists_renders {ds : List Diagnostic} (h : ∀ d ∈ ds, d.IsRaised foreign) :
    ∃ texts, (ds.mapM fun d => d.render .oneLine) = .ok texts ∧
      List.Forall₂ (IsRaisedAs foreign) ds texts := by
  induction ds with
  | nil => exact ⟨[], rfl, .nil⟩
  | cons d ds ih =>
    obtain ⟨hd, hds⟩ := List.forall_mem_cons.mp h
    obtain ⟨text, htext⟩ := hd.exists_render
    obtain ⟨texts, htexts, hall⟩ := ih hds
    refine ⟨text :: texts, ?_, .cons ⟨hd, htext⟩ hall⟩
    rw [List.mapM_cons, htext, htexts]
    rfl

theorem forall_mem_texts_iff {p : List Char → Prop} (hp : IsTailProperty p) {ds : List Diagnostic}
    {texts : List String} (h : List.Forall₂ (IsRaisedAs foreign) ds texts) :
    (∀ cs ∈ texts.map String.toList, ¬ p cs) ↔
      ∀ d ∈ ds, ∀ tail, d.Quotes foreign tail → ¬ p tail.toList := by
  induction h with
  | nil => simp
  | cons hd _ ih =>
    rw [List.map_cons, List.forall_mem_cons, List.forall_mem_cons, ih,
      hd.1.render_oneLine_iff hp hd.2]
    simp only [not_exists, not_and]

/-- The texts of diagnostics that calls fail with are of one line each, but for what they quote as it
is. That is the text of a key that names no option, and every such key that can be written is complained
about; and, where a caller's classes have a part in the values, what they give as a literal or are
called. A text has the line breaks of what it quotes, and no others. Several diagnostics, one at least,
are told apart: splitting what they make together at its empty lines gives back their texts in order,
exactly if nothing that they quote has an empty line, and nothing that one before the last of them quotes
ends with a line break. -/
theorem render_oneLine_raised {ds : List Diagnostic} (h : ∀ d ∈ ds, d.IsRaised foreign) :
    (∀ d ∈ ds, ∃ text, d.render .oneLine = .ok text ∧
      ('\n' ∈ text.toList ↔ ∃ tail, d.Quotes foreign tail ∧ '\n' ∈ tail.toList)) ∧
    (∀ key shown, OptionName.ofKey? key = none → key.display = .ok shown →
      (optionUnknown ⟨key, shown⟩).IsRaised foreign) ∧
    ∃ texts whole, (ds.mapM fun d => d.render .oneLine) = .ok texts ∧
      renderAll .oneLine ds = .ok whole ∧
      (paragraphs whole.toList = texts.map String.toList ↔ ds ≠ [] ∧
        (∀ d ∈ ds, ∀ tail, d.Quotes foreign tail → ¬ HasEmptyLine tail.toList) ∧
        ∀ d ∈ ds.dropLast, ∀ tail, d.Quotes foreign tail →
          tail.toList.getLast? ≠ some '\n') := by
  refine ⟨fun d hd => ?_, fun key shown hkey hshown => isRaised_optionUnknown hkey hshown, ?_⟩
  · obtain ⟨text, htext⟩ := (h d hd).exists_render
    exact ⟨text, htext, (h d hd).render_oneLine_iff isTailProperty_break htext⟩
  · obtain ⟨texts, htexts, hall⟩ := exists_renders h
    have hlength := hall.length_eq
    have hwhole : renderAll .oneLine ds = .ok ("\n\n".intercalate texts) := by
      rw [renderAll, htexts]
      rfl
    have hsep : "\n\n".toList = ['\n', '\n'] := rfl
    have hsome : texts.map String.toList ≠ [] ↔ ds ≠ [] := by
      rw [← List.length_pos_iff, ← List.length_pos_iff, List.length_map, hlength]
    have hfront : List.Forall₂ (IsRaisedAs foreign) ds.dropLast texts.dropLast := by
      rw [List.dropLast_eq_take, List.dropLast_eq_take, hlength]
      exact List.forall₂_take _ hall
    refine ⟨texts, _, htexts, hwhole, ?_⟩
    rw [String.toList_intercalate, hsep, paragraphs_intercalate_iff, hsome,
      forall_mem_texts_iff isTailProperty_emptyLine hall, ← List.map_dropLast,
      forall_mem_texts_iff isTailProperty_lastBreak hfront]

/-- A key with a line break stands in the text of its complaint with it. Beside the complaint about a
value it can still be told apart. -/
theorem render_oneLine_raised_breakInKey :
    let ofKey : Diagnostic := .optionUnknown ⟨.text "a\nb", "a\nb"⟩
    let ofValue : Diagnostic := .optionOutOfRange "week_starts_on" "9" "between 0 and 6"
    ofKey.IsRaised False ∧ ofValue.IsRaised False ∧
    (∃ text, ofKey.render .oneLine = .ok text ∧ '\n' ∈ text.toList) ∧
    (∃ text, ofValue.render .oneLine = .ok text ∧ '\n' ∉ text.toList) ∧
    ∃ texts whole, ([ofKey, ofValue].mapM fun d => d.render .oneLine) = .ok texts ∧
      renderAll .oneLine [ofKey, ofValue] = .ok whole ∧
      paragraphs whole.toList = texts.map String.toList := by
  intro ofKey ofValue
  have hkey : ofKey.IsRaised False := isRaised_optionUnknown rfl rfl
  have hfault : ((format (some .absent) (some (.text "yyyy"))
        (.mapping [(.text "week_starts_on", .int 9)]) none).run.run .start).1 =
      .error (.optionOutOfRange "week_starts_on" (.int 9) "between 0 and 6") := rfl
  have hvalue : ofValue.IsRaised False := .formatting
    (by rintro p ⟨⟩; exact .inl (.atom rfl))
    (List.forall_mem_singleton.mpr (.inl (.atom rfl))) (by rintro l ⟨⟩) hfault rfl
  have hvalueQuotes {tail : String} (h : ofValue.Quotes False tail) : False :=
    h.code_eq_or_foreign.elim nofun id
  obtain ⟨hbreaks, -, texts, whole, htexts, hwhole, hsplit⟩ := render_oneLine_raised
    (List.forall_mem_cons.mpr ⟨hkey, List.forall_mem_singleton.mpr hvalue⟩)
  obtain ⟨⟨keyText, hkeyText, hkeyBreak⟩, hbreaks⟩ := List.forall_mem_cons.mp hbreaks
  obtain ⟨valueText, hvalueText, hvalueBreak⟩ := List.forall_mem_singleton.mp hbreaks
  refine ⟨hkey, hvalue, ⟨keyText, hkeyText, ?_⟩, ⟨valueText, hvalueText, ?_⟩, texts, whole, htexts,
    hwhole, hsplit.mpr ⟨List.cons_ne_nil _ _, ?_, ?_⟩⟩
  · exact hkeyBreak.mpr ⟨_, .key rfl, by decide⟩
  · rw [hvalueBreak]
    rintro ⟨tail, hquotes, -⟩
    exact hvalueQuotes hquotes
  · refine List.forall_mem_cons.mpr ⟨fun tail hquotes hempty => ?_,
      List.forall_mem_singleton.mpr fun tail hquotes => (hvalueQuotes hquotes).elim⟩
    have htext : HasEmptyLine keyText.toList :=
      (hkey.render_oneLine_iff isTailProperty_emptyLine hkeyText).mpr ⟨tail, hquotes, hempty⟩
    cases hkeyText
    revert htext
    decide
  · refine List.forall_mem_singleton.mpr fun tail hquotes hlast => ?_
    have htext : keyText.toList.getLast? = some '\n' :=
      (hkey.render_oneLine_iff isTailProperty_lastBreak hkeyText).mpr ⟨tail, hquotes, hlast⟩
    cases hkeyText
    revert htext
    decide

/-- A key with an empty line takes the text of its complaint apart. -/
theorem render_oneLine_emptyLineInKey_fails :
    let d : Diagnostic := .optionUnknown ⟨.text "a\n\nb", "a\n\nb"⟩
    d.IsRaised False ∧ ∃ text, d.render .oneLine = .ok text ∧ '\n' ∈ text.toList ∧
      renderAll .oneLine [d] = .ok text ∧ paragraphs text.toList ≠ [text.toList] := by
  intro d
  refine ⟨isRaised_optionUnknown rfl rfl, _, rfl, ?_, rfl, ?_⟩
  · decide
  · decide

end Diagnostic

end DatePattern
