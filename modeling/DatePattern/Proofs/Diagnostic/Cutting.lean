import DatePattern.Diagnostic.Layout

/-! Cutting hides what is behind the limit. Two diagnostics that are alike up to the limit have the
same line and the same JSON. Their blocks are the same but for the messages, which a block shows
whole. -/
namespace DatePattern

/-- Two values that are the same up to a limit: equal, or two texts that go on behind a beginning of
that length, which they share. -/
def Argument.AlikeUpTo (limit : Nat) (x y : Argument) : Prop :=
  x = y ∨ ∃ s t : String, x = .text s ∧ y = .text t ∧ limit < s.toList.length ∧
    limit < t.toList.length ∧ s.toList.take limit = t.toList.take limit

namespace Argument.AlikeUpTo

variable {limit : Nat} {x y : Argument} {style : DiagnosticStyle}

theorem isTruthy_of_lt {s : String} (h : limit < s.toList.length) :
    (text s).isTruthy = true := by
  have hs : s ≠ "" := by
    rintro rfl
    exact Nat.not_lt_zero limit h
  exact bne_iff_ne.mpr hs

/-- A value that counts as set, and any that is alike. -/
theorem isTruthy_eq (h : x.AlikeUpTo limit y) : x.isTruthy = y.isTruthy := by
  rcases h with rfl | ⟨s, t, rfl, rfl, hs, ht, -⟩
  · rfl
  · rw [isTruthy_of_lt hs, isTruthy_of_lt ht]

/-- Of a text behind the limit its beginning is shown, and points. -/
theorem fit_of_lt {s : String} (hcuts : style.cuts = true) (hlimit : style.limit = .int limit)
    (h : limit < s.toList.length) :
    style.fit (text s) = .ok (text (String.ofList (s.toList.take limit ++ ['.', '.', '.']))) := by
  have habove : (int s.toList.length).compares .above (int limit) = .ok true := by
    rw [compares_int]
    exact congrArg _ (decide_eq_true (Int.ofNat_lt.mpr h))
  have htake : takeSigned limit s.toList = s.toList.take limit := by
    rw [takeSigned, if_pos (Int.natCast_nonneg limit), Int.toNat_natCast]
  have hlength : (text s).length = .ok s.toList.length := rfl
  rw [DiagnosticStyle.fit, if_pos hcuts, hlength, ok_bind, hlimit, habove, ok_bind, if_pos rfl,
    ← htake]
  rfl

theorem fit_eq (hcuts : style.cuts = true) (hlimit : style.limit = .int limit)
    (h : x.AlikeUpTo limit y) : style.fit x = style.fit y := by
  rcases h with rfl | ⟨s, t, rfl, rfl, hs, ht, hsame⟩
  · rfl
  · rw [fit_of_lt hcuts hlimit hs, fit_of_lt hcuts hlimit ht, hsame]

end Argument.AlikeUpTo

namespace Diagnostic

/-- Two diagnostics whose message, received value and hint are each the same up to a limit, and
which are equal in all else. -/
structure AlikeUpTo (limit : Nat) (d e : Diagnostic) : Prop where
  code : d.code = e.code
  message : d.message.AlikeUpTo limit e.message
  position : d.position = e.position
  hint : d.hint.AlikeUpTo limit e.hint
  helpUrl : d.helpUrl = e.helpUrl
  directive : d.directive = e.directive
  optionName : d.optionName = e.optionName
  received : d.received.AlikeUpTo limit e.received
  severity : d.severity = e.severity

/-- The first line of a block, with the message whole. -/
def headline (style : DiagnosticStyle) (d : Diagnostic) (message : String) : String :=
  style.severityText d.severity ++ "[" ++ d.code.name ++ "]: " ++ message

/-- The lines of a block behind the first one. -/
def fieldLines (style : DiagnosticStyle) (d : Diagnostic) : Except ArgumentFault (List String) := do
  let position ←
    if d.position = .absent then pure []
    else do pure ["  --> pattern offset " ++ (← d.position.display)]
  let directive ← fieldLine "directive" d.directive
  let option ← fieldLine "option" d.optionName
  let received ← cutLine style "received" d.received
  let help ← cutLine style "help" d.hint
  let note ← noteLine d.helpUrl
  return position ++ directive ++ option ++ received ++ help ++ note

theorem block_eq_bind (style : DiagnosticStyle) (d : Diagnostic) :
    d.block style = (do
      let message ← d.message.display
      let lines ← d.fieldLines style
      return "\n".intercalate (d.headline style message :: lines)) := by
  simp only [block, fieldLines, headline]
  split <;> simp only [bind_assoc, pure_bind]

variable {style : DiagnosticStyle} {limit : Nat} {d e : Diagnostic}

theorem AlikeUpTo.headline_eq (h : d.AlikeUpTo limit e) (message : String) :
    d.headline style message = e.headline style message := by
  rw [headline, headline, h.severity, h.code]

section

variable (hcuts : style.cuts = true) (hlimit : style.limit = .int limit)
include hcuts hlimit

theorem cutLine_eq_of_alikeUpTo {x y : Argument} (h : x.AlikeUpTo limit y) (label : String) :
    cutLine style label x = cutLine style label y := by
  rw [cutLine, cutLine, h.isTruthy_eq, h.fit_eq hcuts hlimit]

theorem cutMember_eq_of_alikeUpTo {x y : Argument} (h : x.AlikeUpTo limit y) (key : String) :
    cutMember style key x = cutMember style key y := by
  rw [cutMember, cutMember, h.isTruthy_eq, h.fit_eq hcuts hlimit]

theorem line_eq_of_alikeUpTo (h : d.AlikeUpTo limit e) : d.line style = e.line style := by
  rw [line, line, h.code, h.message.fit_eq hcuts hlimit]

theorem json_eq_of_alikeUpTo (h : d.AlikeUpTo limit e) : d.json style = e.json style := by
  have hmembers : d.members style = e.members style := by
    rw [members, members, h.message.fit_eq hcuts hlimit,
      cutMember_eq_of_alikeUpTo hcuts hlimit h.received,
      cutMember_eq_of_alikeUpTo hcuts hlimit h.hint, h.code, h.severity, h.position, h.directive,
      h.optionName, h.helpUrl]
  rw [json, json, hmembers]

theorem fieldLines_eq_of_alikeUpTo (h : d.AlikeUpTo limit e) :
    d.fieldLines style = e.fieldLines style := by
  rw [fieldLines, fieldLines, cutLine_eq_of_alikeUpTo hcuts hlimit h.received,
    cutLine_eq_of_alikeUpTo hcuts hlimit h.hint, h.position, h.directive, h.optionName, h.helpUrl]

theorem block_eq_of_alikeUpTo (h : d.AlikeUpTo limit e) (hmessage : d.message = e.message) :
    d.block style = e.block style := by
  simp only [block_eq_bind, hmessage, fieldLines_eq_of_alikeUpTo hcuts hlimit h,
    h.headline_eq]

end

/-- The first line of a block tells messages apart, whatever lines follow it. -/
theorem intercalate_headline_inj {message other : String} {lines : List String}
    (h : "\n".intercalate (d.headline style message :: lines) =
      "\n".intercalate (d.headline style other :: lines)) : message = other := by
  have hhead : d.headline style message = d.headline style other := by
    cases lines with
    | nil => simpa only [String.intercalate_singleton] using h
    | cons line lines =>
      simp only [String.intercalate_cons_cons] at h
      exact (String.append_left_inj _).mp ((String.append_left_inj _).mp h)
  exact (String.append_right_inj _).mp hhead

/-- With cuts, what is behind the limit makes no difference to a line, to JSON, nor to a block where
the message is the same. A block tells two messages apart, though they differ behind the limit
alone: the first line shows the message whole. -/
theorem render_alikeUpTo (hcuts : style.cuts = true) (hlimit : style.limit = .int limit)
    (h : d.AlikeUpTo limit e) :
    ((style.layout = .block → d.message = e.message) → d.render style = e.render style) ∧
    (style.layout = .block → d.message ≠ e.message → ∀ text, d.render style = .ok text →
      ∃ other, e.render style = .ok other ∧ other ≠ text) := by
  constructor
  · intro hmessage
    cases hlayout : style.layout with
    | block =>
      rw [render, render, hlayout]
      exact block_eq_of_alikeUpTo hcuts hlimit h (hmessage hlayout)
    | line =>
      rw [render, render, hlayout]
      exact line_eq_of_alikeUpTo hcuts hlimit h
    | json =>
      rw [render, render, hlayout]
      exact congrArg (Except.map Json.text) (json_eq_of_alikeUpTo hcuts hlimit h)
  · intro hlayout hne text htext
    obtain ⟨s, t, hs, ht, -⟩ := h.message.resolve_left hne
    have hwritten (x : String) : (Argument.text x).display = .ok x := rfl
    rw [render, hlayout] at htext ⊢
    simp only [block_eq_bind, hs, ht, hwritten, Argument.ok_bind,
      ← fieldLines_eq_of_alikeUpTo hcuts hlimit h, ← h.headline_eq] at htext ⊢
    cases hlines : d.fieldLines style with
    | error f =>
      rw [hlines] at htext
      cases htext
    | ok lines =>
      rw [hlines] at htext
      cases htext
      refine ⟨_, rfl, fun hsame => hne ?_⟩
      rw [hs, ht, intercalate_headline_inj hsame]

/-- An option that is refused with one of two values, of which three characters may be seen. In JSON
nobody can tell which one it was; the message of a block says it. -/
theorem render_alikeUpTo_refused :
    let refused (literal : String) : Diagnostic := {
      code := .optionOutOfRange, message := .text ("got " ++ literal), received := .text literal }
    let style (layout : DiagnosticLayout) : DiagnosticStyle :=
      { layout := layout, cuts := true, limit := .int (3 : Nat) }
    (refused "'a secret'").AlikeUpTo 3 (refused "'a sealed letter'") ∧
    (refused "'a secret'").render (style .json) =
      (refused "'a sealed letter'").render (style .json) ∧
    ∃ other, (refused "'a sealed letter'").render (style .block) = .ok other ∧
      other ≠ "error[OPTION_OUT_OF_RANGE]: got 'a secret'\n  = received: 'a ..." := by
  intro refused style
  have halike : (refused "'a secret'").AlikeUpTo 3 (refused "'a sealed letter'") :=
    ⟨rfl, .inr ⟨_, _, rfl, rfl, by decide, by decide, by decide⟩, rfl, .inl rfl, rfl, rfl, rfl,
      .inr ⟨_, _, rfl, rfl, by decide, by decide, by decide⟩, rfl⟩
  have hdiffers : (refused "'a secret'").message ≠ (refused "'a sealed letter'").message := by
    simp [refused, Argument.text]
  refine ⟨halike, (render_alikeUpTo rfl rfl halike).1 (by rintro ⟨⟩), ?_⟩
  have hcuts : (style .block).cuts = true := rfl
  exact (render_alikeUpTo hcuts rfl halike).2 rfl hdiffers _ rfl

/-- Two messages that differ behind the limit alone, in a block that cuts there: it shows both
whole. -/
theorem render_block_shows_message :
    let refused (literal : String) : Diagnostic :=
      { code := .optionOutOfRange, message := .text ("got " ++ literal) }
    let style : DiagnosticStyle := { layout := .block, cuts := true, limit := .int (6 : Nat) }
    (refused "'a secret'").AlikeUpTo 6 (refused "'a sealed letter'") ∧
    (refused "'a secret'").render style ≠ (refused "'a sealed letter'").render style := by
  intro refused style
  refine ⟨⟨rfl, .inr ⟨_, _, rfl, rfl, by decide, by decide, by decide⟩, rfl, .inl rfl, rfl, rfl,
    rfl, .inl rfl, rfl⟩, ?_⟩
  have hwhole (literal : String) : (refused literal).render style =
      .ok ("error[OPTION_OUT_OF_RANGE]: got " ++ literal) := rfl
  rw [hwhole, hwhole]
  intro hsame
  exact absurd (Except.ok.inj hsame) (by decide)

end Diagnostic

end DatePattern
