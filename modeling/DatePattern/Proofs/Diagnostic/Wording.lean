import DatePattern.Pattern.Plan
import DatePattern.Proofs.Numeral.DigitLimit

/-! A diagnostic has a text when what it holds has one, so that its complaint is made. The faults of
patterns hold nothing but texts and a position. -/
namespace DatePattern

namespace Diagnostic

theorem exists_fieldLine {x : Argument} (h : x.IsWritten) (label : String) :
    ∃ lines, fieldLine label x = .ok lines := by
  obtain ⟨text, htext⟩ := h
  rw [fieldLine, htext]
  split <;> exact ⟨_, rfl⟩

theorem exists_noteLine {x : Argument} (h : x.IsWritten) : ∃ lines, noteLine x = .ok lines := by
  obtain ⟨text, htext⟩ := h
  rw [noteLine, htext]
  split <;> exact ⟨_, rfl⟩

/-- Without cuts a line is as any other. -/
theorem exists_cutLine {x : Argument} (h : x.IsWritten) (label : String) :
    ∃ lines, cutLine {} label x = .ok lines := by
  have hfit : DiagnosticStyle.fit {} x = .ok x := rfl
  obtain ⟨text, htext⟩ := h
  rw [cutLine, hfit, Argument.ok_bind, htext]
  split <;> exact ⟨_, rfl⟩

structure IsWritten (d : Diagnostic) : Prop where
  message : d.message.IsWritten
  position : d.position.IsWritten
  directive : d.directive.IsWritten
  optionName : d.optionName.IsWritten
  received : d.received.IsWritten
  hint : d.hint.IsWritten
  helpUrl : d.helpUrl.IsWritten

theorem exists_text {d : Diagnostic} (h : d.IsWritten) : ∃ text, d.text = .ok text := by
  obtain ⟨message, hmessage⟩ := h.message
  obtain ⟨position, hposition⟩ := h.position
  obtain ⟨directive, hdirective⟩ := exists_fieldLine h.directive "directive"
  obtain ⟨option, hoption⟩ := exists_fieldLine h.optionName "option"
  obtain ⟨received, hreceived⟩ := exists_cutLine h.received "received"
  obtain ⟨hint, hhint⟩ := exists_cutLine h.hint "help"
  obtain ⟨note, hnote⟩ := exists_noteLine h.helpUrl
  rw [text, render]
  simp only [block, hmessage, hposition, hdirective, hoption, hreceived, hhint, hnote,
    Argument.ok_bind]
  split <;> exact ⟨_, rfl⟩

/-- The message is looked at before the position, and nothing else is if that cannot be written. -/
theorem text_eq_error {d : Diagnostic} {f : ArgumentFault} (h : d.message.IsWritten)
    (hposition : d.position.display = .error f) : d.text = .error f := by
  obtain ⟨message, hmessage⟩ := h
  have hset : d.position ≠ .absent := by
    intro habsent
    rw [habsent] at hposition
    cases hposition
  rw [text, render]
  simp only [block, hmessage, hposition, hset, if_false, Argument.ok_bind]
  rfl

end Diagnostic

namespace Fault

variable {d : Diagnostic} (kind : ComplaintKind)

/-- The complaint of a diagnostic that can be written. -/
theorem exists_ofDiagnostic_eq (h : d.IsWritten) :
    ∃ text, ofDiagnostic kind d = .complaint ⟨kind, text, some d⟩ := by
  obtain ⟨text, htext⟩ := Diagnostic.exists_text h
  refine ⟨text, ?_⟩
  rw [ofDiagnostic, Complaint.ofDiagnostic, htext]
  rfl

theorem ofDiagnostic_eq_argument {f : ArgumentFault} (h : d.text = .error f) :
    ofDiagnostic kind d = .argument f := by
  rw [ofDiagnostic, Complaint.ofDiagnostic, h]
  rfl

end Fault

namespace PatternFault

variable {f : PatternFault}

theorem directive_diagnostic (f : PatternFault) : f.diagnostic.directive = .text f.run.text := by
  cases f <;> rfl

theorem isWritten_diagnostic (h : ¬ IsTooLong f.run.position) : f.diagnostic.IsWritten := by
  have hposition : (Argument.int f.run.position).IsWritten := Argument.isWritten_int h
  have htext := Argument.isWritten_text
  have habsent := Argument.isWritten_absent
  cases f with
  | unknown r => exact ⟨htext _, hposition, htext _, habsent, habsent, htext _, htext _⟩
  | reserved r => exact ⟨htext _, hposition, htext _, habsent, habsent, htext _, htext _⟩
  | strayOrdinal r => exact ⟨htext _, hposition, htext _, habsent, habsent, htext _, habsent⟩

/-- The complaint names letter and position. It is made unless the position is too long to write. -/
theorem exists_fault_eq (h : ¬ IsTooLong f.run.position) :
    ∃ text, f.fault = .complaint
      ⟨.directive (.text f.run.letter.toString) (.int f.run.position), text, some f.diagnostic⟩ :=
  Fault.exists_ofDiagnostic_eq _ (isWritten_diagnostic h)

theorem fault_of_isTooLong (h : IsTooLong f.run.position) : f.fault = .argument .numeralTooLong := by
  have hmessage : f.diagnostic.message.IsWritten := by
    cases f <;> exact Argument.isWritten_text _
  have hposition : f.diagnostic.position = .int f.run.position := by
    cases f <;> rfl
  refine Fault.ofDiagnostic_eq_argument _ (Diagnostic.text_eq_error hmessage ?_)
  rw [hposition]
  exact Argument.display_int_of_isTooLong h

end PatternFault

end DatePattern
