import DatePattern.Diagnostic.Layout
import DatePattern.Proofs.Json.Reading
import DatePattern.Proofs.Numeral.DigitLimit

/-! In JSON a diagnostic loses nothing: its text is one object on one line, and the diagnostic can be
read back from it. -/
namespace DatePattern

/-- A text that is not empty. -/
abbrev NonemptyText : Type := { s : String // s ≠ "" }

/-- A diagnostic whose fields are of the kinds that they are meant for. A field that is set to a text
is not empty, since an empty one counts as not set. -/
structure PlainDiagnostic where
  code : DiagnosticCode
  message : String
  position : Option Int := none
  hint : Option NonemptyText := none
  helpUrl : Option NonemptyText := none
  directive : Option NonemptyText := none
  optionName : Option NonemptyText := none
  received : Option NonemptyText := none
  severity : String := "error"
deriving DecidableEq

namespace PlainDiagnostic

def argumentOf : Option NonemptyText → Argument
  | some s => .text s.1
  | none => .absent

def positionOf : Option Int → Argument
  | some n => .int n
  | none => .absent

def diagnostic (p : PlainDiagnostic) : Diagnostic where
  code := p.code
  message := .text p.message
  position := positionOf p.position
  hint := argumentOf p.hint
  helpUrl := argumentOf p.helpUrl
  directive := argumentOf p.directive
  optionName := argumentOf p.optionName
  received := argumentOf p.received
  severity := .text p.severity

/-- The text under a key. -/
def textAt? (j : Json) (key : String) : Option String :=
  match j.member? key with
  | some (.string s) => some s
  | _ => none

/-- The text under a key, which is not set where there is no such key. An empty text, or what is no
text, is refused. -/
def fieldAt? (j : Json) (key : String) : Option (Option NonemptyText) :=
  match j.member? key with
  | none => some none
  | some (.string s) => if h : s ≠ "" then some (some ⟨s, h⟩) else none
  | some _ => none

def positionAt? (j : Json) (key : String) : Option (Option Int) :=
  match j.member? key with
  | none => some none
  | some (.int n) => some (some n)
  | some _ => none

/-- The diagnostic of an object, by its keys. -/
def ofJson? (j : Json) : Option PlainDiagnostic := do
  return {
    code := ← DiagnosticCode.ofName? (← textAt? j "code")
    message := ← textAt? j "message"
    position := ← positionAt? j "position"
    hint := ← fieldAt? j "hint"
    helpUrl := ← fieldAt? j "help_url"
    directive := ← fieldAt? j "directive"
    optionName := ← fieldAt? j "option_name"
    received := ← fieldAt? j "received"
    severity := ← textAt? j "severity" }

def ofText? (s : String) : Option PlainDiagnostic := do ofJson? (← Json.ofText? s)

/-- The member of a field that is set. -/
def member {α : Type} (key : String) (f : α → Json) (x : Option α) : List (String × Json) :=
  x.toList.map fun a => (key, f a)

def textMember (key : String) (x : Option NonemptyText) : List (String × Json) :=
  member key (fun s => .string s.1) x

/-- The members that each diagnostic has. -/
def headMembers (p : PlainDiagnostic) : List (String × Json) :=
  [("code", .string p.code.name), ("code_value", .int p.code.number),
    ("message", .string p.message), ("severity", .string p.severity)]

/-- The members of the object, in their order. -/
def members (p : PlainDiagnostic) : List (String × Json) :=
  p.headMembers ++ (member "position" .int p.position ++ (textMember "directive" p.directive ++
    (textMember "option_name" p.optionName ++ (textMember "received" p.received ++
      (textMember "hint" p.hint ++ textMember "help_url" p.helpUrl)))))

/-- The members that each diagnostic has, before their values are JSON. -/
def headArguments (p : PlainDiagnostic) : List (String × Argument) :=
  [("code", .text p.code.name), ("code_value", .int p.code.number), ("message", .text p.message),
    ("severity", .text p.severity)]

def positionArguments (position : Option Int) : List (String × Argument) :=
  if positionOf position = .absent then [] else [("position", positionOf position)]

/-- The members of the object, before their values are JSON. -/
def arguments (p : PlainDiagnostic) : List (String × Argument) :=
  p.headArguments ++ (positionArguments p.position ++
    (Diagnostic.member "directive" (argumentOf p.directive) ++
      (Diagnostic.member "option_name" (argumentOf p.optionName) ++
        (Diagnostic.member "received" (argumentOf p.received) ++
          (Diagnostic.member "hint" (argumentOf p.hint) ++
            Diagnostic.member "help_url" (argumentOf p.helpUrl))))))

theorem isTruthy_argumentOf (x : Option NonemptyText) : (argumentOf x).isTruthy = x.isSome := by
  cases x with
  | none => rfl
  | some s => exact bne_iff_ne.mpr s.2

/-- A member with its value as JSON. -/
abbrev jsonMember (m : String × Argument) : Except ArgumentFault (String × Json) := do
  return (m.1, ← m.2.json)

section

variable {as bs : List (String × Argument)} {js ks : List (String × Json)}

theorem mapM_append_eq_ok (ha : as.mapM jsonMember = .ok js) (hb : bs.mapM jsonMember = .ok ks) :
    (as ++ bs).mapM jsonMember = .ok (js ++ ks) := by
  rw [List.mapM_append, ha, hb]
  rfl

theorem mapM_jsonMember_member (key : String) (x : Option NonemptyText) :
    (Diagnostic.member key (argumentOf x)).mapM jsonMember = .ok (textMember key x) := by
  rw [Diagnostic.member, isTruthy_argumentOf]
  cases x <;> rfl

theorem json_int {n : Int} (h : ¬ IsTooLong n.natAbs) : (Argument.int n).json = .ok (.int n) := by
  change Json.ofInt n = _
  rw [Json.ofInt, numeral?, digits?_of_not_isTooLong h]
  rfl

theorem json_int_of_isTooLong {n : Int} (h : IsTooLong n.natAbs) :
    (Argument.int n).json = .error .numeralTooLong := by
  change Json.ofInt n = _
  rw [Json.ofInt, numeral?, digits?_of_isTooLong h]
  rfl

/-- The number of a code is a short one. -/
theorem mapM_headArguments (p : PlainDiagnostic) :
    p.headArguments.mapM jsonMember = .ok p.headMembers := by
  have hshort : ∀ code : DiagnosticCode, code.number < 10000 := by
    intro code
    cases code <;> decide
  have hnumber : (Argument.int p.code.number).json = .ok (.int p.code.number) :=
    json_int (not_isTooLong_of_lt (k := 4) (by decide) (hshort p.code))
  simp only [headArguments, List.mapM_cons, jsonMember, hnumber]
  rfl

theorem positionArguments_some (n : Int) : positionArguments (some n) = [("position", .int n)] :=
  if_neg (by rintro ⟨⟩)

theorem mapM_positionArguments {position : Option Int}
    (h : ∀ n ∈ position, ¬ IsTooLong n.natAbs) :
    (positionArguments position).mapM jsonMember = .ok (member "position" .int position) := by
  cases position with
  | none => rfl
  | some n =>
    rw [positionArguments_some, List.mapM_cons, jsonMember, json_int (h n rfl)]
    rfl

end

variable {style : DiagnosticStyle}

/-- Without cuts the members are the fields that are set. -/
theorem members_diagnostic (hcuts : style.cuts = false) (p : PlainDiagnostic) :
    p.diagnostic.members style = .ok p.arguments := by
  have hfit (x : Argument) : style.fit x = .ok x := if_neg (by rw [hcuts]; decide)
  have hmember (key : String) (x : Argument) :
      Diagnostic.cutMember style key x = .ok (Diagnostic.member key x) := by
    rw [Diagnostic.cutMember, Diagnostic.member, hfit]
    split <;> rfl
  rw [Diagnostic.members, hfit, hmember, hmember]
  simp only [Argument.ok_bind, List.append_assoc]
  rfl

theorem json_diagnostic (hcuts : style.cuts = false) (p : PlainDiagnostic) :
    p.diagnostic.json style = (p.arguments.mapM jsonMember).map Json.object := by
  rw [Diagnostic.json, members_diagnostic hcuts, Argument.ok_bind]
  cases p.arguments.mapM jsonMember <;> rfl

theorem mapM_arguments {p : PlainDiagnostic} (h : ∀ n ∈ p.position, ¬ IsTooLong n.natAbs) :
    p.arguments.mapM jsonMember = .ok p.members := by
  refine mapM_append_eq_ok (mapM_headArguments p) ?_
  refine mapM_append_eq_ok (mapM_positionArguments h) ?_
  refine mapM_append_eq_ok (mapM_jsonMember_member _ _) ?_
  refine mapM_append_eq_ok (mapM_jsonMember_member _ _) ?_
  refine mapM_append_eq_ok (mapM_jsonMember_member _ _) ?_
  exact mapM_append_eq_ok (mapM_jsonMember_member _ _) (mapM_jsonMember_member _ _)

/-- A position that cannot be written is a fault. -/
theorem mapM_arguments_of_isTooLong {p : PlainDiagnostic} {n : Int}
    (hposition : p.position = some n) (h : IsTooLong n.natAbs) :
    p.arguments.mapM jsonMember = .error .numeralTooLong := by
  have hfault : (positionArguments p.position).mapM jsonMember = .error .numeralTooLong := by
    rw [hposition, positionArguments_some, List.mapM_cons, jsonMember, json_int_of_isTooLong h]
    rfl
  rw [arguments, List.mapM_append, mapM_headArguments, List.mapM_append, hfault]
  rfl

section Member

variable {α : Type} (key : String) (f : α → Json) (x : Option α)

theorem isProper_of_mem_member {f : α → Json} (hf : ∀ a, (f a).IsProper) :
    ∀ m ∈ member key f x, m.2.IsProper := by
  intro m hm
  obtain ⟨a, -, rfl⟩ := List.mem_map.mp hm
  exact hf a

theorem keys_member_sublist : ((member key f x).map Prod.fst).Sublist [key] := by
  cases x with
  | none => exact List.nil_sublist [key]
  | some a => exact List.Sublist.refl [key]

/-- There is something under its own key only. -/
theorem lookup_member (k : String) :
    (member key f x).lookup k = if k = key then x.map f else none := by
  cases x with
  | none => exact (ite_self none).symm
  | some a =>
    rw [member, Option.toList_some, List.map_singleton, List.lookup_cons]
    by_cases h : k = key
    · rw [if_pos h, beq_iff_eq.mpr h]
      rfl
    · rw [if_neg h, beq_eq_false_iff_ne.mpr h]
      rfl

end Member

/-- All values are texts or integers. -/
theorem isProper_members (p : PlainDiagnostic) : (Json.object p.members).IsProper := by
  have hhead : ∀ m ∈ p.headMembers, m.2.IsProper := by
    simp only [headMembers, List.forall_mem_cons]
    exact ⟨.string _, .int _, .string _, .string _, fun _ hm => absurd hm List.not_mem_nil⟩
  have hfield (key : String) (x : Option NonemptyText) : ∀ m ∈ textMember key x, m.2.IsProper :=
    isProper_of_mem_member key x fun s => .string s.1
  refine .object ?_
  simp only [members, List.forall_mem_append]
  exact ⟨hhead, isProper_of_mem_member _ _ .int, hfield _ _, hfield _ _, hfield _ _, hfield _ _,
    hfield _ _⟩

/-- No key stands twice. -/
theorem nodup_keys_members (p : PlainDiagnostic) : (p.members.map Prod.fst).Nodup := by
  have hkeys : (p.members.map Prod.fst).Sublist (["code", "code_value", "message", "severity"] ++
      (["position"] ++ (["directive"] ++ (["option_name"] ++ (["received"] ++ (["hint"] ++
        ["help_url"])))))) := by
    simp only [members, textMember, List.map_append]
    refine (List.Sublist.refl _).append ((keys_member_sublist _ _ _).append ?_)
    refine (keys_member_sublist _ _ _).append ((keys_member_sublist _ _ _).append ?_)
    exact (keys_member_sublist _ _ _).append
      ((keys_member_sublist _ _ _).append (keys_member_sublist _ _ _))
  exact hkeys.nodup (by decide)

/-- Each field is found under its key, and under no other. -/
theorem lookup_members (p : PlainDiagnostic) :
    p.members.lookup "position" = p.position.map Json.int ∧
    p.members.lookup "directive" = p.directive.map (fun s => Json.string s.1) ∧
    p.members.lookup "option_name" = p.optionName.map (fun s => Json.string s.1) ∧
    p.members.lookup "received" = p.received.map (fun s => Json.string s.1) ∧
    p.members.lookup "hint" = p.hint.map (fun s => Json.string s.1) ∧
    p.members.lookup "help_url" = p.helpUrl.map (fun s => Json.string s.1) := by
  simp [members, headMembers, textMember, lookup_member, List.lookup_append, List.lookup_cons]

section Lookup

variable {ms : List (String × Json)} {key : String}

theorem fieldAt?_object {x : Option NonemptyText}
    (h : ms.lookup key = x.map fun s => .string s.1) : fieldAt? (.object ms) key = some x := by
  simp only [fieldAt?, Json.member?, h]
  cases x with
  | none => rfl
  | some s => exact dif_pos s.2

theorem positionAt?_object {x : Option Int} (h : ms.lookup key = x.map Json.int) :
    positionAt? (.object ms) key = some x := by
  simp only [positionAt?, Json.member?, h]
  cases x <;> rfl

end Lookup

theorem ofJson?_members (p : PlainDiagnostic) : ofJson? (.object p.members) = some p := by
  have hcode : textAt? (.object p.members) "code" = some p.code.name := rfl
  have hmessage : textAt? (.object p.members) "message" = some p.message := rfl
  have hseverity : textAt? (.object p.members) "severity" = some p.severity := rfl
  obtain ⟨hposition, hdirective, hoption, hreceived, hhint, hhelp⟩ := p.lookup_members
  simp only [ofJson?, hcode, hmessage, hseverity, positionAt?_object hposition,
    fieldAt?_object hdirective, fieldAt?_object hoption, fieldAt?_object hreceived,
    fieldAt?_object hhint, fieldAt?_object hhelp, DiagnosticCode.ofName?_name,
    Option.bind_eq_bind, Option.bind_some, Option.pure_def]

/-- The position has more digits than a numeral may have. -/
def HasLongPosition (p : PlainDiagnostic) : Prop :=
  ∃ n ∈ p.position, IsTooLong n.natAbs

theorem render_of_hasLongPosition (hlayout : style.layout = .json) (hcuts : style.cuts = false)
    {p : PlainDiagnostic} (h : p.HasLongPosition) :
    p.diagnostic.render style = .error .numeralTooLong := by
  obtain ⟨n, hposition, hlong⟩ := h
  rw [Diagnostic.render, hlayout]
  change (p.diagnostic.json style).map Json.text = _
  rw [json_diagnostic hcuts, mapM_arguments_of_isTooLong hposition hlong]
  rfl

theorem render_eq_ok (hlayout : style.layout = .json) (hcuts : style.cuts = false)
    {p : PlainDiagnostic} (h : ¬ p.HasLongPosition) :
    p.diagnostic.render style = .ok (Json.object p.members).text := by
  rw [Diagnostic.render, hlayout]
  change (p.diagnostic.json style).map Json.text = _
  rw [json_diagnostic hcuts, mapM_arguments fun n hn hlong => h ⟨n, hn, hlong⟩]
  rfl

theorem ofText?_text (p : PlainDiagnostic) : ofText? (Json.object p.members).text = some p := by
  rw [ofText?, Json.ofText?_text p.isProper_members]
  exact ofJson?_members p

/-- In JSON and without cuts the text of a diagnostic, whose position is not too long a number if it
has one, is one line with one object, no key of which stands twice. The diagnostic is read back from it,
and no other has the same text. -/
theorem ofText?_render (hlayout : style.layout = .json) (hcuts : style.cuts = false)
    {p : PlainDiagnostic} (hshort : ¬ p.HasLongPosition) :
    ∃ text members, p.diagnostic.render style = .ok text ∧ Json.IsOneLine text.toList ∧
      Json.Form (.object members) text.toList ∧ (members.map Prod.fst).Nodup ∧
      ofText? text = some p ∧
      ∀ q : PlainDiagnostic, q.diagnostic.render style = .ok text → p = q := by
  have hread {q : PlainDiagnostic} {text : String} (h : q.diagnostic.render style = .ok text) :
      ofText? text = some q := by
    by_cases hlong : q.HasLongPosition
    · rw [render_of_hasLongPosition hlayout hcuts hlong] at h
      cases h
    · rw [render_eq_ok hlayout hcuts hlong] at h
      cases h
      exact ofText?_text q
  have htext : (Json.object p.members).text.toList = (Json.object p.members).write :=
    String.toList_ofList
  refine ⟨_, p.members, render_eq_ok hlayout hcuts hshort, ?_, ?_, nodup_keys_members p,
    ofText?_text p, ?_⟩
  · rw [htext]
    exact Json.isOneLine_write p.isProper_members
  · rw [htext]
    exact Json.form_write p.isProper_members
  · intro q hq
    exact Option.some.inj ((ofText?_text p).symm.trans (hread hq))

/-- Quotes, a backslash, a line break and the position zero are kept. -/
theorem ofText?_render_atZero :
    let style : DiagnosticStyle := { layout := .json }
    let p : PlainDiagnostic := {
      code := .optionUnknown, message := "no \"a\\b\"\n", position := some 0 }
    style.layout = .json ∧ style.cuts = false ∧ ¬ p.HasLongPosition ∧
    ∃ text, p.diagnostic.render style = .ok text ∧ ofText? text = some p := by
  intro style p
  have hshort : ¬ p.HasLongPosition := by
    rintro ⟨n, hn, hlong⟩
    cases hn
    exact not_isTooLong_of_lt (k := 1) (by decide) (by decide) hlong
  have hlayout : style.layout = .json := rfl
  obtain ⟨text, -, htext, -, -, -, hread, -⟩ := ofText?_render hlayout rfl hshort
  exact ⟨hlayout, rfl, hshort, text, htext, hread⟩

/-- A position of 4301 digits cannot be written, and the diagnostic has no text. -/
theorem render_longPosition_fails :
    let p : PlainDiagnostic := {
      code := .directiveUnknown
      message := "Pattern contains an unescaped latin alphabet character 'b'"
      position := some (tenTo 4300 : Nat) }
    p.diagnostic.render { layout := .json } = .error .numeralTooLong := by
  intro p
  have hlong : IsTooLong ((tenTo 4300 : Nat) : Int).natAbs := by
    rw [Int.natAbs_natCast, isTooLong_iff]
    exact Nat.le_refl (tenTo digitLimit)
  exact render_of_hasLongPosition rfl rfl ⟨_, rfl, hlong⟩

end PlainDiagnostic

end DatePattern
