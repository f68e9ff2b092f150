import DatePattern.Proofs.Options.Resolution
import Mathlib.Data.List.Forall2
import Mathlib.Data.List.Nodup

/-! Mappings of options by what their keys name. How a key is spelled and where it stands makes no
difference; of two keys for one option the later counts, and of keys that name none the first is
reported. -/
namespace DatePattern

namespace OptionName

/-- The key names the option in one of its two spellings. The ordinal option has none. -/
def IsNamedBy (name : OptionName) (key : Argument) : Prop :=
  name ≠ ordinal ∧ (key = .text name.snake ∨ key = .text name.camel)

theorem ofKey?_eq_some_iff {key : Argument} {name : OptionName} :
    ofKey? key = some name ↔ name.IsNamedBy key := by
  constructor
  · intro h
    unfold ofKey? at h
    split at h
    case h_2 => cases h
    case h_1 s =>
      have hspelled := List.find?_some h
      have hsettable : ∀ n ∈ settable, n ≠ ordinal := by decide
      simp only [Bool.or_eq_true, beq_iff_eq] at hspelled
      refine ⟨hsettable _ (List.mem_of_find?_eq_some h), hspelled.imp ?_ ?_⟩ <;>
      · rintro rfl
        rfl
  · rintro ⟨hname, rfl | rfl⟩
    · cases name <;> first | rfl | exact absurd rfl hname
    · cases name <;> first | rfl | exact absurd rfl hname

theorem ofKey?_eq_none_iff {key : Argument} :
    ofKey? key = none ↔ ∀ name : OptionName, ¬ name.IsNamedBy key := by
  simp only [← ofKey?_eq_some_iff, Option.eq_none_iff_forall_ne_some, ne_eq]

end OptionName

namespace Draft

variable {d e : Draft} {name other : OptionName} {v w : Argument}

theorem eq_of_value (h : ∀ name, d.value name = e.value name) : d = e := by
  cases d
  cases e
  rw [mk.injEq]
  exact ⟨h .additionalDigits, h .weekStartsOn, h .firstWeekContains, h .weekYear, h .dayOfYear,
    h .ordinal⟩

/-- Of two values for one option the later counts. -/
theorem set_set (d : Draft) (name : OptionName) (v w : Argument) :
    (d.set name v).set name w = d.set name w := by
  refine eq_of_value fun other => ?_
  rw [value_set, value_set, value_set]
  split <;> rfl

/-- Different options are set in any order. -/
theorem set_comm (h : name ≠ other) (d : Draft) (v w : Argument) :
    (d.set name v).set other w = (d.set other w).set name v := by
  refine eq_of_value fun third => ?_
  simp only [value_set]
  by_cases hname : third = name
  · rw [if_pos hname, if_pos hname, if_neg (hname ▸ h)]
  · rw [if_neg hname, if_neg hname]

/-- An option with the value that it is to have. -/
abbrev Setting : Type := OptionName × Argument

/-- The draft with settings made one after the other. -/
def setAll (d : Draft) (settings : List Setting) : Draft :=
  settings.foldl (fun d setting => d.set setting.1 setting.2) d

/-- The mapping has a key for each setting, in either spelling, with the setting's value. -/
def Spells (settings : List Setting) (entries : List (Argument × Argument)) : Prop :=
  List.Forall₂ (fun setting entry => setting.1.IsNamedBy entry.1 ∧ entry.2 = setting.2) settings
    entries

section

variable {settings settings' : List Setting} {entries : List (Argument × Argument)}

theorem ofEntries_of_named {key : Argument} (h : name.IsNamedBy key) (d : Draft) (v : Argument)
    (rest : List (Argument × Argument)) :
    d.ofEntries ((key, v) :: rest) = (d.set name v).ofEntries rest := by
  rw [ofEntries, OptionName.ofKey?_eq_some_iff.mpr h]

theorem ofEntries_of_spells (h : Spells settings entries) (d : Draft) :
    d.ofEntries entries = .ok (d.setAll settings) := by
  induction h generalizing d with
  | nil => rfl
  | @cons setting entry settings entries hentry _ ih =>
    obtain ⟨key, value⟩ := entry
    obtain ⟨hname, rfl⟩ := hentry
    rw [ofEntries_of_named hname, ih]
    rfl

theorem value_setAll_of_notMem (h : name ∉ settings.map Prod.fst) (d : Draft) :
    (d.setAll settings).value name = d.value name := by
  induction settings generalizing d with
  | nil => rfl
  | cons setting settings ih =>
    rw [List.map_cons, List.mem_cons, not_or] at h
    change ((d.set setting.1 setting.2).setAll settings).value name = _
    rw [ih h.2, value_set, if_neg h.1]

theorem value_setAll_of_mem (h : (settings.map Prod.fst).Nodup) (hmem : (name, v) ∈ settings)
    (d : Draft) : (d.setAll settings).value name = v := by
  induction settings generalizing d with
  | nil => cases hmem
  | cons setting settings ih =>
    rw [List.map_cons, List.nodup_cons] at h
    change ((d.set setting.1 setting.2).setAll settings).value name = v
    rcases List.mem_cons.mp hmem with rfl | hmem
    · rw [value_setAll_of_notMem h.1, value_set, if_pos rfl]
    · exact ih h.2 hmem _

/-- Settings of different options come to the same draft in any order. -/
theorem setAll_perm (hperm : settings.Perm settings') (h : (settings.map Prod.fst).Nodup)
    (d : Draft) : d.setAll settings = d.setAll settings' := by
  refine hperm.foldl_eq' (fun x hx y hy d => ?_) d
  by_cases hsame : x.1 = y.1
  · rw [List.inj_on_of_nodup_map h hx hy hsame]
  · exact set_comm hsame d x.2 y.2

end

section

variable {key key' : Argument}

/-- A value counts for nothing if a later key names the same option. -/
theorem ofEntries_set_shadowed (hkey' : name.IsNamedBy key') (d : Draft) (v v' : Argument)
    (between after : List (Argument × Argument)) :
    (d.set name v).ofEntries (between ++ (key', v') :: after) =
      d.ofEntries (between ++ (key', v') :: after) := by
  induction between generalizing d with
  | nil =>
    rw [List.nil_append, ofEntries_of_named hkey', ofEntries_of_named hkey', set_set]
  | cons entry between ih =>
    obtain ⟨k, w⟩ := entry
    rw [List.cons_append, ofEntries, ofEntries]
    cases OptionName.ofKey? k with
    | none => rfl
    | some other =>
      by_cases hsame : name = other
      · subst hsame
        exact congrArg (fun d => ofEntries d _) (set_set d name v w)
      · simp only [set_comm hsame, ih]

theorem ofEntries_shadowed (hkey : name.IsNamedBy key) (hkey' : name.IsNamedBy key') (d : Draft)
    (v v' : Argument) (before between after : List (Argument × Argument)) :
    d.ofEntries (before ++ (key, v) :: (between ++ (key', v') :: after)) =
      d.ofEntries (before ++ (between ++ (key', v') :: after)) := by
  induction before generalizing d with
  | nil =>
    rw [List.nil_append, List.nil_append, ofEntries_of_named hkey]
    exact ofEntries_set_shadowed hkey' d v v' between after
  | cons entry before ih =>
    obtain ⟨k, w⟩ := entry
    rw [List.cons_append, List.cons_append, ofEntries, ofEntries]
    cases OptionName.ofKey? k with
    | none => rfl
    | some other => exact ih _

/-- Behind keys that name options, a key that names none is reported. -/
theorem ofEntries_unknown {before : List (Argument × Argument)}
    (hbefore : ∀ entry ∈ before, ∃ name : OptionName, name.IsNamedBy entry.1)
    (hkey : ∀ name : OptionName, ¬ name.IsNamedBy key) (d : Draft) (v : Argument)
    (after : List (Argument × Argument)) :
    d.ofEntries (before ++ (key, v) :: after) = .error (.optionUnknown key) := by
  induction before generalizing d with
  | nil => rw [List.nil_append, ofEntries, OptionName.ofKey?_eq_none_iff.mpr hkey]
  | cons entry before ih =>
    obtain ⟨k, w⟩ := entry
    obtain ⟨⟨name, hname⟩, hrest⟩ := List.forall_mem_cons.mp hbefore
    rw [List.cons_append, ofEntries_of_named hname]
    exact ih hrest _

end

end Draft

namespace Options

variable {entries entries' : List (Argument × Argument)}

/-- The options of a mapping are those of its draft. -/
theorem ofEntries_congr (h : Draft.ofEntries {} entries = Draft.ofEntries {} entries') :
    ofEntries entries = ofEntries entries' := by
  rw [ofEntries, ofEntries, h]

/-- Options are made from a mapping by what its keys name. Mappings with the same settings of different
options, in any order and each key in either spelling, come to the same draft, in which each option
has the value it is set to and all others their own, and to the same options or the same fault. Where
two keys name one option the earlier one with its value makes no difference, whatever that is and
whatever else there is. The first key that names no option is reported with its text, whatever the
values are; the ordinal option's own name is such a key. -/
theorem ofEntries_by_settings :
    (∀ settings settings' entries entries', Draft.Spells settings entries →
      Draft.Spells settings' entries' → settings.Perm settings' → (settings.map Prod.fst).Nodup →
      (∃ d, Draft.ofEntries {} entries = .ok d ∧ Draft.ofEntries {} entries' = .ok d ∧
        (∀ name v, (name, v) ∈ settings → d.value name = v) ∧
        ∀ name, name ∉ settings.map Prod.fst → d.value name = Draft.value {} name) ∧
      ofEntries entries = ofEntries entries') ∧
    (∀ (name : OptionName) key key' v v' before between after, name.IsNamedBy key →
      name.IsNamedBy key' →
      ofEntries (before ++ (key, v) :: (between ++ (key', v') :: after)) =
        ofEntries (before ++ (between ++ (key', v') :: after))) ∧
    (∀ before key v after, (∀ entry ∈ before, ∃ name : OptionName, name.IsNamedBy entry.1) →
      (∀ name : OptionName, ¬ name.IsNamedBy key) →
      ofEntries (before ++ (key, v) :: after) = .error (.optionUnknown key) ∧
      ∀ text, key.display = .ok text → ∃ shown, Fault.optionUnknown key =
        .complaint ⟨.option key, shown, some (.optionUnknown ⟨key, text⟩)⟩) ∧
    ∀ name : OptionName, ¬ name.IsNamedBy (.text "ordinal") := by
  refine ⟨fun settings settings' entries entries' h h' hperm hnodup => ?_, ?_, ?_, ?_⟩
  · have hdraft := Draft.ofEntries_of_spells h {}
    have hdraft' := Draft.ofEntries_of_spells h' {}
    rw [← Draft.setAll_perm hperm hnodup] at hdraft'
    refine ⟨⟨_, hdraft, hdraft', fun name v hmem => ?_, fun name hmem => ?_⟩, ?_⟩
    · exact Draft.value_setAll_of_mem hnodup hmem {}
    · exact Draft.value_setAll_of_notMem hmem {}
    · exact ofEntries_congr (hdraft.trans hdraft'.symm)
  · intro name key key' v v' before between after hkey hkey'
    exact ofEntries_congr (Draft.ofEntries_shadowed hkey hkey' {} v v' before between after)
  · intro before key v after hbefore hkey
    refine ⟨?_, fun text htext => Fault.exists_optionUnknown htext⟩
    rw [ofEntries, Draft.ofEntries_unknown hbefore hkey]
    rfl
  · exact OptionName.ofKey?_eq_none_iff.mp (by decide)

/-- Two options out of range are reported by the first in the order of the checks, however they are
spelled and wherever they stand. A value out of range is not looked at if its option is set again. -/
theorem ofEntries_by_settings_twoFaults :
    let weekday : Argument × Argument := (.text "week_starts_on", .int 9)
    let spelled := [weekday, (.text "additionalDigits", .int 7)]
    let renamed : List (Argument × Argument) :=
      [(.text "additional_digits", .int 7), (.text "weekStartsOn", .int 9)]
    ofEntries spelled = ofEntries renamed ∧
    ofEntries renamed = .error (digitCountFault (.int 7)) ∧
    ofEntries [weekday, (.text "weekStartsOn", .int 1)] =
      ofEntries [(.text "weekStartsOn", .int 1)] ∧
    (ofEntries [(.text "weekStartsOn", .int 1)]).isOk = true ∧
    ofEntries [weekday, (.text "ordinal", .flag true), (.text "", .absent)] =
      .error (.optionUnknown (.text "ordinal")) := by
  intro weekday spelled renamed
  obtain ⟨hspelling, hshadowed, hunknown, hordinal⟩ := ofEntries_by_settings
  let settings : List Draft.Setting := [(.weekStartsOn, .int 9), (.additionalDigits, .int 7)]
  let permuted : List Draft.Setting := [(.additionalDigits, .int 7), (.weekStartsOn, .int 9)]
  have hstarts (key : Argument) (hkey : key = .text "week_starts_on" ∨ key = .text "weekStartsOn") :
      OptionName.weekStartsOn.IsNamedBy key := ⟨by decide, hkey⟩
  have hspelled : Draft.Spells settings spelled :=
    .cons ⟨hstarts _ (.inl rfl), rfl⟩ (.cons ⟨⟨by decide, .inr rfl⟩, rfl⟩ .nil)
  have hrenamed : Draft.Spells permuted renamed :=
    .cons ⟨⟨by decide, .inl rfl⟩, rfl⟩ (.cons ⟨hstarts _ (.inr rfl), rfl⟩ .nil)
  have hbefore : ∀ entry ∈ [weekday], ∃ name : OptionName, name.IsNamedBy entry.1 :=
    List.forall_mem_singleton.mpr ⟨_, hstarts _ (.inl rfl)⟩
  refine ⟨?_, rfl, ?_, rfl, ?_⟩
  · exact (hspelling settings permuted spelled renamed hspelled hrenamed (.swap _ _ _)
      (by decide)).2
  · exact hshadowed .weekStartsOn _ _ (.int 9) (.int 1) [] [] [] (hstarts _ (.inl rfl))
      (hstarts _ (.inr rfl))
  · exact (hunknown [weekday] (.text "ordinal") (.flag true) [(.text "", .absent)] hbefore
      hordinal).1

end Options

end DatePattern
