import DatePattern.Pattern.Session
import DatePattern.Proofs.Locale.RecentUse
import DatePattern.Proofs.Pattern.Rendering

/-! The store of locale contexts does not show: a creation finds the locale that it would find in an
empty store. Strict creation finds the same one, or refuses the code where there is none. -/
namespace DatePattern

namespace LocaleContext

variable {registry : LocaleRegistry} {code code' : String} {locale : Locale} {f : LocaleFault}

theorem lenient_of_found (h : registry.find (normalizeCode code) = .ok locale) :
    lenient code registry = ⟨code, locale, false⟩ := by
  rw [lenient, h]

theorem code_lenient (code : String) (registry : LocaleRegistry) :
    (lenient code registry).code = code := by
  rw [lenient]
  split <;> rfl

/-- Spellings of one code have the same locale. -/
theorem lenient_congr (registry : LocaleRegistry) (same : normalizeCode code = normalizeCode code') :
    (lenient code registry).locale = (lenient code' registry).locale ∧
      (lenient code registry).isFallback = (lenient code' registry).isFallback := by
  rw [lenient, lenient, same]
  cases registry.find (normalizeCode code') <;> exact ⟨rfl, rfl⟩

end LocaleContext

namespace LocaleStore

variable {s : LocaleStore} {registry : LocaleRegistry} {code : String} {locale : Locale}
  {f : LocaleFault}

/-- Each context that is held is the one that some spelling of its code has without a store. -/
def IsFaithful (s : LocaleStore) (registry : LocaleRegistry) : Prop :=
  ∀ e ∈ s.entries, ∃ spelling, normalizeCode spelling = e.1 ∧
    e.2.context = .lenient spelling registry

theorem IsFaithful.create (h : s.IsFaithful registry) (code : String) :
    ∃ spelling, normalizeCode spelling = normalizeCode code ∧
      (s.create code registry).1.context = .lenient spelling registry := by
  obtain ⟨entry, held, he⟩ | ⟨-, he⟩ := s.create_cases code registry
  · rw [he]
    exact h _ held
  · exact ⟨code, rfl, by rw [he]⟩

theorem IsFaithful.after (h : s.IsFaithful registry) (call : StoreCall) :
    (s.after call registry).IsFaithful registry := by
  intro e he
  obtain old | ⟨code, -, rfl⟩ := mem_entries_of_after he
  · exact h e old
  · exact h.create code

theorem isFaithful_run (calls : List StoreCall) (registry : LocaleRegistry) :
    (run calls registry).IsFaithful registry := by
  induction calls using List.reverseRecOn with
  | nil => exact fun e he => absurd he List.not_mem_nil
  | append_singleton calls call ih =>
    rw [run_concat]
    exact ih.after call

/-- Behind any calls a creation gives what it would give without a store, but for the spelling of the
code. -/
theorem context_create_run (calls : List StoreCall) (code : String) (registry : LocaleRegistry) :
    let made := ((run calls registry).create code registry).1.context
    made.locale = (LocaleContext.lenient code registry).locale ∧
      made.isFallback = (LocaleContext.lenient code registry).isFallback ∧
      normalizeCode made.code = normalizeCode code := by
  intro made
  obtain ⟨spelling, same, hmade⟩ := (isFaithful_run calls registry).create code
  obtain ⟨hlocale, hfallback⟩ := LocaleContext.lenient_congr registry same
  have hmade : made = .lenient spelling registry := hmade
  rw [hmade, LocaleContext.code_lenient]
  exact ⟨hlocale, hfallback, same⟩

theorem createWarning?_of_found (h : registry.find (normalizeCode code) = .ok locale) :
    s.createWarning? code registry = none := by
  rw [createWarning?]
  split
  · rfl
  · rw [LocaleContext.warning?, h]

end LocaleStore

namespace Run

theorem run_warn (text : Option String) (s : Session) :
    (warn text).run.run s =
      (.ok (), { s with notes := (text.map Note.warning).toList ++ s.notes }) := by
  cases text <;> rfl

/-- A creation leaves the store behind it, and the warning that goes with it. -/
theorem run_createContext (code : String) (registry : LocaleRegistry) (s : Session) :
    (createContext code registry).run.run s =
      (.ok (s.store.create code registry).1,
        { s with
          store := (s.store.create code registry).2
          notes := ((s.store.createWarning? code registry).map Note.warning).toList ++
            s.notes }) := by
  change (warn (s.store.createWarning? code registry) >>= fun _ => _).run.run s = _
  rw [run_bind, run_warn]
  rfl

end Run

namespace LocaleStore

end LocaleStore

end DatePattern
