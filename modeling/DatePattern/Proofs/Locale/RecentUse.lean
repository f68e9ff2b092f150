import DatePattern.Locale.Store
import Mathlib.Data.List.Dedup
import Mathlib.Data.List.DropRight
import Mathlib.Data.List.Lattice

/-! The store of locale contexts over whole runs: it holds what was used most recently, and a
context stays the same one as long as it is held. -/
namespace DatePattern

section

variable {α : Type} {n : Nat} {before behind items : List α}

theorem rtake_of_length_le (h : items.length ≤ n) : items.rtake n = items := by
  rw [List.rtake, Nat.sub_eq_zero_of_le h, List.drop_zero]

theorem length_rtake_le (items : List α) (n : Nat) : (items.rtake n).length ≤ n := by
  rw [List.rtake, List.length_drop]
  omega

theorem rtake_append_of_le (h : n ≤ behind.length) :
    (before ++ behind).rtake n = behind.rtake n := by
  rw [List.rtake, List.rtake, List.length_append, List.drop_append,
    List.drop_eq_nil_of_le (by omega), List.nil_append]
  congr 1
  omega

theorem suffix_rtake (h : behind.length ≤ n) : behind <:+ (before ++ behind).rtake n := by
  rw [List.rtake, List.length_append, List.drop_append_of_le_length (by omega)]
  exact List.suffix_append _ _

variable [DecidableEq α]

/-- Whether an item is still among the last distinct ones depends on those that came behind it. -/
theorem mem_rtake_dedup_iff {k : α} (h : k ∉ behind) :
    k ∈ (before ++ k :: behind).dedup.rtake n ↔ behind.dedup.length < n := by
  obtain ⟨older, parts⟩ : (k :: behind).dedup <:+ (before ++ k :: behind).dedup := by
    rw [List.dedup_append]
    exact List.suffix_union_right _ _
  rw [List.dedup_cons_of_notMem h] at parts
  rw [← parts]
  constructor
  · intro held
    by_contra! full
    rw [List.append_cons, rtake_append_of_le full] at held
    exact h (List.mem_dedup.mp (List.mem_of_mem_drop held))
  · intro room
    exact (suffix_rtake room).subset List.mem_cons_self

/-- The items after a use of one of them, or of a new one: it is the last. -/
def moveLast (items : List α) (k : α) : List α :=
  (items.filter fun x => decide (x ≠ k)) ++ [k]

theorem moveLast_of_notMem {k : α} (h : k ∉ items) : moveLast items k = items ++ [k] := by
  rw [moveLast, List.filter_eq_self.mpr]
  intro x hx
  exact decide_eq_true fun hk => h (hk ▸ hx)

theorem nodup_moveLast (h : items.Nodup) (k : α) : (moveLast items k).Nodup := by
  rw [moveLast, List.nodup_append]
  simp [h.filter]

theorem length_filter_ne (h : items.Nodup) (k : α) :
    (items.filter fun x => decide (x ≠ k)).length = (items.erase k).length := by
  rw [h.erase_eq_filter]
  congr 2
  funext x
  rw [bne, beq_eq_decide, decide_not]

theorem length_moveLast_of_mem {k : α} (h : items.Nodup) (hk : k ∈ items) :
    (moveLast items k).length = items.length := by
  have := List.length_pos_of_mem hk
  rw [moveLast, List.length_append, length_filter_ne h, List.length_erase_of_mem hk]
  simp only [List.length_singleton]
  omega

theorem length_le_moveLast (h : items.Nodup) (k : α) :
    items.length ≤ (moveLast items k).length := by
  rw [moveLast, List.length_append, length_filter_ne h, List.length_erase]
  simp only [List.length_singleton]
  split <;> omega

theorem dedup_concat (items : List α) (k : α) :
    (items ++ [k]).dedup = moveLast items.dedup k := by
  induction items with
  | nil => rfl
  | cons x items ih =>
    rw [moveLast] at ih ⊢
    by_cases hx : x ∈ items
    · rw [List.cons_append, List.dedup_cons_of_mem (List.mem_append_left _ hx), ih,
        List.dedup_cons_of_mem hx]
    · by_cases hk : x = k
      · rw [List.cons_append, List.dedup_cons_of_mem (by simp [hk]), ih,
          List.dedup_cons_of_notMem hx, List.filter_cons_of_neg (by simp [hk])]
      · rw [List.cons_append, List.dedup_cons_of_notMem (by simp [hx, hk]), ih,
          List.dedup_cons_of_notMem hx, List.filter_cons_of_pos (by simp [hk]), List.cons_append]

/-- What is dropped before a use would be dropped after it as well. -/
theorem rtake_moveLast (h : items.Nodup) (k : α) (n : Nat) :
    (moveLast (items.rtake n) k).rtake n = (moveLast items k).rtake n := by
  by_cases hn : items.length ≤ n
  · rw [rtake_of_length_le hn]
  · -- the part that is kept has `n` items, and a use leaves at least as many
    have parts : items = items.take (items.length - n) ++ items.rtake n :=
      (List.take_append_drop _ _).symm
    have kept : n ≤ (moveLast (items.rtake n) k).length := by
      have := length_le_moveLast (h.sublist (List.drop_sublist (items.length - n) items)) k
      rw [List.length_drop] at this
      rw [List.rtake]
      omega
    conv_rhs => rw [parts]
    rw [moveLast, moveLast, List.filter_append, List.append_assoc]
    exact (rtake_append_of_le kept).symm

end

/-- A call that may change the store. -/
inductive StoreCall
  | create (code : String)
  | createStrict (code : String)
  | clear
deriving DecidableEq, Repr

/-- The normalized code that a call uses. Strict creation uses none. -/
def StoreCall.key? : StoreCall → Option String
  | create code => some (normalizeCode code)
  | _ => none

namespace LocaleStore

def after (s : LocaleStore) (call : StoreCall) (registry : LocaleRegistry := .known) :
    LocaleStore :=
  match call with
  | .create code => (s.create code registry).2
  | .createStrict code =>
    match s.createStrict code registry with
    | .ok (_, t) => t
    | .error _ => s
  | .clear => s.clear

/-- The store behind calls that begin with it. -/
def afterAll (s : LocaleStore) (calls : List StoreCall) (registry : LocaleRegistry := .known) :
    LocaleStore :=
  calls.foldl (fun s call => s.after call registry) s

/-- The store behind calls that begin with an empty one. -/
def run (calls : List StoreCall) (registry : LocaleRegistry := .known) : LocaleStore :=
  empty.afterAll calls registry

/-- The codes that were used behind the last clearing, in order and with repetition. -/
def usedSinceClear (calls : List StoreCall) : List String :=
  (calls.rtakeWhile fun call => decide (call ≠ .clear)).filterMap StoreCall.key?

/-- The distinct ones among codes that were used last, up to the capacity, each at the place of its
last use. -/
def recent (used : List String) : List String := used.dedup.rtake capacity

variable {registry : LocaleRegistry} {s : LocaleStore} {code key : String} {call : StoreCall}
  {entry : MadeContext} {n : Nat} {calls before between gap : List StoreCall}

theorem afterAll_cons (s : LocaleStore) (call : StoreCall) (calls : List StoreCall)
    (registry : LocaleRegistry) :
    s.afterAll (call :: calls) registry = (s.after call registry).afterAll calls registry := rfl

theorem run_append (calls between : List StoreCall) (registry : LocaleRegistry) :
    run (calls ++ between) registry = (run calls registry).afterAll between registry :=
  List.foldl_append

theorem run_concat (calls : List StoreCall) (call : StoreCall) (registry : LocaleRegistry) :
    run (calls ++ [call]) registry = (run calls registry).after call registry :=
  run_append calls [call] registry

theorem find?_eq_none_iff : s.find? key = none ↔ key ∉ s.codes := by
  rw [find?, List.lookup_eq_none_iff, codes]
  constructor
  · rintro h hk
    obtain ⟨e, he, rfl⟩ := List.mem_map.mp hk
    simpa using h e he
  · intro h e he
    have : key ≠ e.1 := fun hk => h (List.mem_map.mpr ⟨e, he, hk.symm⟩)
    simpa using this

theorem mem_entries_of_find? (h : s.find? key = some entry) : (key, entry) ∈ s.entries := by
  rw [find?, List.lookup_eq_some_iff] at h
  obtain ⟨_, _, he, -⟩ := h
  simp [he]

/-- What a creation may do: it uses the entry of the code, or it makes one. -/
theorem create_cases (s : LocaleStore) (code : String) (registry : LocaleRegistry) :
    (∃ entry, (normalizeCode code, entry) ∈ s.entries ∧
      s.create code registry = (entry, s.touch (normalizeCode code) entry)) ∨
    (normalizeCode code ∉ s.codes ∧
      s.create code registry =
        (⟨s.made, .lenient code registry⟩,
          s.insert (normalizeCode code) (.lenient code registry))) := by
  cases h : s.find? (normalizeCode code) with
  | some entry => exact .inl ⟨entry, mem_entries_of_find? h, by rw [create, h]⟩
  | none => exact .inr ⟨find?_eq_none_iff.mp h, by rw [create, h]⟩

theorem entries_after_strict (s : LocaleStore) (code : String) (registry : LocaleRegistry) :
    (s.after (.createStrict code) registry).entries = s.entries := by
  rw [after, createStrict]
  cases LocaleContext.ofCode code registry <;> rfl

theorem codes_touch (s : LocaleStore) (key : String) (entry : MadeContext) :
    (s.touch key entry).codes = moveLast s.codes key := by
  rw [codes, touch, moveLast, codes, List.map_append, List.filter_map]
  congr 3
  funext e
  simp [bne, Bool.beq_eq_decide_eq]

theorem codes_insert (h : s.size ≤ capacity) (key : String) (context : LocaleContext) :
    (s.insert key context).codes = (s.codes ++ [key]).rtake capacity := by
  have hs : s.codes.length = s.size := List.length_map _
  have pos : 0 < capacity := by decide
  rw [codes, insert, List.map_append, List.rtake, List.length_append, hs, List.length_singleton]
  split
  case isTrue full =>
    have one : s.size + 1 - capacity = 1 := by omega
    rw [one, List.drop_append_of_le_length (by omega), List.map_drop]
    rfl
  case isFalse room =>
    have none : s.size + 1 - capacity = 0 := by omega
    rw [none, List.drop_zero]
    rfl

/-- What a store satisfies in every run. -/
structure IsSound (s : LocaleStore) : Prop where
  nodup : s.codes.Nodup
  size_le : s.size ≤ capacity
  serial_lt : ∀ e ∈ s.entries, e.2.serial < s.made

theorem IsSound.codes_create (h : s.IsSound) (code : String) (registry : LocaleRegistry) :
    (s.create code registry).2.codes =
      (moveLast s.codes (normalizeCode code)).rtake capacity := by
  obtain ⟨entry, held, he⟩ | ⟨fresh, he⟩ := s.create_cases code registry
  · have hk : normalizeCode code ∈ s.codes := List.mem_map_of_mem held
    have hs : s.codes.length = s.size := List.length_map _
    rw [he, codes_touch, rtake_of_length_le]
    rw [length_moveLast_of_mem h.nodup hk, hs]
    exact h.size_le
  · rw [he, codes_insert h.size_le, moveLast_of_notMem fresh]

/-- An entry behind a call was one before it, or the call is the creation that uses it. -/
theorem mem_entries_of_after {e : String × MadeContext}
    (h : e ∈ (s.after call registry).entries) :
    e ∈ s.entries ∨
      ∃ code, call = .create code ∧ e = (normalizeCode code, (s.create code registry).1) := by
  cases call with
  | clear => exact absurd h List.not_mem_nil
  | createStrict code => exact .inl (entries_after_strict s code registry ▸ h)
  | create code =>
    rw [after] at h
    obtain ⟨entry, -, he⟩ | ⟨-, he⟩ := s.create_cases code registry
    · rw [he] at h
      rcases List.mem_append.mp h with h | h
      · exact .inl (List.mem_of_mem_filter h)
      · exact .inr ⟨code, rfl, he ▸ List.mem_singleton.mp h⟩
    · rw [he] at h
      rcases List.mem_append.mp h with h | h
      · left
        split at h
        · exact List.mem_of_mem_drop h
        · exact h
      · exact .inr ⟨code, rfl, he ▸ List.mem_singleton.mp h⟩

theorem made_le_after (s : LocaleStore) (call : StoreCall) (registry : LocaleRegistry) :
    s.made ≤ (s.after call registry).made := by
  cases call with
  | clear => exact Nat.le_refl _
  | createStrict code =>
    rw [after, createStrict]
    cases LocaleContext.ofCode code registry with
    | ok context => exact Nat.le_succ _
    | error _ => exact Nat.le_refl _
  | create code =>
    rw [after]
    obtain ⟨entry, -, he⟩ | ⟨-, he⟩ := s.create_cases code registry
    · exact he ▸ Nat.le_refl _
    · exact he ▸ Nat.le_succ _

theorem made_le_afterAll (s : LocaleStore) (calls : List StoreCall) (registry : LocaleRegistry) :
    s.made ≤ (s.afterAll calls registry).made := by
  induction calls generalizing s with
  | nil => exact Nat.le_refl _
  | cons call calls ih => exact (s.made_le_after call registry).trans (ih _)

theorem mem_entries_create (s : LocaleStore) (code : String) (registry : LocaleRegistry) :
    (normalizeCode code, (s.create code registry).1) ∈ (s.create code registry).2.entries := by
  obtain ⟨entry, -, he⟩ | ⟨-, he⟩ := s.create_cases code registry
  · rw [he]
    exact List.mem_append_right _ List.mem_cons_self
  · rw [he]
    exact List.mem_append_right _ List.mem_cons_self

theorem serial_create_of_notMem (h : normalizeCode code ∉ s.codes) :
    (s.create code registry).1.serial = s.made := by
  obtain ⟨entry, held, -⟩ | ⟨-, he⟩ := s.create_cases code registry
  · exact absurd (List.mem_map_of_mem held) h
  · rw [he]

theorem IsSound.entry_unique (h : s.IsSound) {other : MadeContext} (he : (key, entry) ∈ s.entries)
    (ho : (key, other) ∈ s.entries) : entry = other :=
  congrArg Prod.snd (List.inj_on_of_nodup_map h.nodup he ho rfl)

theorem IsSound.create_of_mem (h : s.IsSound) (he : (normalizeCode code, entry) ∈ s.entries) :
    (s.create code registry).1 = entry := by
  obtain ⟨other, held, hc⟩ | ⟨fresh, -⟩ := s.create_cases code registry
  · rw [hc]
    exact h.entry_unique held he
  · exact absurd (List.mem_map_of_mem he) fresh

theorem IsSound.serial_create_lt (h : s.IsSound) (code : String) (registry : LocaleRegistry) :
    (s.create code registry).1.serial < (s.create code registry).2.made := by
  obtain ⟨entry, held, he⟩ | ⟨-, he⟩ := s.create_cases code registry
  · rw [he]
    exact h.serial_lt _ held
  · rw [he]
    exact Nat.lt_succ_self _

theorem isSound_empty : empty.IsSound :=
  ⟨List.nodup_nil, Nat.zero_le _, fun _ he => absurd he List.not_mem_nil⟩

theorem IsSound.after (h : s.IsSound) (call : StoreCall) (registry : LocaleRegistry) :
    (s.after call registry).IsSound := by
  have lt : ∀ e ∈ (s.after call registry).entries, e.2.serial < (s.after call registry).made := by
    intro e he
    obtain old | ⟨code, rfl, rfl⟩ := mem_entries_of_after he
    · exact (h.serial_lt e old).trans_le (s.made_le_after call registry)
    · exact h.serial_create_lt code registry
  cases call with
  | clear => exact ⟨List.nodup_nil, Nat.zero_le _, lt⟩
  | createStrict code =>
    have he := s.entries_after_strict code registry
    refine ⟨?_, ?_, lt⟩
    · rw [codes, he]
      exact h.nodup
    · rw [size, he]
      exact h.size_le
  | create code =>
    have hc := h.codes_create code registry
    refine ⟨?_, ?_, lt⟩
    · rw [LocaleStore.after, hc]
      exact (nodup_moveLast h.nodup _).sublist (List.drop_sublist _ _)
    · have hl := congrArg List.length hc
      rw [codes, List.length_map] at hl
      rw [LocaleStore.after, size, hl]
      exact length_rtake_le _ _

theorem isSound_run (calls : List StoreCall) (registry : LocaleRegistry) :
    (run calls registry).IsSound := by
  induction calls using List.reverseRecOn with
  | nil => exact isSound_empty
  | append_singleton calls call ih =>
    rw [run_concat]
    exact ih.after call registry

theorem usedSinceClear_clear (calls : List StoreCall) :
    usedSinceClear (calls ++ [.clear]) = [] := by
  rw [usedSinceClear, List.rtakeWhile_concat, if_neg (by simp), List.filterMap_nil]

theorem usedSinceClear_concat (h : call ≠ .clear) (calls : List StoreCall) :
    usedSinceClear (calls ++ [call]) = usedSinceClear calls ++ call.key?.toList := by
  rw [usedSinceClear, List.rtakeWhile_concat, if_pos (by simpa using h), List.filterMap_append,
    usedSinceClear]
  cases call <;> rfl

theorem recent_concat (used : List String) (key : String) :
    recent (used ++ [key]) = (moveLast (recent used) key).rtake capacity := by
  rw [recent, dedup_concat, recent, rtake_moveLast used.nodup_dedup]

/-- The store holds what was used last. -/
theorem codes_run (calls : List StoreCall) (registry : LocaleRegistry) :
    (run calls registry).codes = recent (usedSinceClear calls) := by
  induction calls using List.reverseRecOn with
  | nil => rfl
  | append_singleton calls call ih =>
    rw [run_concat]
    cases call with
    | clear =>
      rw [usedSinceClear_clear]
      rfl
    | createStrict code =>
      rw [usedSinceClear_concat (by simp), codes, entries_after_strict, ← codes, ih]
      exact congrArg recent (List.append_nil _).symm
    | create code =>
      rw [usedSinceClear_concat (by simp), after,
        (isSound_run calls registry).codes_create, ih]
      exact (recent_concat _ _).symm

example : (run [.create "en-US", .create "fr-FR", .create "en_US"]).codes = ["fr_FR", "en_US"] := by
  decide

theorem usedSinceClear_append_of_mem (h : .clear ∈ gap) (calls : List StoreCall) :
    usedSinceClear (calls ++ gap) = usedSinceClear gap := by
  induction gap using List.reverseRecOn with
  | nil => exact absurd h List.not_mem_nil
  | append_singleton gap call ih =>
    rw [← List.append_assoc]
    by_cases hc : call = .clear
    · rw [hc, usedSinceClear_clear, usedSinceClear_clear]
    · have inside : .clear ∈ gap := by simpa [Ne.symm hc] using h
      rw [usedSinceClear_concat hc, usedSinceClear_concat hc, ih inside]

theorem usedSinceClear_append_of_notMem (h : .clear ∉ gap) (calls : List StoreCall) :
    usedSinceClear (calls ++ gap) = usedSinceClear calls ++ gap.filterMap StoreCall.key? := by
  induction gap using List.reverseRecOn with
  | nil => simp
  | append_singleton gap call ih =>
    obtain ⟨inside, hc⟩ : .clear ∉ gap ∧ call ≠ .clear := by simpa [eq_comm] using h
    rw [← List.append_assoc, usedSinceClear_concat hc, ih inside, List.append_assoc,
      List.filterMap_append]
    cases call <;> rfl

/-- The distinct codes that calls use. -/
def distinctCodes (calls : List StoreCall) : List String := (calls.filterMap StoreCall.key?).dedup

/-- The stretches of calls before, between and behind those that use a code. -/
def gaps (key : String) (calls : List StoreCall) : List (List StoreCall) :=
  calls.splitOnP fun call => decide (call.key? = some key)

/-- A code is still held when the calls behind its creation neither clear the store nor use as many
other codes as it holds. -/
theorem mem_codes_gap_iff (unused : ∀ call ∈ gap, call.key? ≠ some (normalizeCode code))
    (before : List StoreCall) (registry : LocaleRegistry) :
    normalizeCode code ∈ (run (before ++ .create code :: gap) registry).codes ↔
      .clear ∉ gap ∧ (distinctCodes gap).length < capacity := by
  have unusedKey : normalizeCode code ∉ gap.filterMap StoreCall.key? := by
    intro h
    obtain ⟨call, hc, hk⟩ := List.mem_filterMap.mp h
    exact unused call hc hk
  rw [codes_run, recent]
  by_cases cleared : .clear ∈ gap
  · have lost : normalizeCode code ∉ usedSinceClear gap := by
      intro h
      obtain ⟨call, hc, hk⟩ := List.mem_filterMap.mp h
      exact unused call ((List.rtakeWhile_suffix _ _).subset hc) hk
    rw [List.append_cons, usedSinceClear_append_of_mem cleared]
    constructor
    · intro h
      exact absurd (List.mem_dedup.mp (List.mem_of_mem_drop h)) lost
    · rintro ⟨h, -⟩
      exact absurd cleared h
  · have kept : .clear ∉ StoreCall.create code :: gap := by simpa using cleared
    rw [usedSinceClear_append_of_notMem kept,
      List.filterMap_cons_some (show StoreCall.key? _ = some _ from rfl),
      mem_rtake_dedup_iff unusedKey, distinctCodes, and_iff_right cleared]

/-- Calls that do not use a code bring no entry of it. -/
theorem mem_entries_of_gap (unused : ∀ call ∈ gap, call.key? ≠ some key)
    (h : (key, entry) ∈ (s.afterAll gap registry).entries) : (key, entry) ∈ s.entries := by
  induction gap generalizing s with
  | nil => exact h
  | cons call gap ih =>
    obtain old | ⟨code, rfl, he⟩ :=
      mem_entries_of_after (ih (fun c hc => unused c (List.mem_cons_of_mem _ hc)) h)
    · exact old
    · exact absurd (congrArg some (congrArg Prod.fst he).symm) (unused _ List.mem_cons_self)

/-- No context of a code that is held, or will be made, has a number below a bound. -/
structure IsSince (s : LocaleStore) (key : String) (n : Nat) : Prop where
  le_made : n ≤ s.made
  le_serial : ∀ entry, (key, entry) ∈ s.entries → n ≤ entry.serial

theorem IsSince.le_create (h : s.IsSince (normalizeCode code) n) :
    n ≤ (s.create code registry).1.serial := by
  obtain ⟨entry, held, he⟩ | ⟨-, he⟩ := s.create_cases code registry
  · rw [he]
    exact h.le_serial entry held
  · rw [he]
    exact h.le_made

theorem IsSince.after (h : s.IsSince key n) (call : StoreCall) (registry : LocaleRegistry) :
    (s.after call registry).IsSince key n where
  le_made := h.le_made.trans (s.made_le_after call registry)
  le_serial := by
    intro entry he
    obtain old | ⟨code, rfl, hc⟩ := mem_entries_of_after he
    · exact h.le_serial entry old
    · obtain ⟨rfl, rfl⟩ := Prod.mk.inj hc
      exact h.le_create

theorem IsSince.afterAll (h : s.IsSince key n) (calls : List StoreCall)
    (registry : LocaleRegistry) : (s.afterAll calls registry).IsSince key n := by
  induction calls generalizing s with
  | nil => exact h
  | cons call calls ih => exact ih (h.after call registry)

theorem IsSound.isSince_create (h : s.IsSound) (code : String) (registry : LocaleRegistry) :
    (s.create code registry).2.IsSince (normalizeCode code)
      (s.create code registry).1.serial where
  le_made := (h.serial_create_lt code registry).le
  le_serial := by
    intro entry he
    rw [(h.after (.create code) registry).entry_unique he (s.mem_entries_create code registry)]

/-- A later context of a code is no older one. -/
theorem serial_create_mono {code' : String} (same : normalizeCode code' = normalizeCode code)
    (before between : List StoreCall) (registry : LocaleRegistry) :
    ((run before registry).create code registry).1.serial ≤
      ((run (before ++ .create code :: between) registry).create code' registry).1.serial := by
  have since := ((isSound_run before registry).isSince_create code registry).afterAll between registry
  rw [run_append, afterAll_cons]
  exact IsSince.le_create (same ▸ since)

/-- Two creations of a code with none between them give the same context exactly when the code is
held all along. -/
theorem serial_create_gap_iff {code' : String} (same : normalizeCode code' = normalizeCode code)
    (unused : ∀ call ∈ gap, call.key? ≠ some (normalizeCode code)) (before : List StoreCall)
    (registry : LocaleRegistry) :
    ((run (before ++ .create code :: gap) registry).create code' registry).1.serial =
        ((run before registry).create code registry).1.serial ↔
      .clear ∉ gap ∧ (distinctCodes gap).length < capacity := by
  rw [← mem_codes_gap_iff unused before registry]
  have sound := isSound_run before registry
  have later : run (before ++ .create code :: gap) registry =
      ((run before registry).create code registry).2.afterAll gap registry := by
    rw [run_append, afterAll_cons, after]
  constructor
  · intro h
    by_contra lost
    rw [← same] at lost
    -- a context made anew has a number that none had when the first one was used
    have older := (sound.serial_create_lt code registry).trans_le
      (made_le_afterAll _ gap registry)
    rw [← h, serial_create_of_notMem lost, later] at older
    exact Nat.lt_irrefl _ older
  · intro held
    obtain ⟨⟨_, entry⟩, he, rfl⟩ := List.mem_map.mp held
    have first : entry = ((run before registry).create code registry).1 :=
      (sound.after (.create code) registry).entry_unique
        (mem_entries_of_gap unused (later ▸ he)) (mem_entries_create _ code registry)
    rw [← first, (isSound_run _ registry).create_of_mem (same ▸ he)]

theorem gaps_of_unused (unused : ∀ call ∈ gap, call.key? ≠ some key) : gaps key gap = [gap] := by
  rw [gaps, List.splitOnP_eq_singleton]
  simpa using unused

theorem gaps_append_cons (unused : ∀ call ∈ gap, call.key? ≠ some key)
    (used : call.key? = some key) (calls : List StoreCall) :
    gaps key (gap ++ call :: calls) = gap :: gaps key calls := by
  rw [gaps, List.splitOnP_append_cons_of_forall_mem (by simpa using unused) _ (by simpa using used)]
  rfl

theorem exists_first_use (key : String) (calls : List StoreCall) :
    (∀ call ∈ calls, call.key? ≠ some key) ∨
      ∃ gap code later, calls = gap ++ .create code :: later ∧ normalizeCode code = key ∧
        ∀ call ∈ gap, call.key? ≠ some key := by
  cases h : calls.find? fun call => decide (call.key? = some key) with
  | none =>
    left
    simpa using h
  | some call =>
    obtain ⟨used, gap, later, parts, unused⟩ := List.find?_eq_some_iff_append.mp h
    cases call with
    | create code =>
      exact .inr ⟨gap, code, later, parts, Option.some.inj (of_decide_eq_true used),
        by simpa using unused⟩
    | createStrict _ => exact absurd used (by simp [StoreCall.key?])
    | clear => exact absurd used (by simp [StoreCall.key?])

/-- Two creations of a code give the same context exactly when it is held from each creation of the
code to the next one. -/
theorem serial_create_iff {code code' : String} (same : normalizeCode code' = normalizeCode code)
    (before between : List StoreCall) (registry : LocaleRegistry) :
    ((run (before ++ .create code :: between) registry).create code' registry).1.serial =
        ((run before registry).create code registry).1.serial ↔
      .clear ∉ between ∧
        ∀ gap ∈ gaps (normalizeCode code) between, (distinctCodes gap).length < capacity := by
  obtain unused | ⟨gap, middle, later, parts, hm, unused⟩ :=
    exists_first_use (normalizeCode code) between
  · rw [serial_create_gap_iff same unused, gaps_of_unused unused, List.forall_mem_singleton]
  · have shorter : later.length < between.length := by
      rw [parts, List.length_append, List.length_cons]
      omega
    have used : (StoreCall.create middle).key? = some (normalizeCode code) := congrArg some hm
    have split := gaps_append_cons unused used later
    have first := serial_create_gap_iff hm unused before registry
    have rest :=
      serial_create_iff (same.trans hm.symm) (before ++ .create code :: gap) later registry
    have noOlder := serial_create_mono hm before gap registry
    have noOlder' :=
      serial_create_mono (same.trans hm.symm) (before ++ .create code :: gap) later registry
    rw [hm] at rest
    rw [List.append_assoc, List.cons_append] at rest noOlder'
    -- numbers never fall, so the last is the first only when the one between them is, too
    have through : ∀ {a b c : Nat}, a ≤ b → b ≤ c → (c = a ↔ b = a ∧ c = b) := by omega
    have uncleared : .clear ∉ gap ++ .create middle :: later ↔ .clear ∉ gap ∧ .clear ∉ later := by
      simp
    rw [parts, through noOlder noOlder', first, rest, split, List.forall_mem_cons, uncleared]
    exact and_and_and_comm
termination_by between.length

/-- What a store holds behind any calls, wherever locales are found: the last distinct codes that
were used, up to the capacity. Two creations of a code give the same context exactly when nothing
clears the store between them, and no more than 127 other codes are used between each creation of the
code and the next. Strict creation leaves the store as it is. -/
theorem run_recentUse (registry : LocaleRegistry) :
    (∀ calls, (run calls registry).codes = (usedSinceClear calls).dedup.rtake 128 ∧
      (run calls registry).size = (run calls registry).codes.length ∧
      (run calls registry).size ≤ 128) ∧
    (∀ before between code code', normalizeCode code' = normalizeCode code →
      (((run (before ++ .create code :: between) registry).create code' registry).1.serial =
          ((run before registry).create code registry).1.serial ↔
        .clear ∉ between ∧
          ∀ gap ∈ gaps (normalizeCode code) between, (distinctCodes gap).length ≤ 127)) ∧
    ∀ s code, (after s (.createStrict code) registry).entries = s.entries := by
  refine ⟨?_, ?_, fun s code => entries_after_strict s code registry⟩
  · intro calls
    exact ⟨codes_run calls registry, (List.length_map _).symm, (isSound_run calls registry).size_le⟩
  · intro before between code code' same
    have hroom (gap : List StoreCall) :
        (distinctCodes gap).length < capacity ↔ (distinctCodes gap).length ≤ 127 :=
      Nat.lt_succ_iff
    rw [serial_create_iff same before between registry]
    simp only [hroom]

theorem run_recentUse_variant :
    normalizeCode "en_US" = normalizeCode "en-US" ∧
      ((run [.create "en-US", .create "de", .createStrict "fr"]).create "en_US").1.serial =
        ((run []).create "en-US").1.serial := by
  have same : normalizeCode "en_US" = normalizeCode "en-US" := by decide
  exact ⟨same, ((run_recentUse .known).2.1 [] [.create "de", .createStrict "fr"] "en-US" "en_US" same).mpr
    ⟨by decide, by decide⟩⟩

end LocaleStore

end DatePattern
