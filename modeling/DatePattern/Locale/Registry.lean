import DatePattern.Calendar.Week
import DatePattern.Locale.Code
import DatePattern.Locale.Names
import DatePattern.Locale.Plural
import DatePattern.Numeral.Arithmetic

/-! Locales, and the registries that have them. -/
namespace DatePattern

structure Locale where
  code : String
  weekRule : WeekRule
  weekRule_isValid : weekRule.IsValid
deriving DecidableEq, Repr

/-- The locale of last resort. -/
def Locale.fallback : Locale := ⟨"en_US", ⟨0, 1⟩, by decide⟩

/-- The data of locales: where the one of a normalized code is found, the one of last resort among
them; the names that go with a locale; and the category of an ordinal number in it, which integers
always have. -/
structure LocaleRegistry where
  find : String → Except LocaleFault Locale
  lastResort : Locale
  names : Locale → NameTable
  ordinalCategory : Locale → Number → Except NumberFault PluralCategory
  find_lastResort : find Locale.fallback.code = .ok lastResort
  exists_ordinalCategory : ∀ locale n, ∃ c, ordinalCategory locale (.integer n) = .ok c

end DatePattern
