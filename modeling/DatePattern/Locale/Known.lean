import DatePattern.Locale.KnownNames
import DatePattern.Locale.Registry

/-! The registry that is used where no other is given: some locales, with their weeks, names and
rules for ordinal numbers. -/
namespace DatePattern

namespace Locale

/-- The locales with these codes, whose weeks follow one rule. -/
def sharing (rule : WeekRule) (h : rule.IsValid) (codes : List String) : List Locale :=
  codes.map fun code => ⟨code, rule, h⟩

def all : List Locale :=
  sharing fallback.weekRule fallback.weekRule_isValid
    ["en_US", "en_US_POSIX", "fil_PH", "he_IL", "hi_IN", "ja_JP", "pt_BR", "th_TH",
     "zh_Hant_TW"] ++
  sharing ⟨0, 4⟩ (by decide) ["pt_PT"] ++
  sharing ⟨1, 1⟩ (by decide)
    ["ar", "bn", "ca", "cy", "da", "de", "el", "en", "en_001", "en_150", "es_419", "et", "fi",
     "fr@x", "gd", "he", "hr", "ka", "lt", "lv_LV", "mk", "nb", "nn", "no", "or", "ro_RO", "root",
     "sk", "sl", "sq", "sr_Cyrl_RS", "sr_Latn_RS", "sv", "tr", "uk_UA", "zh_Hans_CN",
     "zh_Hant"] ++
  sharing ⟨1, 4⟩ (by decide)
    ["ca_ES@valencia", "cs_CZ", "de_DE", "en_GB", "es_ES", "fr_FR", "hu_HU", "it_IT", "lt_LT",
     "nl_NL", "pl_PL", "ru_RU", "sv_SE"] ++
  sharing ⟨6, 1⟩ (by decide) ["ar_EG", "fa_IR"]

/-- Codes that stand for a fuller or newer one. -/
def aliases : List (String × String) :=
  [("iw", "he_IL"), ("mo", "ro_RO"), ("sr_RS", "sr_Cyrl_RS"), ("tl", "fil_PH"), ("und", "en_US"),
   ("zh_CN", "zh_Hans_CN"), ("zh_TW", "zh_Hant_TW")]

def ofCode (code : String) : Except LocaleFault Locale := do
  let parts ← LocaleParts.ofCode code
  let name := (aliases.lookup parts.text).getD parts.text
  match all.find? fun locale => locale.code == name with
  | some locale => .ok locale
  | none => .error (.unknown parts.text)

theorem ofCode_fallback : ofCode fallback.code = .ok fallback := by
  rfl

/-- The language: the first part of the code. -/
def language (l : Locale) : String :=
  String.ofList (l.code.toList.takeWhile fun c => c != '_' && c != '@')

end Locale

/-- The names of a locale. One without a table has those of the first table of its language, or
else the American ones. -/
def Locale.names (l : Locale) : NameTable :=
  match NameTable.all.lookup l.code with
  | some table => table
  | none => ((NameTable.all.map fun (code, table) => (languageOf code, table)).lookup
      l.language).getD .american

def ordinalRules : List (String × PluralRules) :=
  [("bn", [(.few, [[.inside 0 [(4, 4)]]]),
      (.many, [[.inside 0 [(6, 6)]]]),
      (.one, [[.inside 0 [(1, 1), (5, 5), (7, 7), (8, 8), (9, 9), (10, 10)]]]),
      (.two, [[.inside 0 [(2, 2), (3, 3)]]])]),
   ("ca", [(.few, [[.inside 0 [(4, 4)]]]),
      (.one, [[.inside 0 [(1, 1), (3, 3)]]]),
      (.two, [[.inside 0 [(2, 2)]]])]),
   ("cy", [(.few, [[.inside 0 [(3, 3), (4, 4)]]]),
      (.many, [[.inside 0 [(5, 5), (6, 6)]]]),
      (.one, [[.inside 0 [(1, 1)]]]),
      (.two, [[.inside 0 [(2, 2)]]]),
      (.zero, [[.inside 0 [(0, 0), (7, 7), (8, 8), (9, 9)]]])]),
   ("en", [(.few, [[.inside 10 [(3, 3)], .outside 100 [(13, 13)]]]),
      (.one, [[.inside 10 [(1, 1)], .outside 100 [(11, 11)]]]),
      (.two, [[.inside 10 [(2, 2)], .outside 100 [(12, 12)]]])]),
   ("fil", [(.one, [[.inside 0 [(1, 1)]]])]),
   ("fr", [(.one, [[.inside 0 [(1, 1)]]])]),
   ("gd", [(.few, [[.inside 0 [(3, 3), (13, 13)]]]),
      (.one, [[.inside 0 [(1, 1), (11, 11)]]]),
      (.two, [[.inside 0 [(2, 2), (12, 12)]]])]),
   ("hi", [(.few, [[.inside 0 [(4, 4)]]]),
      (.many, [[.inside 0 [(6, 6)]]]),
      (.one, [[.inside 0 [(1, 1)]]]),
      (.two, [[.inside 0 [(2, 2), (3, 3)]]])]),
   ("hu", [(.one, [[.inside 0 [(1, 1), (5, 5)]]])]),
   ("it", [(.many, [[.inside 0 [(11, 11), (8, 8), (80, 80), (800, 800)]]])]),
   ("ka", [(.many, [[.inside 0 [(0, 0)]], [.inside 100 [(2, 20), (40, 40), (60, 60), (80, 80)]]]),
      (.one, [[.inside 0 [(1, 1)]]])]),
   ("mk", [(.many, [[.inside 10 [(7, 7), (8, 8)], .outside 100 [(17, 17), (18, 18)]]]),
      (.one, [[.inside 10 [(1, 1)], .outside 100 [(11, 11)]]]),
      (.two, [[.inside 10 [(2, 2)], .outside 100 [(12, 12)]]])]),
   ("or", [(.few, [[.inside 0 [(4, 4)]]]),
      (.many, [[.inside 0 [(6, 6)]]]),
      (.one, [[.inside 0 [(1, 1), (5, 5), (7, 9)]]]),
      (.two, [[.inside 0 [(2, 2), (3, 3)]]])]),
   ("ro", [(.one, [[.inside 0 [(1, 1)]]])]),
   ("sq", [(.many, [[.inside 10 [(4, 4)], .outside 100 [(14, 14)]]]),
      (.one, [[.inside 0 [(1, 1)]]])]),
   ("sv", [(.one, [[.inside 10 [(1, 1), (2, 2)], .outside 100 [(11, 11), (12, 12)]]])]),
   ("uk", [(.few, [[.inside 10 [(3, 3)], .outside 100 [(13, 13)]]])])]

/-- The languages whose rules look at the integer part of a number. -/
def integerPartLanguages : List String := ["ka", "mk"]

/-- What the rules of a language look at: the magnitude of a number, if it is integral, or of its
integer part. A number that is not finite has none, nor has one that cannot be divided. -/
def pluralOperand (language : String) (rules : PluralRules) (x : Number) :
    Except NumberFault (Option Nat) := do
  let whole ← x.toInt
  if integerPartLanguages.contains language then return some whole.natAbs
  else
    let modulus := rules.firstModulus
    if modulus ≠ 0 then let _ ← x.mod modulus
    return if x.equalsInt whole then some whole.natAbs else none

theorem pluralOperand_integer (language : String) (rules : PluralRules) (n : Int) :
    pluralOperand language rules (.integer n) = .ok (some n.natAbs) := by
  by_cases h : rules.firstModulus = 0 <;>
    simp [pluralOperand, Number.toInt, Number.mod, Number.equalsInt, h, bind, Except.bind, pure,
      Except.pure]

/-- The category of an ordinal number in a locale. -/
def Locale.ordinalCategory (l : Locale) (x : Number) : Except NumberFault PluralCategory := do
  let rules := (ordinalRules.lookup l.language).getD []
  return rules.categoryOf (← pluralOperand l.language rules x)

theorem Locale.exists_ordinalCategory (l : Locale) (n : Int) :
    ∃ c, l.ordinalCategory (.integer n) = .ok c := by
  rw [ordinalCategory, pluralOperand_integer]
  exact ⟨_, rfl⟩

/-- The known locales. -/
def LocaleRegistry.known : LocaleRegistry where
  find := Locale.ofCode
  lastResort := .fallback
  names := Locale.names
  ordinalCategory := Locale.ordinalCategory
  find_lastResort := Locale.ofCode_fallback
  exists_ordinalCategory := Locale.exists_ordinalCategory

end DatePattern
