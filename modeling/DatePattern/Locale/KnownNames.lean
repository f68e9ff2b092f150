import DatePattern.Locale.Names

/-! The names of some locales. -/
namespace DatePattern

namespace NameTable

open ByContext

def american : NameTable where
  eras :=
    ⟨["B", "A"],
     ["BC", "AD"],
     ["Before Christ", "Anno Domini"]⟩
  periods :=
    ⟨some ("a", "p"), some ("AM", "PM"), some ("AM", "PM")⟩
  months := inBoth
    ⟨["J", "F", "M", "A", "M", "J", "J", "A", "S", "O", "N", "D"],
     ["Jan", "Feb", "Mar", "Apr", "May", "Jun", "Jul", "Aug", "Sep", "Oct", "Nov", "Dec"],
     ["January", "February", "March", "April", "May", "June", "July", "August", "September",
      "October", "November", "December"]⟩
  quarters := inBoth
    ⟨["1", "2", "3", "4"],
     ["Q1", "Q2", "Q3", "Q4"],
     ["1st quarter", "2nd quarter", "3rd quarter", "4th quarter"]⟩
  weekdays := inBoth
    ⟨["S", "M", "T", "W", "T", "F", "S"],
     ["Su", "Mo", "Tu", "We", "Th", "Fr", "Sa"],
     ["Sun", "Mon", "Tue", "Wed", "Thu", "Fri", "Sat"],
     ["Sunday", "Monday", "Tuesday", "Wednesday", "Thursday", "Friday", "Saturday"]⟩

def british : NameTable where
  eras :=
    ⟨["B", "A"],
     ["BC", "AD"],
     ["Before Christ", "Anno Domini"]⟩
  periods :=
    ⟨some ("a", "p"), some ("am", "pm"), some ("am", "pm")⟩
  months := inBoth
    ⟨["J", "F", "M", "A", "M", "J", "J", "A", "S", "O", "N", "D"],
     ["Jan", "Feb", "Mar", "Apr", "May", "Jun", "Jul", "Aug", "Sept", "Oct", "Nov", "Dec"],
     ["January", "February", "March", "April", "May", "June", "July", "August", "September",
      "October", "November", "December"]⟩
  quarters := inBoth
    ⟨["1", "2", "3", "4"],
     ["Q1", "Q2", "Q3", "Q4"],
     ["1st quarter", "2nd quarter", "3rd quarter", "4th quarter"]⟩
  weekdays := inBoth
    ⟨["S", "M", "T", "W", "T", "F", "S"],
     ["Su", "Mo", "Tu", "We", "Th", "Fr", "Sa"],
     ["Sun", "Mon", "Tue", "Wed", "Thu", "Fri", "Sat"],
     ["Sunday", "Monday", "Tuesday", "Wednesday", "Thursday", "Friday", "Saturday"]⟩

def french : NameTable where
  eras :=
    ⟨["av. J.-C.", "ap. J.-C."],
     ["av. J.-C.", "ap. J.-C."],
     ["avant Jésus-Christ", "après Jésus-Christ"]⟩
  periods :=
    ⟨none, some ("AM", "PM"), none⟩
  months := inBoth
    ⟨["J", "F", "M", "A", "M", "J", "J", "A", "S", "O", "N", "D"],
     ["janv.", "févr.", "mars", "avr.", "mai", "juin", "juil.", "août", "sept.", "oct.", "nov.",
      "déc."],
     ["janvier", "février", "mars", "avril", "mai", "juin", "juillet", "août", "septembre",
      "octobre", "novembre", "décembre"]⟩
  quarters := inBoth
    ⟨["1", "2", "3", "4"],
     ["T1", "T2", "T3", "T4"],
     ["1er trimestre", "2e trimestre", "3e trimestre", "4e trimestre"]⟩
  weekdays := inBoth
    ⟨["D", "L", "M", "M", "J", "V", "S"],
     ["di", "lu", "ma", "me", "je", "ve", "sa"],
     ["dim.", "lun.", "mar.", "mer.", "jeu.", "ven.", "sam."],
     ["dimanche", "lundi", "mardi", "mercredi", "jeudi", "vendredi", "samedi"]⟩

def german : NameTable where
  eras :=
    ⟨["v. Chr.", "n. Chr."],
     ["v. Chr.", "n. Chr."],
     ["vor unserer Zeitrechnung", "unserer Zeitrechnung"]⟩
  periods :=
    ⟨none, some ("AM", "PM"), none⟩
  months := inEach
    ⟨["J", "F", "M", "A", "M", "J", "J", "A", "S", "O", "N", "D"],
     ["Jan.", "Feb.", "März", "Apr.", "Mai", "Juni", "Juli", "Aug.", "Sept.", "Okt.", "Nov.",
      "Dez."],
     ["Januar", "Februar", "März", "April", "Mai", "Juni", "Juli", "August", "September",
      "Oktober", "November", "Dezember"]⟩
    ⟨["J", "F", "M", "A", "M", "J", "J", "A", "S", "O", "N", "D"],
     ["Jan", "Feb", "Mär", "Apr", "Mai", "Jun", "Jul", "Aug", "Sep", "Okt", "Nov", "Dez"],
     ["Januar", "Februar", "März", "April", "Mai", "Juni", "Juli", "August", "September",
      "Oktober", "November", "Dezember"]⟩
  quarters := inBoth
    ⟨["1", "2", "3", "4"],
     ["Q1", "Q2", "Q3", "Q4"],
     ["1. Quartal", "2. Quartal", "3. Quartal", "4. Quartal"]⟩
  weekdays := inEach
    ⟨["S", "M", "D", "M", "D", "F", "S"],
     ["So.", "Mo.", "Di.", "Mi.", "Do.", "Fr.", "Sa."],
     ["So.", "Mo.", "Di.", "Mi.", "Do.", "Fr.", "Sa."],
     ["Sonntag", "Montag", "Dienstag", "Mittwoch", "Donnerstag", "Freitag", "Samstag"]⟩
    ⟨["S", "M", "D", "M", "D", "F", "S"],
     ["So.", "Mo.", "Di.", "Mi.", "Do.", "Fr.", "Sa."],
     ["So", "Mo", "Di", "Mi", "Do", "Fr", "Sa"],
     ["Sonntag", "Montag", "Dienstag", "Mittwoch", "Donnerstag", "Freitag", "Samstag"]⟩

def spanish : NameTable where
  eras :=
    ⟨["a. C.", "d. C."],
     ["a. C.", "d. C."],
     ["antes de Cristo", "después de Cristo"]⟩
  periods :=
    ⟨none, some ("a. m.", "p. m."), some ("a. m.", "p. m.")⟩
  months := inBoth
    ⟨["E", "F", "M", "A", "M", "J", "J", "A", "S", "O", "N", "D"],
     ["ene", "feb", "mar", "abr", "may", "jun", "jul", "ago", "sept", "oct", "nov", "dic"],
     ["enero", "febrero", "marzo", "abril", "mayo", "junio", "julio", "agosto", "septiembre",
      "octubre", "noviembre", "diciembre"]⟩
  quarters := inBoth
    ⟨["1", "2", "3", "4"],
     ["T1", "T2", "T3", "T4"],
     ["1.er trimestre", "2.º trimestre", "3.er trimestre", "4.º trimestre"]⟩
  weekdays := inBoth
    ⟨["D", "L", "M", "X", "J", "V", "S"],
     ["DO", "LU", "MA", "MI", "JU", "VI", "SA"],
     ["dom", "lun", "mar", "mié", "jue", "vie", "sáb"],
     ["domingo", "lunes", "martes", "miércoles", "jueves", "viernes", "sábado"]⟩

def italian : NameTable where
  eras :=
    ⟨["aC", "dC"],
     ["a.C.", "d.C."],
     ["avanti Cristo", "dopo Cristo"]⟩
  periods :=
    ⟨some ("m.", "p."), some ("AM", "PM"), none⟩
  months := inBoth
    ⟨["G", "F", "M", "A", "M", "G", "L", "A", "S", "O", "N", "D"],
     ["gen", "feb", "mar", "apr", "mag", "giu", "lug", "ago", "set", "ott", "nov", "dic"],
     ["gennaio", "febbraio", "marzo", "aprile", "maggio", "giugno", "luglio", "agosto",
      "settembre", "ottobre", "novembre", "dicembre"]⟩
  quarters := inBoth
    ⟨["1", "2", "3", "4"],
     ["T1", "T2", "T3", "T4"],
     ["1º trimestre", "2º trimestre", "3º trimestre", "4º trimestre"]⟩
  weekdays := inBoth
    ⟨["D", "L", "M", "M", "G", "V", "S"],
     ["dom", "lun", "mar", "mer", "gio", "ven", "sab"],
     ["dom", "lun", "mar", "mer", "gio", "ven", "sab"],
     ["domenica", "lunedì", "martedì", "mercoledì", "giovedì", "venerdì", "sabato"]⟩

def swedish : NameTable where
  eras :=
    ⟨["f.Kr.", "e.Kr."],
     ["f.Kr.", "e.Kr."],
     ["före Kristus", "efter Kristus"]⟩
  periods :=
    ⟨none, some ("fm", "em"), none⟩
  months := inBoth
    ⟨["J", "F", "M", "A", "M", "J", "J", "A", "S", "O", "N", "D"],
     ["jan.", "feb.", "mars", "apr.", "maj", "juni", "juli", "aug.", "sep.", "okt.", "nov.",
      "dec."],
     ["januari", "februari", "mars", "april", "maj", "juni", "juli", "augusti", "september",
      "oktober", "november", "december"]⟩
  quarters := inBoth
    ⟨["1", "2", "3", "4"],
     ["K1", "K2", "K3", "K4"],
     ["1:a kvartalet", "2:a kvartalet", "3:e kvartalet", "4:e kvartalet"]⟩
  weekdays := inBoth
    ⟨["S", "M", "T", "O", "T", "F", "L"],
     ["sö", "må", "ti", "on", "to", "fr", "lö"],
     ["sön", "mån", "tis", "ons", "tors", "fre", "lör"],
     ["söndag", "måndag", "tisdag", "onsdag", "torsdag", "fredag", "lördag"]⟩

def japanese : NameTable where
  eras :=
    ⟨["BC", "AD"],
     ["紀元前", "西暦"],
     ["紀元前", "西暦"]⟩
  periods :=
    ⟨none, some ("午前", "午後"), none⟩
  months := inBoth
    ⟨["1", "2", "3", "4", "5", "6", "7", "8", "9", "10", "11", "12"],
     ["1月", "2月", "3月", "4月", "5月", "6月", "7月", "8月", "9月", "10月", "11月", "12月"],
     ["1月", "2月", "3月", "4月", "5月", "6月", "7月", "8月", "9月", "10月", "11月", "12月"]⟩
  quarters := inBoth
    ⟨["1", "2", "3", "4"],
     ["Q1", "Q2", "Q3", "Q4"],
     ["第1四半期", "第2四半期", "第3四半期", "第4四半期"]⟩
  weekdays := inBoth
    ⟨["日", "月", "火", "水", "木", "金", "土"],
     ["日", "月", "火", "水", "木", "金", "土"],
     ["日", "月", "火", "水", "木", "金", "土"],
     ["日曜日", "月曜日", "火曜日", "水曜日", "木曜日", "金曜日", "土曜日"]⟩

def russian : NameTable where
  eras :=
    ⟨["до н.э.", "н.э."],
     ["до н. э.", "н. э."],
     ["до Рождества Христова", "от Рождества Христова"]⟩
  periods :=
    ⟨none, some ("AM", "PM"), none⟩
  months := inEach
    ⟨["Я", "Ф", "М", "А", "М", "И", "И", "А", "С", "О", "Н", "Д"],
     ["янв.", "февр.", "мар.", "апр.", "мая", "июн.", "июл.", "авг.", "сент.", "окт.", "нояб.",
      "дек."],
     ["января", "февраля", "марта", "апреля", "мая", "июня", "июля", "августа", "сентября",
      "октября", "ноября", "декабря"]⟩
    ⟨["Я", "Ф", "М", "А", "М", "И", "И", "А", "С", "О", "Н", "Д"],
     ["янв.", "февр.", "март", "апр.", "май", "июнь", "июль", "авг.", "сент.", "окт.", "нояб.",
      "дек."],
     ["январь", "февраль", "март", "апрель", "май", "июнь", "июль", "август", "сентябрь",
      "октябрь", "ноябрь", "декабрь"]⟩
  quarters := inBoth
    ⟨["1", "2", "3", "4"],
     ["1-й кв.", "2-й кв.", "3-й кв.", "4-й кв."],
     ["1-й квартал", "2-й квартал", "3-й квартал", "4-й квартал"]⟩
  weekdays := inBoth
    ⟨["В", "П", "В", "С", "Ч", "П", "С"],
     ["вс", "пн", "вт", "ср", "чт", "пт", "сб"],
     ["вс", "пн", "вт", "ср", "чт", "пт", "сб"],
     ["воскресенье", "понедельник", "вторник", "среда", "четверг", "пятница", "суббота"]⟩

def polish : NameTable where
  eras :=
    ⟨["p.n.e.", "n.e."],
     ["p.n.e.", "n.e."],
     ["przed naszą erą", "naszej ery"]⟩
  periods :=
    ⟨some ("a", "p"), some ("AM", "PM"), none⟩
  months := inEach
    ⟨["s", "l", "m", "k", "m", "c", "l", "s", "w", "p", "l", "g"],
     ["sty", "lut", "mar", "kwi", "maj", "cze", "lip", "sie", "wrz", "paź", "lis", "gru"],
     ["stycznia", "lutego", "marca", "kwietnia", "maja", "czerwca", "lipca", "sierpnia",
      "września", "października", "listopada", "grudnia"]⟩
    ⟨["S", "L", "M", "K", "M", "C", "L", "S", "W", "P", "L", "G"],
     ["sty", "lut", "mar", "kwi", "maj", "cze", "lip", "sie", "wrz", "paź", "lis", "gru"],
     ["styczeń", "luty", "marzec", "kwiecień", "maj", "czerwiec", "lipiec", "sierpień",
      "wrzesień", "październik", "listopad", "grudzień"]⟩
  quarters := inBoth
    ⟨["1", "2", "3", "4"],
     ["I kw.", "II kw.", "III kw.", "IV kw."],
     ["I kwartał", "II kwartał", "III kwartał", "IV kwartał"]⟩
  weekdays := inEach
    ⟨["n", "p", "w", "ś", "c", "p", "s"],
     ["nie", "pon", "wto", "śro", "czw", "pią", "sob"],
     ["niedz.", "pon.", "wt.", "śr.", "czw.", "pt.", "sob."],
     ["niedziela", "poniedziałek", "wtorek", "środa", "czwartek", "piątek", "sobota"]⟩
    ⟨["N", "P", "W", "Ś", "C", "P", "S"],
     ["nie", "pon", "wto", "śro", "czw", "pią", "sob"],
     ["niedz.", "pon.", "wt.", "śr.", "czw.", "pt.", "sob."],
     ["niedziela", "poniedziałek", "wtorek", "środa", "czwartek", "piątek", "sobota"]⟩

def lithuanian : NameTable where
  eras :=
    ⟨["prme", "pome"],
     ["pr. Kr.", "po Kr."],
     ["prieš Kristų", "po Kristaus"]⟩
  periods :=
    ⟨some ("pr. p.", "pop."), some ("priešpiet", "popiet"), none⟩
  months := inEach
    ⟨["S", "V", "K", "B", "G", "B", "L", "R", "R", "S", "L", "G"],
     ["saus.", "vas.", "kov.", "bal.", "geg.", "birž.", "liep.", "rugp.", "rugs.", "spal.",
      "lapkr.", "gruod."],
     ["sausio", "vasario", "kovo", "balandžio", "gegužės", "birželio", "liepos", "rugpjūčio",
      "rugsėjo", "spalio", "lapkričio", "gruodžio"]⟩
    ⟨["S", "V", "K", "B", "G", "B", "L", "R", "R", "S", "L", "G"],
     ["saus.", "vas.", "kov.", "bal.", "geg.", "birž.", "liep.", "rugp.", "rugs.", "spal.",
      "lapkr.", "gruod."],
     ["sausis", "vasaris", "kovas", "balandis", "gegužė", "birželis", "liepa", "rugpjūtis",
      "rugsėjis", "spalis", "lapkritis", "gruodis"]⟩
  quarters := inEach
    ⟨["1", "2", "3", "4"],
     ["I k.", "II k.", "III k.", "IV k."],
     ["I ketvirtis", "II ketvirtis", "III ketvirtis", "IV ketvirtis"]⟩
    ⟨["1", "2", "3", "4"],
     ["I ketv.", "II ketv.", "III ketv.", "IV ketv."],
     ["I ketvirtis", "II ketvirtis", "III ketvirtis", "IV ketvirtis"]⟩
  weekdays := inBoth
    ⟨["S", "P", "A", "T", "K", "P", "Š"],
     ["Sk", "Pr", "An", "Tr", "Kt", "Pn", "Št"],
     ["sk", "pr", "an", "tr", "kt", "pn", "št"],
     ["sekmadienis", "pirmadienis", "antradienis", "trečiadienis", "ketvirtadienis",
      "penktadienis", "šeštadienis"]⟩

def latvian : NameTable where
  eras :=
    ⟨["pmē", "mē"],
     ["p.m.ē.", "m.ē."],
     ["pirms mūsu ēras", "mūsu ērā"]⟩
  periods :=
    ⟨none, some ("priekšp.", "pēcp."), some ("priekšpusdienā", "pēcpusdienā")⟩
  months := inBoth
    ⟨["J", "F", "M", "A", "M", "J", "J", "A", "S", "O", "N", "D"],
     ["janv.", "febr.", "marts", "apr.", "maijs", "jūn.", "jūl.", "aug.", "sept.", "okt.",
      "nov.", "dec."],
     ["janvāris", "februāris", "marts", "aprīlis", "maijs", "jūnijs", "jūlijs", "augusts",
      "septembris", "oktobris", "novembris", "decembris"]⟩
  quarters := inBoth
    ⟨["1.", "2.", "3.", "4."],
     ["1. cet.", "2. cet.", "3. cet.", "4. cet."],
     ["1. ceturksnis", "2. ceturksnis", "3. ceturksnis", "4. ceturksnis"]⟩
  weekdays := inEach
    ⟨["S", "P", "O", "T", "C", "P", "S"],
     ["Sv", "Pr", "Ot", "Tr", "Ce", "Pk", "Se"],
     ["svētd.", "pirmd.", "otrd.", "trešd.", "ceturtd.", "piektd.", "sestd."],
     ["svētdiena", "pirmdiena", "otrdiena", "trešdiena", "ceturtdiena", "piektdiena",
      "sestdiena"]⟩
    ⟨["S", "P", "O", "T", "C", "P", "S"],
     ["Sv", "Pr", "Ot", "Tr", "Ce", "Pk", "Se"],
     ["Svētd.", "Pirmd.", "Otrd.", "Trešd.", "Ceturtd.", "Piektd.", "Sestd."],
     ["Svētdiena", "Pirmdiena", "Otrdiena", "Trešdiena", "Ceturtdiena", "Piektdiena",
      "Sestdiena"]⟩

def arabic : NameTable where
  eras :=
    ⟨["ق.م", "م"],
     ["ق.م", "م"],
     ["قبل الميلاد", "ميلادي"]⟩
  periods :=
    ⟨none, some ("ص", "م"), none⟩
  months := inBoth
    ⟨["ي", "ف", "م", "أ", "و", "ن", "ل", "غ", "س", "ك", "ب", "د"],
     ["يناير", "فبراير", "مارس", "أبريل", "مايو", "يونيو", "يوليو", "أغسطس", "سبتمبر", "أكتوبر",
      "نوفمبر", "ديسمبر"],
     ["يناير", "فبراير", "مارس", "أبريل", "مايو", "يونيو", "يوليو", "أغسطس", "سبتمبر", "أكتوبر",
      "نوفمبر", "ديسمبر"]⟩
  quarters := inBoth
    ⟨["١", "٢", "٣", "٤"],
     ["الربع الأول", "الربع الثاني", "الربع الثالث", "الربع الرابع"],
     ["الربع الأول", "الربع الثاني", "الربع الثالث", "الربع الرابع"]⟩
  weekdays := inBoth
    ⟨["ح", "ن", "ث", "ر", "خ", "ج", "س"],
     ["أحد", "إثنين", "ثلاثاء", "أربعاء", "خميس", "جمعة", "سبت"],
     ["الأحد", "الاثنين", "الثلاثاء", "الأربعاء", "الخميس", "الجمعة", "السبت"],
     ["الأحد", "الاثنين", "الثلاثاء", "الأربعاء", "الخميس", "الجمعة", "السبت"]⟩

def welsh : NameTable where
  eras :=
    ⟨["C", "O"],
     ["CC", "OC"],
     ["Cyn Crist", "Oed Crist"]⟩
  periods :=
    ⟨some ("b", "h"), some ("AM", "PM"), some ("yb", "yh")⟩
  months := inEach
    ⟨["I", "Ch", "M", "E", "M", "M", "G", "A", "M", "H", "T", "Rh"],
     ["Ion", "Chwef", "Maw", "Ebr", "Mai", "Meh", "Gorff", "Awst", "Medi", "Hyd", "Tach", "Rhag"],
     ["Ionawr", "Chwefror", "Mawrth", "Ebrill", "Mai", "Mehefin", "Gorffennaf", "Awst", "Medi",
      "Hydref", "Tachwedd", "Rhagfyr"]⟩
    ⟨["I", "Ch", "M", "E", "M", "M", "G", "A", "M", "H", "T", "Rh"],
     ["Ion", "Chw", "Maw", "Ebr", "Mai", "Meh", "Gor", "Awst", "Medi", "Hyd", "Tach", "Rhag"],
     ["Ionawr", "Chwefror", "Mawrth", "Ebrill", "Mai", "Mehefin", "Gorffennaf", "Awst", "Medi",
      "Hydref", "Tachwedd", "Rhagfyr"]⟩
  quarters := inBoth
    ⟨["1", "2", "3", "4"],
     ["Ch1", "Ch2", "Ch3", "Ch4"],
     ["chwarter 1af", "2il chwarter", "3ydd chwarter", "4ydd chwarter"]⟩
  weekdays := inEach
    ⟨["S", "Ll", "M", "M", "I", "G", "S"],
     ["Su", "Ll", "Ma", "Me", "Ia", "Gw", "Sa"],
     ["Sul", "Llun", "Maw", "Mer", "Iau", "Gwen", "Sad"],
     ["Dydd Sul", "Dydd Llun", "Dydd Mawrth", "Dydd Mercher", "Dydd Iau", "Dydd Gwener",
      "Dydd Sadwrn"]⟩
    ⟨["S", "Ll", "M", "M", "I", "G", "S"],
     ["Su", "Ll", "Ma", "Me", "Ia", "Gw", "Sa"],
     ["Sul", "Llun", "Maw", "Mer", "Iau", "Gwe", "Sad"],
     ["Dydd Sul", "Dydd Llun", "Dydd Mawrth", "Dydd Mercher", "Dydd Iau", "Dydd Gwener",
      "Dydd Sadwrn"]⟩

/-- The tables, by the code of their locale. -/
def all : List (String × NameTable) :=
  [("en_US", american),
   ("en_GB", british),
   ("fr_FR", french),
   ("de_DE", german),
   ("es_ES", spanish),
   ("it_IT", italian),
   ("sv_SE", swedish),
   ("ja_JP", japanese),
   ("ru_RU", russian),
   ("pl_PL", polish),
   ("lt_LT", lithuanian),
   ("lv_LV", latvian),
   ("ar_EG", arabic),
   ("cy", welsh)]

end NameTable

end DatePattern
