import DatePattern.Calendar.Week
import DatePattern.Fault

/-! Day of the year and week of a moment. -/
namespace DatePattern

namespace Moment

/-- A number read off the date, which an invalid moment does not have. -/
def ofValid (m : Moment) (operation : String) (n : Int) : Except Fault Int :=
  if m.isValid then .ok n else .error (.invalidDate operation)

def dayOfYear (m : Moment) : Except Fault Int :=
  m.ofValid "day_of_year" m.date.dayOfYear

def week (m : Moment) (rule : WeekRule) : Except Fault Int :=
  m.ofValid "iso_week" (m.date.week rule)

def weekYear (m : Moment) (rule : WeekRule) : Except Fault Int :=
  m.ofValid "iso_week_year" (m.date.weekYear rule)

end Moment

end DatePattern
