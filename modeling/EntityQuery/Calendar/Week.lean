import EntityQuery.Calendar.Date

/-!
Weeks of a year. Weeks of the calendar are counted from the first Sunday or Monday of the year, and
the days before it are in week 0. Weeks of ISO 8601 start on Monday and belong to the year that has
their Thursday.
-/

namespace EntityQuery.Calendar

def daysUntil (weekday next : Nat) : Nat :=
  (next + 7 - weekday) % 7

namespace Date

def weekFrom (start : Nat) (d : Date) : Nat :=
  (d.dayOfYear + 6 - daysUntil start d.weekday) / 7

/-- The number in its year of the day on `weekday` in a week. It may lie outside of the year. -/
def dayOfWeekFrom? (start : Nat) (year : Int) (week weekday : Nat) : Option Int :=
  (ofParts? year 1 1).map fun first =>
    1 + daysUntil first.weekday start + ((week : Int) - 1) * 7 + daysUntil start weekday

def ofWeekFrom? (start : Nat) (year : Int) (week weekday : Nat) : Option Date :=
  (dayOfWeekFrom? start year week weekday).bind fun n =>
    if 0 < n then ofDayOfYear? year n.toNat else none

def thursday (d : Date) : Int :=
  d.number - d.weekday + 3

def isoYear (d : Date) : Int :=
  yearOfDay d.thursday

def isoWeek (d : Date) : Nat :=
  ((d.thursday - daysBeforeYear d.isoYear) / 7 + 1).toNat

/-- The number of the Monday on which the first week of a year starts. The fourth of January is
always in that week. -/
def firstMonday (year : Int) : Int :=
  daysBeforeYear year + 3 - (daysBeforeYear year + 3) % 7

def ofIsoWeek? (year : Int) (week weekday : Nat) : Option Date :=
  (ofNumber? (firstMonday year + 7 * ((week : Int) - 1) + weekday)).filter fun d =>
    d.isoYear = year

def quarter (d : Date) : Nat :=
  (d.month + 2) / 3

end Date

end EntityQuery.Calendar
