import RecordFilter.Calendar.Date

namespace RecordFilter

/-!
# Days of the year and weeks

* `Date.ofOrdinal?` — the date with a number.
* `Date.yearDay`, `Date.ofYearDay?` — the place of a date in its year.
* `Date.weekOfYear`, `Date.ofWeek?` — weeks counted from the first Sunday or Monday of the year.
* `Date.isoYear`, `Date.isoWeek`, `Date.ofIsoWeek?` — the weeks of ISO 8601.
-/

namespace Date

/-! ### Days of the year -/

/-- The number of the day within its year, from one. -/
def yearDay (date : Date) : Nat :=
  daysBeforeMonth date.year date.month + date.day

/-- The date with a number within a year. -/
def ofYearDay? (year : Int) (day : Nat) : Option Date :=
  (List.range' 1 12).findSome? fun month =>
    if daysBeforeMonth year month < day then
      ofParts? year month (day - daysBeforeMonth year month)
    else none

/-- The date with a number. The mean length of a year gives its year up to one. -/
def ofOrdinal? (ordinal : Int) : Option Date :=
  let near := ordinal * 400 / 146097 + 1
  [near + 1, near, near - 1].findSome? fun year =>
    if daysBeforeYear year ≤ ordinal then ofYearDay? year (ordinal - daysBeforeYear year + 1).toNat
    else none

/-- The quarter of the year, from one. -/
def quarter (date : Date) : Nat :=
  (date.month - 1) / 3 + 1

/-! ### Weeks of the year -/

/-- The first day of the week, as weekdays are counted. -/
abbrev monday : Nat := 0

/-- The last day of the week, as weekdays are counted. -/
abbrev sunday : Nat := 6

/-- The number of the week if weeks begin with the given weekday. The days before the first such day of
    the year are in week zero. -/
def weekOfYear (start : Nat) (date : Date) : Nat :=
  (date.yearDay + 6 - (date.weekday + 7 - start) % 7) / 7

/-- The date in a week of a year, the weeks beginning with the given weekday. -/
def ofWeek? (start : Nat) (year : Int) (week weekday : Nat) : Option Date :=
  let first := 1 + ((start : Int) - daysBeforeYear year) % 7
  ofYearDay? year (first + 7 * ((week : Int) - 1) + ((weekday : Int) - start) % 7).toNat

/-! ### ISO weeks -/

/-- The number of the Monday with which the first week of a year begins, the week of the fourth of
    January. -/
def isoYearStart (year : Int) : Int :=
  daysBeforeYear year + 3 - (daysBeforeYear year + 3) % 7

/-- The year that the week of the day belongs to. -/
def isoYear (date : Date) : Int :=
  if date.ordinal < isoYearStart date.year then date.year - 1
  else if isoYearStart (date.year + 1) ≤ date.ordinal then date.year + 1
  else date.year

/-- The number of the week of the day, from one. -/
def isoWeek (date : Date) : Nat :=
  ((date.ordinal - isoYearStart date.isoYear) / 7).toNat + 1

/-- The date in a week of ISO 8601, the week counted on into the next year where the year has no such
    week. -/
def ofIsoWeek? (year : Int) (week weekday : Nat) : Option Date :=
  ofOrdinal? (isoYearStart year + 7 * ((week : Int) - 1) + weekday)

end Date

end RecordFilter
