import RecordFilter.Error
import RecordFilter.Operator

namespace RecordFilter

/-!
# Bounds of date intervals

* `DateSpan` — a half-open span of time, `lower ≤ moment < upper`, either end of which may be open.
* `DateInterval.bounds` — the span that an interval means on a given day.

Weeks start on Monday. All the days that intervals are bounded by have to exist, whichever interval is
asked for.
-/

/-- A half-open span of time. -/
structure DateSpan where
  /-- The first moment that belongs to the span. -/
  lower : Option DateTime
  /-- The first moment after the span. -/
  upper : Option DateTime
deriving DecidableEq

namespace DateSpan

/-- The span from the beginning of one day to the beginning of another. -/
def days (lower upper : Date) : DateSpan :=
  ⟨some (.midnight lower), some (.midnight upper)⟩

/-- Whether a moment belongs to the span. -/
def contains (span : DateSpan) (moment : DateTime) : Bool :=
  span.lower.all (fun lower => decide (lower.rank ≤ moment.rank)) &&
    span.upper.all (fun upper => decide (moment.rank < upper.rank))

end DateSpan

/-- The date at a distance of so many days, which has to exist. -/
def shiftDate (date : Date) (days : Int) : Except FilterError Date :=
  match date.addDays? days with
  | some shifted => .ok shifted
  | none => .error (.evaluation (.intervalOutOfRange date))

/-- The date with the given parts, which has to exist. -/
def dateOfParts (year : Int) (month day : Nat) : Except FilterError Date :=
  match Date.ofParts? year month day with
  | some date => .ok date
  | none => .error (.evaluation (.dateOutOfRange year month day))

/-- The days around a given one that bound the intervals. -/
structure Anchors where
  /-- The given day. -/
  today : Date
  /-- The Monday of the week. -/
  thisWeek : Date
  /-- The Monday of the next week. -/
  nextWeek : Date
  /-- The Sunday of the next week. -/
  nextSunday : Date
  /-- The Monday of the last week. -/
  lastWeek : Date
  /-- The first day of the month. -/
  thisMonth : Date
  /-- The first day of the next month. -/
  nextMonth : Date
  /-- The first day of the year. -/
  thisYear : Date
  /-- The first day of the next year. -/
  nextYear : Date

/-- The days around a given one that bound the intervals. -/
def Anchors.of (today : Date) : Except FilterError Anchors := do
  let thisWeek ← shiftDate today (-(today.weekday : Int))
  let nextWeek ← shiftDate thisWeek 7
  let nextSunday ← shiftDate nextWeek 6
  let lastWeek ← shiftDate thisWeek (-7)
  let nextMonth ←
    if today.month = 12 then dateOfParts (today.year + 1) 1 1
    else dateOfParts today.year (today.month + 1) 1
  let nextYear ← dateOfParts (today.year + 1) 1 1
  return { today, thisWeek, nextWeek, nextSunday, lastWeek, nextMonth, nextYear
           thisMonth := today.firstOfMonth, thisYear := today.firstOfYear }

namespace DateInterval

/-- The span that an interval means around the given days. -/
def span (anchors : Anchors) : DateInterval → Except FilterError DateSpan
  | .today => do return .days anchors.today (← shiftDate anchors.today 1)
  | .tomorrow => do
    return .days (← shiftDate anchors.today 1) (← shiftDate anchors.today 2)
  | .yesterday => do return .days (← shiftDate anchors.today (-1)) anchors.today
  | .earlierThisWeek => .ok (.days anchors.thisWeek anchors.today)
  | .laterThisWeek => do return .days (← shiftDate anchors.today 2) anchors.nextWeek
  | .nextWeek => do return .days anchors.nextWeek (← shiftDate anchors.nextSunday 1)
  | .lastWeek => .ok (.days anchors.lastWeek anchors.thisWeek)
  | .earlierThisMonth => .ok (.days anchors.thisMonth anchors.lastWeek)
  | .laterThisMonth => do return .days (← shiftDate anchors.nextSunday 1) anchors.nextMonth
  | .earlierThisYear => .ok (.days anchors.thisYear anchors.thisMonth)
  | .laterThisYear => .ok (.days anchors.nextMonth anchors.nextYear)
  | .priorThisYear => .ok ⟨none, some (.midnight anchors.thisYear)⟩
  | .beyondThisYear => .ok ⟨some (.midnight anchors.nextYear), none⟩

/-- The span that an interval means on a given day. -/
def bounds (interval : DateInterval) (today : Date) : Except FilterError DateSpan := do
  interval.span (← Anchors.of today)

end DateInterval

end RecordFilter
