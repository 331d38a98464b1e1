namespace RecordFilter

/-!
# Dates

* `Date` — a day of the proleptic Gregorian calendar.
* `Date.ordinal` — the number of the day, counted from the first day of year one.
* `Date.weekday` — the days since Monday.
* `Date.succ?`, `Date.pred?`, `Date.addDays?` — neighbouring days, none past the first and the last
  date.
-/

namespace Date

/-- The first year that dates reach. -/
abbrev minYear : Int := -262143

/-- The last year that dates reach. -/
abbrev maxYear : Int := 262142

/-- Leap years: every fourth one, of the full centuries every fourth one. -/
def isLeap (year : Int) : Bool :=
  year % 4 == 0 && (year % 100 != 0 || year % 400 == 0)

/-- The number of days of a month, counted from January as one. -/
def daysInMonth (year : Int) (month : Nat) : Nat :=
  match month with
  | 2 => if isLeap year then 29 else 28
  | 4 | 6 | 9 | 11 => 30
  | _ => 31

/-- The parts that make a date. -/
abbrev Valid (year : Int) (month day : Nat) : Prop :=
  minYear ≤ year ∧ year ≤ maxYear ∧ 1 ≤ month ∧ month ≤ 12 ∧
    1 ≤ day ∧ day ≤ daysInMonth year month

end Date

/-- A day of the proleptic Gregorian calendar. -/
structure Date where
  /-- The year; year zero precedes year one. -/
  year : Int
  /-- The month, from one. -/
  month : Nat
  /-- The day of the month, from one. -/
  day : Nat
  /-- The parts name a day that exists. -/
  valid : Date.Valid year month day
deriving DecidableEq

namespace Date

/-- The date with the given parts, if there is one. -/
def ofParts? (year : Int) (month day : Nat) : Option Date :=
  if h : Valid year month day then some ⟨year, month, day, h⟩ else none

/-- The days of a year before the first of a month. -/
def daysBeforeMonth (year : Int) : Nat → Nat
  | 0 => 0
  | 1 => 0
  | month + 2 => daysBeforeMonth year (month + 1) + daysInMonth year (month + 1)

/-- The days before the first day of a year, from the first day of year one on; negative for the
    years before it. -/
def daysBeforeYear (year : Int) : Int :=
  365 * (year - 1) + (year - 1) / 4 - (year - 1) / 100 + (year - 1) / 400

/-- The number of the day: the first day of year one is day zero. -/
def ordinal (date : Date) : Int :=
  daysBeforeYear date.year + daysBeforeMonth date.year date.month + (date.day - 1 : Nat)

/-- The days since the Monday of the week. The first day of year one is a Monday. -/
def weekday (date : Date) : Nat :=
  (date.ordinal % 7).toNat

/-- The next day. -/
def succ? (date : Date) : Option Date :=
  ofParts? date.year date.month (date.day + 1)
    <|> ofParts? date.year (date.month + 1) 1
    <|> ofParts? (date.year + 1) 1 1

/-- The day before. -/
def pred? (date : Date) : Option Date :=
  if 1 < date.day then ofParts? date.year date.month (date.day - 1)
  else if 1 < date.month then
    ofParts? date.year (date.month - 1) (daysInMonth date.year (date.month - 1))
  else ofParts? (date.year - 1) 12 31

/-- The date so many days later. -/
def later? : Nat → Date → Option Date
  | 0, date => some date
  | days + 1, date => date.succ?.bind (later? days)

/-- The date so many days earlier. -/
def earlier? : Nat → Date → Option Date
  | 0, date => some date
  | days + 1, date => date.pred?.bind (earlier? days)

/-- The date at a distance of so many days, negative ones lying before it. -/
def addDays? (date : Date) (days : Int) : Option Date :=
  if 0 ≤ days then later? days.toNat date else earlier? (-days).toNat date

/-- The first day of the month. -/
def firstOfMonth (date : Date) : Date where
  year := date.year
  month := date.month
  day := 1
  valid := by
    have hv := date.valid
    exact ⟨hv.1, hv.2.1, hv.2.2.1, hv.2.2.2.1, by decide, by omega⟩

/-- The first day of the year. -/
def firstOfYear (date : Date) : Date where
  year := date.year
  month := 1
  day := 1
  valid := by
    have hv := date.valid
    exact ⟨hv.1, hv.2.1, by decide, by decide, by decide, by simp [daysInMonth]⟩

end Date

end RecordFilter
