import RecordFilter.Calendar.DateTime
import RecordFilter.Calendar.Week

namespace RecordFilter

/-!
# Parts of a date

* `DateParts` — the parts found in a date text, which together make a date and perhaps a time.
* `DateParts.set?` — enters a part.
* `DateParts.date`, `DateParts.date?` — the date that the parts make.
* `DateParts.dateTime?` — the date-time that they make, with the help of a time stamp if there is one.
-/

/-- A part that a date text gives as a number. -/
inductive DateField where
  | year | century | yearOfCentury | isoYear | isoYearOfCentury
  | quarter | month | day | dayOfYear
  | weekFromSunday | weekFromMonday | isoWeek
  /-- The weekday, counted from Sunday as zero. -/
  | daysFromSunday
  /-- The weekday, counted from Monday as one. -/
  | weekday
  | hour
  /-- The hour of a clock face. -/
  | hour12
  | minute | second | nanosecond
  /-- Seconds from the first moment of 1970. -/
  | timestamp
deriving DecidableEq

/-- The parts read from a text so far. -/
structure DateParts where
  year : Option Int
  century : Option Nat
  yearOfCentury : Option Nat
  isoYear : Option Int
  isoYearOfCentury : Option Nat
  quarter : Option Nat
  month : Option Nat
  day : Option Nat
  dayOfYear : Option Nat
  weekFromSunday : Option Nat
  weekFromMonday : Option Nat
  isoWeek : Option Nat
  /-- The days since Monday. -/
  weekday : Option Nat
  /-- Zero in the morning and one from noon on. -/
  halfDay : Option Nat
  /-- Full hours of the half day. -/
  hour12 : Option Nat
  minute : Option Nat
  second : Option Nat
  nanosecond : Option Nat
  timestamp : Option Nat
  /-- Minutes that the clock is ahead of UTC. -/
  offset : Option Int
deriving DecidableEq

namespace DateParts

/-- No part is known. -/
def empty : DateParts where
  year := none
  century := none
  yearOfCentury := none
  isoYear := none
  isoYearOfCentury := none
  quarter := none
  month := none
  day := none
  dayOfYear := none
  weekFromSunday := none
  weekFromMonday := none
  isoWeek := none
  weekday := none
  halfDay := none
  hour12 := none
  minute := none
  second := none
  nanosecond := none
  timestamp := none
  offset := none

/-! ### Entering parts -/

/-- Enters a part. A part that is known already has to have the same value. -/
def agree {α : Type} [DecidableEq α] (known : Option α) (value : α) : Option (Option α) :=
  match known with
  | none => some (some value)
  | some old => if old = value then some (some old) else none

/-- Enters a part that has to lie between two bounds. -/
def within (low high : Nat) (known : Option Nat) (value : Int) : Option (Option Nat) :=
  if low ≤ value ∧ value ≤ high then agree known value.toNat else none

/-- Enters the hour of the day as half of the day and hour of that half. -/
def setHour? (parts : DateParts) (hour : Nat) : Option DateParts := do
  let halfDay ← agree parts.halfDay (hour / 12)
  let hour12 ← agree parts.hour12 (hour % 12)
  some { parts with halfDay := halfDay, hour12 := hour12 }

/-- Enters a half of the day. -/
def setHalfDay? (parts : DateParts) (half : Nat) : Option DateParts :=
  (agree parts.halfDay half).map fun v => { parts with halfDay := v }

/-- Enters the days since Monday. -/
def setWeekday? (parts : DateParts) (days : Nat) : Option DateParts :=
  (agree parts.weekday days).map fun v => { parts with weekday := v }

/-- Enters an offset from UTC. -/
def setOffset? (parts : DateParts) (minutes : Int) : Option DateParts :=
  (agree parts.offset minutes).map fun v => { parts with offset := v }

/-- The greatest time stamp. -/
abbrev maxTimestamp : Nat := 9223372036854775807

/-- Enters a numeric part. Hour twelve of a clock face is its first one, and second 60 is a leap
    second. -/
def set? (parts : DateParts) (field : DateField) (value : Int) : Option DateParts :=
  match field with
  | .year => (agree parts.year value).map fun v => { parts with year := v }
  | .century => (within 0 99 parts.century value).map fun v => { parts with century := v }
  | .yearOfCentury =>
    (within 0 99 parts.yearOfCentury value).map fun v => { parts with yearOfCentury := v }
  | .isoYear => (agree parts.isoYear value).map fun v => { parts with isoYear := v }
  | .isoYearOfCentury =>
    (within 0 99 parts.isoYearOfCentury value).map fun v => { parts with isoYearOfCentury := v }
  | .quarter => (within 1 4 parts.quarter value).map fun v => { parts with quarter := v }
  | .month => (within 1 12 parts.month value).map fun v => { parts with month := v }
  | .day => (within 1 31 parts.day value).map fun v => { parts with day := v }
  | .dayOfYear => (within 1 366 parts.dayOfYear value).map fun v => { parts with dayOfYear := v }
  | .weekFromSunday =>
    (within 0 53 parts.weekFromSunday value).map fun v => { parts with weekFromSunday := v }
  | .weekFromMonday =>
    (within 0 53 parts.weekFromMonday value).map fun v => { parts with weekFromMonday := v }
  | .isoWeek => (within 1 53 parts.isoWeek value).map fun v => { parts with isoWeek := v }
  | .daysFromSunday =>
    if 0 ≤ value ∧ value ≤ 6 then parts.setWeekday? ((value.toNat + 6) % 7) else none
  | .weekday => if 1 ≤ value ∧ value ≤ 7 then parts.setWeekday? (value.toNat - 1) else none
  | .hour => if 0 ≤ value ∧ value ≤ 23 then parts.setHour? value.toNat else none
  | .hour12 =>
    if 1 ≤ value ∧ value ≤ 12 then
      (agree parts.hour12 (value.toNat % 12)).map fun v => { parts with hour12 := v }
    else none
  | .minute => (within 0 59 parts.minute value).map fun v => { parts with minute := v }
  | .second => (within 0 60 parts.second value).map fun v => { parts with second := v }
  | .nanosecond =>
    (within 0 999999999 parts.nanosecond value).map fun v => { parts with nanosecond := v }
  | .timestamp =>
    (within 0 maxTimestamp parts.timestamp value).map fun v => { parts with timestamp := v }

/-! ### The date of the parts -/

/-- Why parts make no date. -/
inductive Fault where
  /-- They are too few to name one. -/
  | incomplete
  /-- They name no day that exists, or more than one. -/
  | contradictory
deriving DecidableEq

/-- The century of a year, from year zero on. -/
def centuryOf (year : Int) : Option Nat :=
  if 0 ≤ year then some (year / 100).toNat else none

/-- The year within its century, from year zero on. -/
def yearOfCenturyOf (year : Int) : Option Nat :=
  if 0 ≤ year then some (year % 100).toNat else none

/-- Whether a part is unknown or has the value given. -/
def Admits {α : Type} (known value : Option α) : Prop :=
  known = none ∨ known = value

instance {α : Type} [DecidableEq α] (known value : Option α) : Decidable (Admits known value) :=
  inferInstanceAs (Decidable (_ ∨ _))

/-- The year that a year, a century and a year of a century name together, if any of them is known. A
    year of a century alone is one from 1970 to 2069. -/
def fullYear (year : Option Int) (century yearOfCentury : Option Nat) :
    Except Fault (Option Int) :=
  match year, century, yearOfCentury with
  | year, none, none => .ok year
  | some year, century, yearOfCentury =>
    if Admits century (centuryOf year) ∧ Admits yearOfCentury (yearOfCenturyOf year) then
      .ok (some year)
    else .error .contradictory
  | none, some century, some yearOfCentury => .ok (some (100 * century + yearOfCentury))
  | none, none, some yearOfCentury =>
    .ok (some (if yearOfCentury < 70 then 2000 + yearOfCentury else 1900 + yearOfCentury))
  | none, some _, none => .error .incomplete

/-- Whether a date has all the parts that are known. -/
def Fits (parts : DateParts) (date : Date) : Prop :=
  Admits parts.year (some date.year) ∧ Admits parts.century (centuryOf date.year) ∧
    Admits parts.yearOfCentury (yearOfCenturyOf date.year) ∧
    Admits parts.isoYear (some date.isoYear) ∧
    Admits parts.isoYearOfCentury (yearOfCenturyOf date.isoYear) ∧
    Admits parts.quarter (some date.quarter) ∧ Admits parts.month (some date.month) ∧
    Admits parts.day (some date.day) ∧ Admits parts.dayOfYear (some date.yearDay) ∧
    Admits parts.weekFromSunday (some (date.weekOfYear Date.sunday)) ∧
    Admits parts.weekFromMonday (some (date.weekOfYear Date.monday)) ∧
    Admits parts.isoWeek (some date.isoWeek) ∧ Admits parts.weekday (some date.weekday)

instance (parts : DateParts) (date : Date) : Decidable (parts.Fits date) :=
  inferInstanceAs (Decidable (_ ∧ _))

/-- The day that the first group of parts names that is known in full, which need not exist. -/
def named? (parts : DateParts) (year isoYear : Option Int) : Option (Option Date) :=
  (do some (Date.ofParts? (← year) (← parts.month) (← parts.day)))
    <|> (do some (Date.ofYearDay? (← year) (← parts.dayOfYear)))
    <|> (do some (Date.ofWeek? Date.sunday (← year) (← parts.weekFromSunday) (← parts.weekday)))
    <|> (do some (Date.ofWeek? Date.monday (← year) (← parts.weekFromMonday) (← parts.weekday)))
    <|> (do some (Date.ofIsoWeek? (← isoYear) (← parts.isoWeek) (← parts.weekday)))

/-- The date that the parts name, if it has all of them. -/
def date (parts : DateParts) : Except Fault Date := do
  let year ← fullYear parts.year parts.century parts.yearOfCentury
  let isoYear ← fullYear parts.isoYear none parts.isoYearOfCentury
  match parts.named? year isoYear with
  | none => .error .incomplete
  | some none => .error .contradictory
  | some (some date) => if parts.Fits date then .ok date else .error .contradictory

/-- The date that the parts name, whatever else they are short of. -/
def date? (parts : DateParts) : Option Date :=
  parts.date.toOption

/-! ### The date-time of the parts -/

/-- The date-time on a day. Half of the day, hour and minute have to be known, a missing second is
    zero, and a fraction needs a second. -/
def dateTimeOn? (parts : DateParts) (date : Date) : Option DateTime := do
  let hour := 12 * (← parts.halfDay) + (← parts.hour12)
  let minute ← parts.minute
  match parts.second, parts.nanosecond with
  | none, none => DateTime.ofParts? date hour minute 0 0
  | none, some _ => none
  | some second, nanosecond =>
    let nanosecond := nanosecond.getD 0
    if second = 60 then DateTime.ofParts? date hour minute 59 (nanosecond + 1000000000)
    else DateTime.ofParts? date hour minute second nanosecond

/-- The number of the first day of 1970. -/
abbrev epoch : Int := 719162

/-- The seconds from the first moment of 1970 on, a leap second counted as the second before it. -/
def secondsSinceEpoch (moment : DateTime) : Int :=
  (moment.date.ordinal - epoch) * 86400 + moment.hour * 3600 + moment.minute * 60 + moment.second

/-- Whether a date-time has the time stamp that is known. A leap second may have that of the second
    before it or after it. -/
def FitsTimestamp (parts : DateParts) (moment : DateTime) : Prop :=
  ∀ timestamp ∈ parts.timestamp, (timestamp : Int) = secondsSinceEpoch moment ∨
    1000000000 ≤ moment.nanosecond ∧ (timestamp : Int) = secondsSinceEpoch moment + 1

instance (parts : DateParts) (moment : DateTime) : Decidable (parts.FitsTimestamp moment) :=
  inferInstanceAs (Decidable (∀ timestamp ∈ parts.timestamp, _))

/-- The parts with those of a moment entered that lies so many seconds after the first one of 1970. A
    leap second stays as it is. -/
def setMoment? (parts : DateParts) (seconds : Int) : Option DateParts := do
  let date ← Date.ofOrdinal? (epoch + seconds / 86400)
  let parts ← if parts.second = some 60 then some parts else parts.set? .second (seconds % 60)
  let parts ← parts.set? .year date.year
  let parts ← parts.set? .dayOfYear date.yearDay
  let parts ← parts.set? .hour (seconds / 3600 % 24)
  parts.set? .minute (seconds / 60 % 60)

/-- The date-time of the time stamp, if it has all the parts that are known. A leap second may have the
    time stamp of the second before it or after it. -/
def dateTimeOfTimestamp? (parts : DateParts) : Option DateTime := do
  let timestamp : Int := (← parts.timestamp)
  let seconds ←
    if parts.second = some 60 then
      if timestamp % 60 = 59 then some timestamp
      else if timestamp % 60 = 0 then some (timestamp - 1)
      else none
    else some timestamp
  let parts ← parts.setMoment? seconds
  parts.dateTimeOn? (← parts.date?)

/-- The date-time of the parts. A time stamp has to fit it, and makes one by itself where the other
    parts are too few. -/
def dateTime? (parts : DateParts) : Option DateTime :=
  match parts.date with
  | .error .contradictory => none
  | .error .incomplete => parts.dateTimeOfTimestamp?
  | .ok date =>
    match parts.dateTimeOn? date with
    | none => parts.dateTimeOfTimestamp?
    | some moment => if parts.FitsTimestamp moment then some moment else none

end DateParts

end RecordFilter
