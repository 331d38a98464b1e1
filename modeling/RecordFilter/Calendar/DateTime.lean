import RecordFilter.Calendar.Date
import RecordFilter.Text.Digits

namespace RecordFilter

open Text

/-!
# Date-times

* `DateTime` — a date and a time of day, without a time zone.
* `DateTime.rank` — an integer that orders the date-times.
* `DateTime.text` — the written form, `2024-06-12 13:45:00.250`.
-/

namespace DateTime

/-- The parts that make a time of day. The nanoseconds pass a full second within a leap second, which
    follows second 59. Leap seconds elsewhere are left out: no date text can name one, although the calendar
    library lets a program set the nanoseconds of any second so. -/
abbrev ValidTime (hour minute second nanosecond : Nat) : Prop :=
  hour < 24 ∧ minute < 60 ∧ second < 60 ∧
    (nanosecond < 1000000000 ∨ (second = 59 ∧ nanosecond < 2000000000))

end DateTime

/-- A date and a time of day. -/
structure DateTime where
  /-- The day. -/
  date : Date
  /-- Full hours of the day. -/
  hour : Nat
  /-- Full minutes of the hour. -/
  minute : Nat
  /-- Full seconds of the minute. -/
  second : Nat
  /-- Nanoseconds of the second; a leap second counts on from second 59. -/
  nanosecond : Nat
  /-- The parts name a time that exists. -/
  valid : DateTime.ValidTime hour minute second nanosecond
deriving DecidableEq

namespace DateTime

/-- The date-time with the given time of day, if there is one. -/
def ofParts? (date : Date) (hour minute second nanosecond : Nat) : Option DateTime :=
  if h : ValidTime hour minute second nanosecond then
    some ⟨date, hour, minute, second, nanosecond, h⟩
  else none

/-- The first moment of a day. -/
def midnight (date : Date) : DateTime :=
  ⟨date, 0, 0, 0, 0, by decide⟩

/-- The place of a date-time in time: days, then seconds, then nanoseconds, a leap second being part
    of the second before it. -/
def rank (moment : DateTime) : Int :=
  (moment.date.ordinal * 86400 + moment.hour * 3600 + moment.minute * 60 + moment.second)
      * 2000000000
    + moment.nanosecond

/-! ### Written form -/

/-- A number with zeros in front up to the given width. -/
def padded (width number : Nat) : List Char :=
  let digits := natChars number
  List.replicate (width - digits.length) '0' ++ digits

/-- A year: four digits, and a sign in front when it is negative or needs more. -/
def yearText (year : Int) : List Char :=
  if year < 0 then '-' :: padded 4 year.natAbs
  else if year ≤ 9999 then padded 4 year.natAbs
  else '+' :: padded 4 year.natAbs

/-- The fraction of a second with as many groups of three digits as it needs, none for zero. -/
def fractionText (nanosecond : Nat) : List Char :=
  if nanosecond = 0 then []
  else if nanosecond % 1000000 = 0 then '.' :: padded 3 (nanosecond / 1000000)
  else if nanosecond % 1000 = 0 then '.' :: padded 6 (nanosecond / 1000)
  else '.' :: padded 9 nanosecond

/-- A date as year, month and day. -/
def dateText (date : Date) : List Char :=
  yearText date.year ++ '-' :: padded 2 date.month ++ '-' :: padded 2 date.day

/-- A date-time with the given character between date and time. A leap second is second 60. -/
def text (separator : Char) (moment : DateTime) : List Char :=
  dateText moment.date ++ separator :: padded 2 moment.hour ++ ':' :: padded 2 moment.minute ++
    ':' :: padded 2 (moment.second + moment.nanosecond / 1000000000) ++
    fractionText (moment.nanosecond % 1000000000)

/-- The form of filter texts, with a space between date and time. -/
def plainText (moment : DateTime) : String :=
  String.ofList (moment.text ' ')

/-- The ISO 8601 form, with a `T` between date and time. -/
def isoText (moment : DateTime) : String :=
  String.ofList (moment.text 'T')

end DateTime

end RecordFilter
