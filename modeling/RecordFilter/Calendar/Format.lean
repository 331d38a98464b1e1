import RecordFilter.Calendar.Pattern

namespace RecordFilter

open Text

/-!
# Date formats

* `DatePattern.ofFormat` — the pattern that a format such as `%d.%m.%Y %H:%M` describes.

The language of formats is that of `strftime` as the calendar library reads it: numbers with or without
a padding mark, names, fractions of a second, offsets, and the specifiers that stand for several others.
-/

namespace DatePattern

/-! ### Patterns of several parts -/

/-- Hours of the day or of a clock face, minutes and seconds, with colons between them. -/
def clock (hours : DateField) : DatePattern :=
  [.number hours, .literal ':', .number .minute, .literal ':', .number .second]

/-- A date of numbers, month first, the year without its century. -/
def slashed : DatePattern :=
  [.number .month, .literal '/', .number .day, .literal '/', .number .yearOfCentury]

/-- A date of numbers, year first, blanks allowed after each of the first two. -/
def looseDate : DatePattern :=
  [.number .year, .blanks, .literal '-', .number .month, .blanks, .literal '-', .number .day]

/-- A time to the fraction of a second, blanks allowed after each number. -/
def looseClock : DatePattern :=
  [.number .hour, .blanks, .literal ':', .number .minute, .blanks, .literal ':', .number .second,
   .fraction, .blanks]

/-! ### Specifiers -/

/-- The field of a specifier for a number. -/
def numeric? : Char → Option DateField
  | 'Y' => some .year
  | 'C' => some .century
  | 'y' => some .yearOfCentury
  | 'G' => some .isoYear
  | 'g' => some .isoYearOfCentury
  | 'q' => some .quarter
  | 'm' => some .month
  | 'd' | 'e' => some .day
  | 'j' => some .dayOfYear
  | 'U' => some .weekFromSunday
  | 'W' => some .weekFromMonday
  | 'V' => some .isoWeek
  | 'w' => some .daysFromSunday
  | 'u' => some .weekday
  | 'H' | 'k' => some .hour
  | 'I' | 'l' => some .hour12
  | 'M' => some .minute
  | 'S' => some .second
  | 'f' => some .nanosecond
  | 's' => some .timestamp
  | _ => none

/-- The part of a specifier with a padding mark, which only numbers have. -/
def paddedItem (c : Char) : Item :=
  match numeric? c with
  | some field => .number field
  | none => .never

/-- The parts of a specifier of one character. -/
def specifier : Char → DatePattern
  | 'b' | 'h' => [.monthName false]
  | 'B' => [.monthName true]
  | 'a' => [.weekdayName false]
  | 'A' => [.weekdayName true]
  | 'p' | 'P' => [.halfDay]
  | 'z' => [.offset .minutes]
  | 'Z' => [.zoneName]
  | 'n' | 't' => [.blanks]
  | '%' => [.literal '%']
  | 'D' | 'x' => slashed
  | 'F' => [.number .year, .literal '-', .number .month, .literal '-', .number .day]
  | 'v' => [.number .day, .literal '-', .monthName false, .literal '-', .number .year]
  | 'R' => [.number .hour, .literal ':', .number .minute]
  | 'T' | 'X' => clock .hour
  | 'r' => clock .hour12 ++ [.blanks, .halfDay]
  | 'c' =>
    [.weekdayName false, .blanks, .monthName false, .blanks, .number .day, .blanks]
      ++ clock .hour ++ [.blanks, .number .year]
  | '+' => looseDate ++ .oneOf ['T', 't', ' '] :: looseClock ++ [.offset .universal]
  | c => [paddedItem c]

/-- The pattern of a format text. A percent sign introduces a specifier, blanks match any blanks, and
    every other character stands for itself. -/
def ofFormat : List Char → DatePattern
  | [] => []
  | '%' :: '.' :: 'f' :: rest => .fraction :: ofFormat rest
  | '%' :: '.' :: '3' :: 'f' :: rest => .fixedFraction 3 :: ofFormat rest
  | '%' :: '.' :: '6' :: 'f' :: rest => .fixedFraction 6 :: ofFormat rest
  | '%' :: '.' :: '9' :: 'f' :: rest => .fixedFraction 9 :: ofFormat rest
  | '%' :: '3' :: 'f' :: rest => .bareFraction 3 :: ofFormat rest
  | '%' :: '6' :: 'f' :: rest => .bareFraction 6 :: ofFormat rest
  | '%' :: '9' :: 'f' :: rest => .bareFraction 9 :: ofFormat rest
  | '%' :: ':' :: 'z' :: rest => .offset .minutes :: ofFormat rest
  | '%' :: ':' :: ':' :: 'z' :: rest => .offset .minutes :: ofFormat rest
  | '%' :: ':' :: ':' :: ':' :: 'z' :: rest => .offset .minutes :: ofFormat rest
  | '%' :: '#' :: 'z' :: rest => .offset .hours :: ofFormat rest
  | '%' :: '-' :: c :: rest => paddedItem c :: ofFormat rest
  | '%' :: '_' :: c :: rest => paddedItem c :: ofFormat rest
  | '%' :: '0' :: c :: rest => paddedItem c :: ofFormat rest
  | '%' :: c :: rest => specifier c ++ ofFormat rest
  | ['%'] => [.never]
  | c :: rest => (if isBlank c then .blanks else .literal c) :: ofFormat rest

/-- Date and time by one specifier each are read as number by number. -/
example : ofFormat "%F %T%.f".toList = ofFormat "%Y-%m-%d %H:%M:%S%.f".toList := by
  decide +kernel

end DatePattern

end RecordFilter
