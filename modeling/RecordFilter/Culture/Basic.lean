import RecordFilter.Calendar.Stamp
import RecordFilter.Text.Pieces

namespace RecordFilter

open Text

/-!
# Cultures

* `Culture` — the conventions for reading numbers and dates and for writing short dates.
* `Culture.standard` — the conventions of filter texts.
* `Culture.dateTime?` — reads a date or date-time.
* `Culture.shortDate`, `Culture.shortFragment` — a date without leading zeros, and a typed part of one
  brought to the same form.
-/

/-- The order of day, month and year in a short date. -/
inductive DateOrder where
  | dayMonthYear
  | monthDayYear
  | yearMonthDay
deriving DecidableEq

/-- The conventions for numbers and dates. -/
structure Culture where
  /-- The character between the whole part and the fraction of a number. -/
  decimalSeparator : Char
  /-- The character between the parts of a short date. -/
  dateSeparator : Char
  /-- The order of the parts of a short date. -/
  dateOrder : DateOrder
  /-- The formats of date texts in the order in which they are tried, written as for `strftime`. -/
  dateFormats : List String
deriving DecidableEq

namespace Culture

/-- The conventions of filter texts. -/
def standard : Culture where
  decimalSeparator := '.'
  dateSeparator := '.'
  dateOrder := .dayMonthYear
  dateFormats :=
    ["%Y-%m-%d %H:%M:%S%.f", "%Y-%m-%dT%H:%M:%S%.f", "%Y-%m-%d", "%d.%m.%Y %H:%M:%S", "%d.%m.%Y",
     "%Y/%m/%d %H:%M:%S", "%Y/%m/%d"]

/-! ### Reading dates -/

/-- Reads a text by one format; a date without a time stands for its first moment. -/
def dateTimeByFormat? (text : List Char) (format : String) : Option DateTime :=
  ((DatePattern.ofFormat format.toList).read? text).bind fun parts =>
    parts.dateTime? <|> parts.date?.map DateTime.midnight

/-- Reads a date or a date-time, blanks around it not counted: a time stamp with an offset, or else
    by the first of the formats that fits. -/
def dateTime? (culture : Culture) (text : List Char) : Option DateTime :=
  let text := trim text
  DateTime.ofRfc3339? text <|> culture.dateFormats.findSome? (dateTimeByFormat? text)

/-! ### Numbers -/

/-- A number token with a point for the decimal separator. -/
def pointed (culture : Culture) (token : List Char) : List Char :=
  token.map fun c => if c = culture.decimalSeparator then '.' else c

/-- Whether a number token has a decimal separator or a point. -/
def hasSeparator (culture : Culture) (token : List Char) : Bool :=
  token.contains culture.decimalSeparator || token.contains '.'

/-! ### Short dates -/

/-- The parts of a date in the culture's order. -/
def dateParts (culture : Culture) (date : Date) : List (List Char) :=
  match culture.dateOrder with
  | .dayMonthYear => [natChars date.day, natChars date.month, intChars date.year]
  | .monthDayYear => [natChars date.month, natChars date.day, intChars date.year]
  | .yearMonthDay => [intChars date.year, natChars date.month, natChars date.day]

/-- A date without leading zeros, such as `12.6.2024`. -/
def shortDate (culture : Culture) (date : Date) : String :=
  String.ofList ([culture.dateSeparator].intercalate (culture.dateParts date))

/-- A number without its leading zeros; of zeros alone one stays. -/
def withoutZeros (digits : List Char) : List Char :=
  match digits, digits.dropWhile (· == '0') with
  | _ :: _, [] => ['0']
  | _, rest => rest

/-- A part of a typed date, each number without its leading zeros, so that it can be found in a short
    date. -/
def shortFragment (culture : Culture) (fragment : String) : String :=
  String.ofList ([culture.dateSeparator].intercalate
    ((splitOn culture.dateSeparator fragment.toList).map withoutZeros))

end Culture

end RecordFilter
