import RecordFilter.Calendar.Stamp
import RecordFilter.Json.Text
import RecordFilter.Value.Basic

namespace RecordFilter

/-!
# Values in JSON

* `Value.toJson` — a value as a JSON scalar; dates become ISO 8601 strings.
* `Value.ofJson?` — the value that a JSON scalar stands for.

JSON has no dates: a string that reads as a date-time of the lenient ISO 8601 form (`DateTime.ofIso?`) is
one.
-/

namespace Value

/-- A value as a JSON scalar. -/
def toJson : Value → Json
  | .null => .null
  | .bool value => .bool value
  | .int value => .int value.toInt
  | .float value => .float value
  | .dateTime value => .string value.isoText
  | .string value => .string value

/-- The value that a JSON scalar stands for. A string stands for a date-time if it reads as one, whether
    or not it was meant as one; arrays and objects stand for nothing. -/
def ofJson? : Json → Option Value
  | .null => some .null
  | .bool value => some (.bool value)
  | .int number => some (ofNumber number)
  | .float number => some (.float number)
  | .string text =>
    match DateTime.ofIso? text.toList with
    | some moment => some (.dateTime moment)
    | none => some (.string text)
  | .array _ => none
  | .object _ => none

end Value

end RecordFilter
