import RecordFilter.Calendar.DateTime
import RecordFilter.Double.Notation

namespace RecordFilter

open Text

/-!
# Values

* `Value` — a scalar that a filter compares a property with.
* `Value.plainText?` — its text as such.
* `Value.text` — its token in filter texts, from which it can be read back.
-/

/-- A scalar operand of a filter. -/
inductive Value where
  | null
  | bool (value : Bool)
  | int (value : Int64)
  | float (value : Double)
  | dateTime (value : DateTime)
  | string (value : String)
deriving DecidableEq

namespace Value

/-- The integer value of a number, if it fits into 64 bits with a sign. -/
def ofInt? (number : Int) : Option Value :=
  if Int64.minValue.toInt ≤ number ∧ number ≤ Int64.maxValue.toInt then
    some (.int (Int64.ofInt number))
  else none

/-- The value of an integer: itself if it fits into 64 bits, otherwise a double. -/
def ofNumber (number : Int) : Value :=
  (ofInt? number).getD (.float (Double.ofInt number))

/-- Whether the value is null. -/
def isNull : Value → Bool
  | .null => true
  | _ => false

/-- The text of a string value. -/
def string? : Value → Option String
  | .string value => some value
  | _ => none

/-- What kind of value it is, for messages. -/
def kindName : Value → String
  | .null => "null"
  | .bool _ => "boolean"
  | .int _ => "integer"
  | .float _ => "float"
  | .dateTime _ => "date/time"
  | .string _ => "string"

/-- The text of a value without the delimiters of the filter language. Null has none. -/
def plainText? : Value → Option String
  | .null => none
  | .bool value => some (if value then "True" else "False")
  | .int value => some (String.ofList (intChars value.toInt))
  | .float value => some value.literalText
  | .dateTime value => some value.plainText
  | .string value => some value

/-- The characters of a string literal: quotes around it, and quotes inside written twice. -/
def quotedChars (text : List Char) : List Char :=
  '\'' :: (text.flatMap (fun c => if c = '\'' then ['\'', '\''] else [c]) ++ ['\''])

/-- The characters of the token that stands for a value. -/
def chars : Value → List Char
  | .null => ['?']
  | .bool value => if value then ['T', 'r', 'u', 'e'] else ['F', 'a', 'l', 's', 'e']
  | .int value => intChars value.toInt
  | .float value => value.literalText.toList
  | .dateTime value => '#' :: (value.text ' ' ++ ['#'])
  | .string value => quotedChars value.toList

/-- The token that stands for a value in filter texts. -/
def text (value : Value) : String :=
  String.ofList value.chars

end Value

end RecordFilter
