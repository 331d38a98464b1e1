import RecordFilter.Culture.Basic
import RecordFilter.Grammar.Span
import RecordFilter.Value.Basic

namespace RecordFilter

open Text

/-!
# Value tokens

* `Value.ofToken` — reads the token of a value with the conventions of a culture.
-/

namespace Value

/-- Undoes the doubling of quotes inside a string literal. -/
def unquote : List Char → List Char
  | '\'' :: '\'' :: rest => '\'' :: unquote rest
  | c :: rest => c :: unquote rest
  | [] => []

/-- The text of a string literal after its opening quote; the closing one has to be there. -/
def stringBody? (chars : List Char) : Option String :=
  if chars.getLast? = some '\'' then some (String.ofList (unquote chars.dropLast)) else none

/-- The text of a date literal after its opening delimiter, without the delimiters at its end. -/
def dateBody (chars : List Char) : List Char :=
  (chars.reverse.dropWhile (· == '#')).reverse

/-- Whether a token may be a number: after an optional sign it begins with a digit, a point or a
    comma. -/
def looksNumeric (chars : List Char) : Bool :=
  match (readSign chars).2 with
  | c :: _ => isDigit c || c == '.' || c == ','
  | [] => false

/-- The number that a token writes: an integer if it has no fraction and is not too large, otherwise a
    double. -/
def number? (culture : Culture) (chars : List Char) : Option Value :=
  let pointed := culture.pointed chars
  let whole := if culture.hasSeparator chars then none else (readInt? pointed).bind ofInt?
  whole <|> (Double.ofText? (String.ofList pointed)).map .float

/-- The words that stand for values. -/
def word? (chars : List Char) : Option Value :=
  if chars = "True".toList then some (.bool true)
  else if chars = "False".toList then some (.bool false)
  else if chars = "?".toList then some .null
  else if chars = "NaN".toList then some (.float .nan)
  else if chars = "Infinity".toList then some (.float (.infinity false))
  else if chars = "-Infinity".toList then some (.float (.infinity true))
  else none

/-- Reads the token of a value: a string between quotes, a word, a date between number signs, or a
    number. -/
def ofToken (culture : Culture) (token : Span) : Except FilterError Value :=
  match token.chars with
  | '\'' :: rest =>
    match stringBody? rest with
    | some text => .ok (.string text)
    | none => .error (token.fault .unterminatedString)
  | '#' :: rest =>
    match culture.dateTime? (dateBody rest) with
    | some moment => .ok (.dateTime moment)
    | none => .error (token.fault .invalidDateTime)
  | chars =>
    match word? chars <|> (if looksNumeric chars then number? culture chars else none) with
    | some value => .ok value
    | none => .error (token.fault .unknownValue)

end Value

end RecordFilter
