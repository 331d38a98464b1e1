import RecordFilter.Calendar.Parts
import RecordFilter.Text.Blank
import RecordFilter.Text.Digits

namespace RecordFilter

open Text

/-!
# Date patterns

* `DatePattern` — what a date text looks like, part by part.
* `DatePattern.readItem?` — reads one part of a text.
* `DatePattern.read?` — reads a whole text by a pattern.
-/

/-- The texts that stand for an offset from UTC. -/
inductive DatePattern.OffsetForm where
  /-- A sign, hours and minutes. -/
  | minutes
  /-- A sign, hours and perhaps minutes, or `Z`. -/
  | hours
  /-- A sign, hours and minutes, or `Z`, or `UTC`. -/
  | universal
deriving DecidableEq

/-- One part of a date pattern. -/
inductive DatePattern.Item where
  /-- A number, blanks before it skipped. -/
  | number (field : DateField)
  /-- The name of a month, of three letters or, if long names are allowed, in full. -/
  | monthName (long : Bool)
  /-- The name of a weekday, of three letters or, if long names are allowed, in full. -/
  | weekdayName (long : Bool)
  /-- `am` or `pm`. -/
  | halfDay
  /-- A point and the digits of a second's fraction, or nothing. -/
  | fraction
  /-- A point and so many digits of a second's fraction, or nothing. -/
  | fixedFraction (digits : Nat)
  /-- So many digits of a second's fraction, without a point. -/
  | bareFraction (digits : Nat)
  /-- An offset from UTC, blanks before it skipped. -/
  | offset (form : OffsetForm)
  /-- The name of a time zone, which is whatever stands before the next blank. -/
  | zoneName
  /-- Any blanks, none included. -/
  | blanks
  /-- This character. -/
  | literal (c : Char)
  /-- One of these characters. -/
  | oneOf (choices : List Char)
  /-- Nothing matches: the format is malformed. -/
  | never
deriving DecidableEq

/-- A sequence of parts. -/
abbrev DatePattern := List DatePattern.Item

namespace DatePattern

/-! ### Numbers -/

/-- Reads at least one and at most `most` digits. -/
def readDigits? (most : Nat) (text : List Char) : Option (Nat × List Char) :=
  let digits := (text.takeWhile isDigit).take most
  if digits.isEmpty then none else some (digitsValue digits, text.drop digits.length)

/-- Reads a number of exactly so many digits. -/
def readFixed? (count : Nat) (text : List Char) : Option (Nat × List Char) :=
  let digits := text.take count
  if digits.length = count ∧ digits.all isDigit then
    some (digitsValue digits, text.drop count)
  else none

/-- Reads a number of at most so many digits. -/
def readNumber? (most : Nat) (text : List Char) : Option (Int × List Char) :=
  (readDigits? most text).map fun (value, rest) => ((value : Int), rest)

/-- Reads a year of one to four digits, or of any number of digits after a sign. -/
def readYear? : List Char → Option (Int × List Char)
  | '-' :: rest => (readNumber? rest.length rest).map fun (value, rest) => (-value, rest)
  | '+' :: rest => readNumber? rest.length rest
  | text => readNumber? 4 text

/-- Reads the number of a field. A time stamp may have any number of digits. -/
def readField? (field : DateField) (text : List Char) : Option (Int × List Char) :=
  match field with
  | .year | .isoYear => readYear? text
  | .quarter | .daysFromSunday | .weekday => readNumber? 1 text
  | .dayOfYear => readNumber? 3 text
  | .nanosecond => readNumber? 9 text
  | .timestamp => readNumber? text.length text
  | _ => readNumber? 2 text

/-- Reads the digits of a second's fraction as nanoseconds; digits after the ninth do not count. -/
def readNanoseconds? (text : List Char) : Option (Nat × List Char) :=
  let digits := text.takeWhile isDigit
  let counted := digits.take 9
  if digits.isEmpty then none
  else some (digitsValue counted * Nat.pow 10 (9 - counted.length), text.drop digits.length)

/-- Reads exactly so many digits of a second's fraction as nanoseconds. -/
def readFraction? (count : Nat) (text : List Char) : Option (Nat × List Char) :=
  (readFixed? count text).map fun (value, rest) => (value * Nat.pow 10 (9 - count), rest)

/-! ### Names -/

/-- The months from January on. -/
def months : List String :=
  ["january", "february", "march", "april", "may", "june", "july", "august", "september", "october",
   "november", "december"]

/-- The days of a week from Monday on. -/
def weekdays : List String :=
  ["monday", "tuesday", "wednesday", "thursday", "friday", "saturday", "sunday"]

/-- Reads a word of small letters, which may be capital ones in the text. -/
def readWord? (word text : List Char) : Option (List Char) :=
  if (text.take word.length).map Char.toLower = word then some (text.drop word.length) else none

/-- Reads the first three letters of one of the names, and the others if they follow and long names are
    allowed. The answer is the place of the name among them. -/
def readName? (names : List String) (long : Bool) (text : List Char) : Option (Nat × List Char) :=
  names.zipIdx.findSome? fun (name, place) => do
    let rest ← readWord? (name.toList.take 3) text
    some (place, if long then (readWord? (name.toList.drop 3) rest).getD rest else rest)

/-- Reads a half of the day, the afternoon as one. -/
def readHalfDay? (text : List Char) : Option (Nat × List Char) :=
  (readWord? ['a', 'm'] text).map (fun rest => (0, rest))
    <|> (readWord? ['p', 'm'] text).map (fun rest => (1, rest))

/-! ### Characters and offsets -/

/-- Reads one of the given characters. -/
def readOneOf? (choices : List Char) : List Char → Option (List Char)
  | c :: rest => if c ∈ choices then some rest else none
  | [] => none

/-- Reads a sign, also a typographic minus; the answer is one or minus one. -/
def readOffsetSign? : List Char → Option (Int × List Char)
  | '+' :: rest => some (1, rest)
  | '-' :: rest => some (-1, rest)
  | '\u2212' :: rest => some (-1, rest)
  | _ => none

/-- Reads a sign, hours and minutes, colons and blanks between them skipped, as minutes. -/
def readMinutes? (required : Bool) (text : List Char) : Option (Int × List Char) := do
  let (sign, text) ← readOffsetSign? text
  let (hours, text) ← readFixed? 2 text
  let text := text.dropWhile fun c => c == ':' || isBlank c
  if text.isEmpty && !required then some (sign * (60 * hours), text)
  else do
    let (minutes, text) ← readFixed? 2 text
    if minutes < 60 then some (sign * (60 * hours + minutes), text) else none

/-- Reads an offset from UTC as minutes. -/
def readOffset? (form : OffsetForm) (text : List Char) : Option (Int × List Char) :=
  match form with
  | .minutes => readMinutes? true text
  | .hours => (readWord? ['z'] text).map (fun rest => (0, rest)) <|> readMinutes? false text
  | .universal =>
    (readWord? ['u', 't', 'c'] text).map (fun rest => (0, rest))
      <|> (readWord? ['z'] text).map (fun rest => (0, rest))
      <|> readMinutes? true text

/-! ### Reading by a pattern -/

/-- Enters what was read at the front of a text. -/
def enter? {α : Type} (found : Option (α × List Char)) (set : α → Option DateParts) :
    Option (DateParts × List Char) := do
  let (value, rest) ← found
  some (← set value, rest)

/-- Reads one part of a pattern. -/
def readItem? (item : Item) (parts : DateParts) (text : List Char) :
    Option (DateParts × List Char) :=
  match item with
  | .number field => enter? (readField? field (trimStart text)) (parts.set? field)
  | .monthName long => enter? (readName? months long text) fun place => parts.set? .month (place + 1)
  | .weekdayName long => enter? (readName? weekdays long text) parts.setWeekday?
  | .halfDay => enter? (readHalfDay? text) parts.setHalfDay?
  | .fraction =>
    match text with
    | '.' :: digits => enter? (readNanoseconds? digits) fun value => parts.set? .nanosecond value
    | _ => some (parts, text)
  | .fixedFraction count =>
    match text with
    | '.' :: digits => enter? (readFraction? count digits) fun value => parts.set? .nanosecond value
    | _ => some (parts, text)
  | .bareFraction count => enter? (readFraction? count text) fun value => parts.set? .nanosecond value
  | .offset form => enter? (readOffset? form (trimStart text)) parts.setOffset?
  | .zoneName => some (parts, text.dropWhile fun c => !isBlank c)
  | .blanks => some (parts, trimStart text)
  | .literal c => (readOneOf? [c] text).map fun rest => (parts, rest)
  | .oneOf choices => (readOneOf? choices text).map fun rest => (parts, rest)
  | .never => none

/-- Reads a whole text by a pattern: every part in turn, and nothing may be left over. -/
def readFrom? : DatePattern → DateParts → List Char → Option DateParts
  | [], parts, text => if text.isEmpty then some parts else none
  | item :: rest, parts, text => (readItem? item parts text).bind fun (parts, text) =>
    readFrom? rest parts text

/-- The parts of a date text that has the form of the pattern. -/
def read? (pattern : DatePattern) (text : List Char) : Option DateParts :=
  pattern.readFrom? DateParts.empty text

end DatePattern

end RecordFilter
