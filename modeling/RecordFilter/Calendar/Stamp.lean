import RecordFilter.Calendar.Format

namespace RecordFilter

open Text

/-!
# Date-times of a fixed form

* `DateTime.ofIso?` — reads a date-time without an offset that has the form of ISO 8601 or nearly so.
* `DateTime.ofRfc3339?` — reads a time stamp with an offset.
-/

/-- The form of ISO 8601, read leniently: a `T` between date and time, seconds required, but numbers may
    be shorter, a year may have a sign, and blanks may stand between the parts. -/
def DatePattern.iso : DatePattern :=
  looseDate ++ [.blanks, .literal 'T'] ++ looseClock

/-- Reads a date-time without an offset by the lenient form of ISO 8601, so that `2024-6-2T1:2:3` is one
    as well. -/
def DateTime.ofIso? (text : List Char) : Option DateTime :=
  (DatePattern.iso.read? text).bind DateParts.dateTime?

/-! ### Time stamps with an offset -/

namespace Rfc3339

open DatePattern

/-- Reads a number of so many digits into a field. -/
def readPart? (parts : DateParts) (field : DateField) (count : Nat) (text : List Char) :
    Option (DateParts × List Char) :=
  enter? (readFixed? count text) fun value => parts.set? field value

/-- Whether a text is an offset: `Z`, or a sign and hours and minutes of less than a day. -/
def isOffset : List Char → Bool
  | ['Z'] => true
  | ['z'] => true
  | sign :: digits =>
    (sign == '+' || sign == '-' || sign == '\u2212') &&
      (match digits with
      | [h, h', ':', m, m'] =>
        [h, h', m, m'].all isDigit && digitsValue [h, h'] < 24 && digitsValue [m, m'] < 60
      | _ => false)
  | [] => false

/-- Reads the parts before the offset, which is the text left over. -/
def readParts? (text : List Char) : Option (DateParts × List Char) := do
  let (parts, text) ← readPart? DateParts.empty .year 4 text
  let text ← readOneOf? ['-'] text
  let (parts, text) ← readPart? parts .month 2 text
  let text ← readOneOf? ['-'] text
  let (parts, text) ← readPart? parts .day 2 text
  let text ← readOneOf? ['T', 't', ' '] text
  let (parts, text) ← readPart? parts .hour 2 text
  let text ← readOneOf? [':'] text
  let (parts, text) ← readPart? parts .minute 2 text
  let text ← readOneOf? [':'] text
  let (parts, text) ← readPart? parts .second 2 text
  readItem? .fraction parts text

end Rfc3339

/-- Reads an RFC 3339 time stamp. The offset has to be there and to be valid; the answer is the time on
    the clock at that offset. -/
def DateTime.ofRfc3339? (text : List Char) : Option DateTime := do
  let (parts, offset) ← Rfc3339.readParts? text
  if Rfc3339.isOffset offset then parts.dateTime? else none

end RecordFilter
