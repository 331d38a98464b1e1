import RecordFilter.Error
import RecordFilter.Text.Blank

namespace RecordFilter

open Text

/-!
# Stretches of a filter text

* `byteLength` — the length of a text in bytes.
* `Span` — a stretch of a text and the byte position at which it begins.
* `Span.fault`, `Span.faultAhead` — a parse error at a stretch.

Every operation keeps the position in step with the characters, so that an error can always say where
its fragment stands.
-/

/-- The length of a text in UTF-8 bytes. -/
def byteLength : List Char → Nat
  | [] => 0
  | c :: rest => c.utf8Size + byteLength rest

/-- A stretch of a text and the byte position at which it begins. -/
structure Span where
  /-- The byte position of the first character. -/
  start : Nat
  /-- The characters. -/
  chars : List Char
deriving DecidableEq

namespace Span

/-- A whole text. -/
def ofString (text : String) : Span :=
  ⟨0, text.toList⟩

/-- The stretch without its first characters. -/
def drop (span : Span) (count : Nat) : Span :=
  ⟨span.start + byteLength (span.chars.take count), span.chars.drop count⟩

/-- The stretch without the longest run of such characters at its beginning. -/
def dropWhile (span : Span) (p : Char → Bool) : Span :=
  ⟨span.start + byteLength (span.chars.takeWhile p), span.chars.dropWhile p⟩

/-- The stretch without leading blanks. -/
def skipBlanks (span : Span) : Span :=
  span.dropWhile isBlank

/-- The stretch without blanks at both ends. -/
def trim (span : Span) : Span :=
  let trimmed := span.skipBlanks
  ⟨trimmed.start, trimEnd trimmed.chars⟩

/-- The text of the stretch. -/
def text (span : Span) : String :=
  String.ofList span.chars

/-- A parse error about the whole stretch. -/
def fault (span : Span) (fault : ParseFault) : FilterError :=
  .parse fault span.text span.start

/-- How many characters of the remaining text an error shows. -/
def shownLength : Nat := 32

/-- A parse error at the beginning of what is left of a text. -/
def faultAhead (span : Span) (fault : ParseFault) : FilterError :=
  .parse fault (String.ofList (span.chars.take shownLength)) span.start

/-- Without blanks a stretch is no longer than before. -/
theorem length_skipBlanks_le (span : Span) :
    span.skipBlanks.chars.length ≤ span.chars.length :=
  (List.dropWhile_sublist _).length_le

/-- What follows the first character that is no blank is shorter than the stretch. -/
theorem length_lt_of_skipBlanks {span : Span} {c : Char} {rest : List Char}
    (h : span.skipBlanks.chars = c :: rest) : rest.length < span.chars.length := by
  have := span.length_skipBlanks_le
  rw [h, List.length_cons] at this
  omega

end Span

end RecordFilter
