import RecordFilter.Text.CodeSet

namespace RecordFilter.Text

/-!
# Blanks and trimming

* `isBlank` — the white space characters of Unicode.
* `trimStart`, `trimEnd`, `trim` — drop the blanks at one end or at both.
-/

/-- The characters with the Unicode property `White_Space`. -/
def blanks : CodeSet :=
  [(0x9, 0xD), (0x20, 0x20), (0x85, 0x85), (0xA0, 0xA0), (0x1680, 0x1680), (0x2000, 0x200A),
   (0x2028, 0x2029), (0x202F, 0x202F), (0x205F, 0x205F), (0x3000, 0x3000)]

/-- A white space character. -/
def isBlank (c : Char) : Bool :=
  blanks.contains c

/-- A text without its leading blanks. -/
def trimStart (text : List Char) : List Char :=
  text.dropWhile isBlank

/-- A text without its trailing blanks. -/
def trimEnd (text : List Char) : List Char :=
  (text.reverse.dropWhile isBlank).reverse

/-- A text without the blanks at both ends. -/
def trim (text : List Char) : List Char :=
  trimEnd (trimStart text)

/-- A text that holds nothing but blanks. -/
def allBlank (text : List Char) : Bool :=
  text.all isBlank

end RecordFilter.Text
