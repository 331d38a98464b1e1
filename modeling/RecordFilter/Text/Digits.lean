namespace RecordFilter.Text

/-!
# Decimal digits

* `isDigit`, `digitsValue` — the digits, and the number that a run of them writes.
* `natChars`, `intChars` — the written form of a number.
* `readInt?` — reads an integer with an optional sign.
-/

/-- A decimal digit. -/
def isDigit (c : Char) : Bool :=
  '0' ≤ c && c ≤ '9'

/-- The number that a decimal digit stands for. -/
def digitValue (c : Char) : Nat :=
  c.toNat - '0'.toNat

/-- The number that a run of decimal digits writes. -/
def digitsValue (digits : List Char) : Nat :=
  digits.foldl (fun value c => 10 * value + digitValue c) 0

/-- The decimal digits of a natural number. -/
def natChars (value : Nat) : List Char :=
  Nat.toDigits 10 value

/-- The written form of an integer, with a minus sign if it is negative. -/
def intChars (value : Int) : List Char :=
  if value < 0 then '-' :: natChars value.natAbs else natChars value.natAbs

/-- Reads an optional sign; the answer says whether it is a minus. -/
def readSign : List Char → Bool × List Char
  | '-' :: rest => (true, rest)
  | '+' :: rest => (false, rest)
  | text => (false, text)

/-- Reads an integer: an optional sign and at least one digit, nothing else. -/
def readInt? (text : List Char) : Option Int :=
  let (negative, digits) := readSign text
  if digits.isEmpty || !digits.all isDigit then none
  else some (if negative then -(digitsValue digits : Int) else digitsValue digits)

end RecordFilter.Text
