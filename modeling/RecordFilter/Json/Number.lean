import RecordFilter.Double.Decimal
import RecordFilter.Json.Basic

namespace RecordFilter

open Text

/-!
# JSON numbers

* `NumberToken` — the digits of a number as they stand in a text.
* `NumberToken.ofChars?` — reads a number.
* `NumberToken.value?` — the number itself.

The value of a number that is no integer is computed in two steps: its leading digits, as many as a 64
bit word holds, are rounded to a double, which is then scaled by a power of ten and rounded again. The
result can differ in the last place from the nearest double when there are more than fifteen digits.
-/

/-- The digits of a number. -/
structure NumberToken where
  /-- A minus sign comes first. -/
  negative : Bool
  /-- The digits before the point. -/
  whole : List Char
  /-- The digits after the point, if there is one. -/
  fraction : Option (List Char)
  /-- The exponent, if there is one. -/
  exponent : Option Int

namespace NumberToken

/-- The greatest value of a 64 bit word. -/
abbrev wordMax : Nat := UInt64.size - 1

/-- Appends digits to a number as long as it fits into a word: the number and how many digits it took
    in. Nothing after the first digit that does not fit is taken. -/
def absorb (word : Nat) : List Char → Nat × Nat
  | [] => (word, 0)
  | c :: rest =>
    if 10 * word + digitValue c ≤ wordMax then
      let (total, taken) := absorb (10 * word + digitValue c) rest
      (total, taken + 1)
    else (word, 0)

/-- The magnitude of a power of ten. -/
def powerOfTen (exponent : Nat) : Nat :=
  Double.nearest (Nat.pow 10 exponent) 1

/-- The magnitude of the product of two doubles. -/
def product (x y : Nat) : Nat :=
  Double.nearest (Double.units x * Double.units y) (Double.unitsPerOne * Double.unitsPerOne)

/-- The magnitude of the quotient of two doubles. -/
def quotient (x y : Nat) : Nat :=
  Double.nearest (Double.units x) (Double.units y)

/-- Divides by `10 ^ 308` so many times; zero stays zero. -/
def scaleDown : Nat → Nat → Nat
  | 0, magnitude => magnitude
  | steps + 1, magnitude =>
    if magnitude = 0 then 0 else scaleDown steps (quotient magnitude (powerOfTen 308))

/-- A double scaled by a power of ten, none if it becomes too great. -/
def scale? (magnitude : Nat) (exponent : Int) : Option Nat :=
  if magnitude = 0 then some 0
  else if 308 < exponent then none
  else if 0 ≤ exponent then
    let scaled := product magnitude (powerOfTen exponent.toNat)
    if scaled < Double.bound then some scaled else none
  else
    let steps := ((-exponent).toNat - 1) / 308
    some (quotient (scaleDown steps magnitude) (powerOfTen ((-exponent).toNat - 308 * steps)))

/-- The value of a number: an integer if it is written as one and fits into 64 bits, otherwise a double.
    A negative zero is a double, and a number beyond the doubles has no value. -/
def value? (token : NumberToken) : Option Json :=
  let (word, taken) := absorb 0 token.whole
  let (significand, places) := absorb word (token.fraction.getD [])
  let isInteger := token.fraction.isNone && token.exponent.isNone && taken == token.whole.length
  if isInteger && !token.negative then some (.int word)
  else if isInteger && word != 0 && Int64.minValue.toInt ≤ -(word : Int) then
    some (.int (-(word : Int)))
  else
    let exponent := token.exponent.getD 0 + (token.whole.length - taken : Nat) - places
    (scale? (Double.nearest significand 1) exponent).map fun magnitude =>
      .float (Double.ofMagnitude token.negative magnitude)

/-! ### Reading -/

/-- Reads a minus sign if there is one. -/
def readMinus : List Char → Bool × List Char
  | '-' :: rest => (true, rest)
  | text => (false, text)

/-- Reads the digits before the point. There is at least one, and no zero precedes another digit. -/
def readWhole? (text : List Char) : Option (List Char × List Char) :=
  match text.span isDigit with
  | ([], _) => none
  | ('0' :: _ :: _, _) => none
  | found => some found

/-- Reads a point and at least one digit, if there is a point. -/
def readFraction? : List Char → Option (Option (List Char) × List Char)
  | '.' :: rest =>
    match rest.span isDigit with
    | ([], _) => none
    | (digits, rest) => some (some digits, rest)
  | text => some (none, text)

/-- Reads an exponent mark, a sign and at least one digit, if there is a mark. -/
def readExponent? : List Char → Option (Option Int × List Char)
  | mark :: rest =>
    if mark = 'e' ∨ mark = 'E' then
      let (negative, rest) := readSign rest
      match rest.span isDigit with
      | ([], _) => none
      | (digits, rest) =>
        some (some (if negative then -(digitsValue digits : Int) else digitsValue digits), rest)
    else some (none, mark :: rest)
  | [] => some (none, [])

/-- The number that a text writes from its first to its last character. -/
def ofChars? (text : List Char) : Option NumberToken := do
  let (negative, text) := readMinus text
  let (whole, text) ← readWhole? text
  let (fraction, text) ← readFraction? text
  let (exponent, text) ← readExponent? text
  if text.isEmpty then some ⟨negative, whole, fraction, exponent⟩ else none

end NumberToken

end RecordFilter
