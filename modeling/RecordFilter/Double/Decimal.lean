import RecordFilter.Double.Basic
import RecordFilter.Text.Digits

namespace RecordFilter

open Text

/-!
# Doubles and decimal numbers

* `Decimal` — a decimal number `digits · 10 ^ exponent`.
* `Double.ofDecimal` — the double nearest to a decimal number.
* `Double.ofText?` — reads a number such as `-1.5e3`, `.5`, `inf` or `NaN`.
* `Double.shortest` — the decimal number with the fewest digits that reads back as the double.
-/

/-- A non-negative decimal number, `digits · 10 ^ exponent`. -/
structure Decimal where
  /-- The significant digits as one natural number. -/
  digits : Nat
  /-- The power of ten that scales them. -/
  exponent : Int
deriving DecidableEq, Inhabited

namespace Double

/-- The magnitude nearest to a decimal number. A number beyond `10 ^ 400` or below `10 ^ -400` is
    settled by its exponent alone, so that no exponent makes the arithmetic large. -/
def nearestDecimal (number : Decimal) : Nat :=
  if number.digits = 0 then 0
  else if 400 < number.exponent then bound
  else if number.exponent + number.digits.log2 + 1 < -400 then 0
  else if 0 ≤ number.exponent then nearest (number.digits * Nat.pow 10 number.exponent.toNat) 1
  else nearest number.digits (Nat.pow 10 (-number.exponent).toNat)

/-- The double of the given sign nearest to a decimal number. -/
def ofDecimal (negative : Bool) (number : Decimal) : Double :=
  ofMagnitude negative (nearestDecimal number)

/-! ### Reading -/

/-- Reads an optional exponent, `e` or `E` and an integer, up to the end of the text. -/
def readExponent? : List Char → Option Int
  | [] => some 0
  | mark :: rest => if mark = 'e' ∨ mark = 'E' then readInt? rest else none

/-- Reads the digits of a fraction if a point comes first. -/
def readFraction : List Char → List Char × List Char
  | '.' :: rest => rest.span isDigit
  | text => ([], text)

/-- Reads an unsigned decimal number: digits, a point and further digits, and an exponent. Point and
    exponent may be missing, and so may the digits on one side of the point. -/
def readDecimal? (text : List Char) : Option Decimal := do
  let (whole, afterWhole) := text.span isDigit
  let (fraction, afterFraction) := readFraction afterWhole
  if whole.isEmpty && fraction.isEmpty then none
  let exponent ← readExponent? afterFraction
  some ⟨digitsValue (whole ++ fraction), exponent - fraction.length⟩

/-- Reads a number: a decimal number with an optional sign, or one of the words `inf`, `infinity`
    and `nan` in any case. -/
def ofText? (text : String) : Option Double :=
  let (negative, unsigned) := readSign text.toList
  let word := String.ofList (unsigned.map Char.toLower)
  if word = "inf" ∨ word = "infinity" then some (.infinity negative)
  else if word = "nan" then some .nan
  else (readDecimal? unsigned).map (ofDecimal negative)

/-! ### Shortest decimal number -/

/-- How to choose between two decimal numbers of equal length that are equally near. -/
inductive Tie where
  /-- The greater one. -/
  | up
  /-- The one whose last digit is even. -/
  | even
deriving DecidableEq

/-- The exponent of the leading decimal digit of a positive magnitude: its value is at least
    `10 ^ e` and less than `10 ^ (e + 1)`. -/
def leadingExponent (magnitude : Nat) : Int :=
  -- the least double is greater than `10 ^ -340`, so scaling by `10 ^ 340` leaves a whole part
  ((natChars (units magnitude * Nat.pow 10 340 / unitsPerOne)).length : Int) - 341

/-- A double lies between two neighbours on the grid of the multiples of `10 ^ exponent`: the number
    of the lower one, and how the distance to it compares with half the grid. -/
def gridNeighbour (magnitude : Nat) (exponent : Int) : Nat × Ordering :=
  let numerator := units magnitude * Nat.pow 10 (-exponent).toNat
  let denominator := unitsPerOne * Nat.pow 10 exponent.toNat
  (numerator / denominator, compare (2 * (numerator % denominator)) denominator)

/-- Whether the upper one of two neighbours on a grid is preferred: it is nearer, or the choice between
    equally near ones. -/
def prefersUpper (tie : Tie) (below : Nat) : Ordering → Bool
  | .lt => false
  | .gt => true
  | .eq =>
    match tie with
    | .up => true
    | .even => below % 2 == 1

/-- The number after `below` on the grid of the multiples of `10 ^ exponent`. A number of more digits
    than the count is written with a single one. -/
def upperNeighbour (below count : Nat) (exponent : Int) : Decimal :=
  if below + 1 = Nat.pow 10 count then ⟨1, exponent + count⟩ else ⟨below + 1, exponent⟩

/-- The first one of two decimal numbers that reads back as the double, if there is one. -/
def firstReadingBack? (magnitude : Nat) (first second : Decimal) : Option Decimal :=
  if nearestDecimal first = magnitude then some first
  else if nearestDecimal second = magnitude then some second
  else none

/-- The nearest number with the given count of digits that reads back as the double, if there is
    one. -/
def shortestWith? (tie : Tie) (magnitude count : Nat) : Option Decimal :=
  let exponent := leadingExponent magnitude + 1 - count
  let neighbour := gridNeighbour magnitude exponent
  let lower : Decimal := ⟨neighbour.1, exponent⟩
  let upper := upperNeighbour neighbour.1 count exponent
  if prefersUpper tie neighbour.1 neighbour.2 then firstReadingBack? magnitude upper lower
  else firstReadingBack? magnitude lower upper

/-- The decimal number that is exactly the value of a magnitude. -/
def exactDecimal (magnitude : Nat) : Decimal :=
  ⟨units magnitude * Nat.pow 5 1074, -1074⟩

/-- The decimal number with the fewest digits that reads back as the double, and of those the nearest
    to it. Seventeen digits always suffice. -/
def shortest (tie : Tie) (magnitude : Nat) : Decimal :=
  if magnitude = 0 then ⟨0, 0⟩
  else ((List.range 17).findSome? fun i => shortestWith? tie magnitude (i + 1)).getD
    (exactDecimal magnitude)

end Double

end RecordFilter
