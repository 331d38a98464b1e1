import RecordFilter.Double.Decimal

namespace RecordFilter

open Text

/-!
# Written doubles

Three forms, all with the fewest digits that read back:

* `Double.plainText` — positional, whole numbers without a point.
* `Double.literalText` — positional and always with a point, so that it reads back as a double; the
  form of filter texts.
* `Double.jsonText?` — positional for moderate numbers, with an exponent for the others.
-/

/-- Positional notation without an exponent. A whole number has no point. -/
def Decimal.positional (number : Decimal) : List Char :=
  let digits := natChars number.digits
  if 0 ≤ number.exponent then digits ++ List.replicate number.exponent.toNat '0'
  else
    let places := (-number.exponent).toNat
    if places < digits.length then
      digits.take (digits.length - places) ++ '.' :: digits.drop (digits.length - places)
    else '0' :: '.' :: (List.replicate (places - digits.length) '0' ++ digits)

/-- Positional notation with a point: a whole number gets the fraction `.0`. -/
def Decimal.pointed (number : Decimal) : List Char :=
  if 0 ≤ number.exponent then number.positional ++ ['.', '0'] else number.positional

/-- Notation with one digit before the point and a signed exponent. -/
def Decimal.scientific (number : Decimal) : List Char :=
  let digits := natChars number.digits
  let exponent := number.exponent + digits.length - 1
  let fraction := if digits.length = 1 then [] else '.' :: digits.drop 1
  digits.take 1 ++ fraction ++ ['e', if exponent < 0 then '-' else '+'] ++
    natChars exponent.natAbs

/-- The layout of numbers in JSON: positional from `10 ^ -5` up to `10 ^ 16`, both forms with the
    digits that are needed. -/
def Decimal.moderate (number : Decimal) : List Char :=
  let pointAt := number.exponent + (natChars number.digits).length
  if number.digits = 0 ∨ (-5 < pointAt ∧ pointAt ≤ 16) then number.pointed
  else number.scientific

namespace Double

/-- A text with a minus sign in front if asked for. -/
def signed (negative : Bool) (text : List Char) : List Char :=
  if negative then '-' :: text else text

/-- Positional form without a point for whole numbers: `5`, `-0`, `0.1`, `NaN`, `inf`. -/
def plainText : Double → String
  | .nan => "NaN"
  | .infinity negative => String.ofList (signed negative ['i', 'n', 'f'])
  | .finite negative magnitude =>
    String.ofList (signed negative (shortest .up magnitude).positional)

/-- The form of filter texts: never an exponent, always a point, and a word for what is not
    finite. -/
def literalText : Double → String
  | .nan => "NaN"
  | .infinity negative => if negative then "-Infinity" else "Infinity"
  | .finite negative magnitude =>
    String.ofList (signed negative (shortest .up magnitude).pointed)

/-- The JSON form of a finite double. JSON has no form for the others. -/
def jsonText? : Double → Option String
  | .finite negative magnitude =>
    some (String.ofList (signed negative (shortest .even magnitude).moderate))
  | _ => none

end Double

end RecordFilter
