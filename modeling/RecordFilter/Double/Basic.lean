namespace RecordFilter

/-!
# Double precision numbers

* `Double` — the values of the binary format with 53 significant bits and 11 exponent bits. All
  NaNs are one value; zero carries a sign.
* `Double.units` — the exact value of a magnitude, counted in the least positive double.
* `Double.ofRatio` — the double nearest to a quotient of two natural numbers.
* `Double.compare?` — the order of two doubles, none when one of them is NaN.

The non-negative finite doubles are numbered from zero in ascending order; that number, the
*magnitude*, is what a finite double holds. Rounding and comparing are then plain arithmetic on
natural numbers.
-/

/-- The number of magnitudes between neighbouring powers of two. -/
abbrev Double.binade : Nat := Nat.pow 2 52

/-- The number of magnitudes: the first one past the greatest finite double. -/
abbrev Double.bound : Nat := 2047 * binade

/-- How many times the least positive double goes into one. -/
abbrev Double.unitsPerOne : Nat := Nat.pow 2 1074

/-- A double precision number. -/
inductive Double where
  /-- Not a number. -/
  | nan
  /-- One of the two infinities. -/
  | infinity (negative : Bool)
  /-- A finite number: its sign and the place of its absolute value among the non-negative doubles. -/
  | finite (negative : Bool) (magnitude : Fin Double.bound)
deriving DecidableEq, Inhabited

namespace Double

/-- The two zeros. -/
def zero (negative : Bool) : Double :=
  .finite negative ⟨0, by decide⟩

/-- The absolute value of a finite double as a multiple of the least positive double, `2 ^ -1074`.
    Magnitudes below `2 ^ 52` are subnormal; after them every `2 ^ 52` magnitudes the distance of
    neighbours doubles. -/
def units (magnitude : Nat) : Nat :=
  if magnitude < binade then magnitude
  else (binade + magnitude % binade) * Nat.pow 2 (magnitude / binade - 1)

/-- The magnitude nearest to `numerator / denominator`, of two equally near ones the even one. It
    is not below `bound` when the quotient is too great for a finite double. -/
def nearest (numerator denominator : Nat) : Nat :=
  let scaled := numerator * unitsPerOne
  let shift := (scaled / denominator).log2 - 52
  let unit := denominator * Nat.pow 2 shift
  let significand := scaled / unit
  let remainder := scaled % unit
  let roundUp := unit < 2 * remainder || (unit == 2 * remainder && significand % 2 == 1)
  shift * binade + significand + (if roundUp then 1 else 0)

/-- The double of the given sign whose magnitude has this number, an infinity if there is none. -/
def ofMagnitude (negative : Bool) (magnitude : Nat) : Double :=
  if h : magnitude < bound then .finite negative ⟨magnitude, h⟩ else .infinity negative

/-- The double nearest to a quotient, ties to the even neighbour, overflow to infinity. -/
def ofRatio (negative : Bool) (numerator denominator : Nat) : Double :=
  ofMagnitude negative (nearest numerator denominator)

/-- The double nearest to an integer. -/
def ofInt (value : Int) : Double :=
  ofRatio (decide (value < 0)) value.natAbs 1

/-- The place of a double in the order of all doubles, in which the two zeros are one and the
    infinities stand at the ends. NaN has none. -/
def rank? : Double → Option Int
  | .nan => none
  | .infinity negative => some (if negative then -(bound : Int) else bound)
  | .finite negative magnitude =>
    some (if negative then -(magnitude.val : Int) else magnitude.val)

/-- How two doubles compare; NaN compares with nothing. -/
def compare? (x y : Double) : Option Ordering :=
  match x.rank?, y.rank? with
  | some a, some b => some (compare a b)
  | _, _ => none

end Double

end RecordFilter
