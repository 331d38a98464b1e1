namespace RecordFilter.Text

/-!
# Character classes as ascending code point ranges

* `CodeSet` — a set of characters, written as the ascending list of its code point
  ranges, both ends included.
* `CodeSet.contains` — membership, deciding small code points after a few steps.
-/

/-- A set of characters: ascending code point ranges, both ends included. -/
abbrev CodeSet := List (Nat × Nat)

/-- Whether a code point lies in one of the ranges. Ranges that start beyond it are not
    looked at. -/
def CodeSet.containsCode : CodeSet → Nat → Bool
  | [], _ => false
  | (low, high) :: rest, code =>
    if code < low then false
    else if code ≤ high then true
    else CodeSet.containsCode rest code

/-- Whether a character belongs to the set. -/
def CodeSet.contains (set : CodeSet) (c : Char) : Bool :=
  set.containsCode c.toNat

end RecordFilter.Text
