import RecordFilter.Error
import RecordFilter.Text.Blank
import RecordFilter.Text.Word

namespace RecordFilter

open Text

/-!
# Property names

* `IsPropertyName` — the names that a filter text can mention: word characters and dots.
* `checkPropertyName` — accepts exactly those names.
-/

/-- A character that may stand in a property name. -/
def isNameChar (c : Char) : Bool :=
  isWord c || c == '.'

/-- A name that stands for a property: one or more word characters and dots, so that it is one token
    between brackets. -/
def IsPropertyName (name : String) : Prop :=
  name.toList ≠ [] ∧ ∀ c ∈ name.toList, isNameChar c

instance (name : String) : Decidable (IsPropertyName name) :=
  decidable_of_iff (name.toList ≠ [] ∧ name.toList.all isNameChar = true)
    (by simp only [IsPropertyName, List.all_eq_true])

/-- Accepts the property names. Of the others, blank ones are reported apart. -/
def checkPropertyName (name : String) : Except FilterError Unit :=
  if allBlank name.toList then .error (.construction .blank)
  else if IsPropertyName name then .ok ()
  else .error (.construction (.characters name))

end RecordFilter
