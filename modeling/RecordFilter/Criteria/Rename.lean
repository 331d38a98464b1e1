import RecordFilter.Criteria.Basic

namespace RecordFilter

/-!
# Renaming properties

* `Criteria.rename` — a filter with every property name replaced by what a look-up gives for it.
-/

namespace Criteria

/-- The name that a look-up gives for a property; it has to be a property name. -/
def renamed (lookup : String → Option String) (name : String) :
    Except FilterError String :=
  match lookup name with
  | none => .error (.unresolvedProperty name)
  | some canonical => do
    checkPropertyName canonical
    return canonical

/-- Replaces every property name. The names inside a test of items belong to the items and stay. -/
def rename (lookup : String → Option String) : Criteria → Except FilterError Criteria
  | .and left right => do return .and (← left.rename lookup) (← right.rename lookup)
  | .or left right => do return .or (← left.rename lookup) (← right.rename lookup)
  | .not inner => do return .not (← inner.rename lookup)
  | .property name test => do return .property (← renamed lookup name) test
  | .any name item => do return .any (← renamed lookup name) item
  | .currentUser => .ok .currentUser

end Criteria

end RecordFilter
