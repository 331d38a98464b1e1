import RecordFilter.Operator
import RecordFilter.PropertyName
import RecordFilter.Value.Basic

namespace RecordFilter

/-!
# Criteria

* `PropertyTest` — what a filter demands of one property.
* `Criteria` — a filter: property tests, tests of the items of a collection, and their combinations.
* `Connective` — the two ways to join filters.
* `Criteria.ofTest`, `Criteria.ofItems` — build a leaf, checking the property name.
* `Criteria.WellFormed` — every name in the filter is a property name.
-/

/-- What a filter demands of one property. -/
inductive PropertyTest where
  /-- The property compares with the value as the operator says. -/
  | compare (operator : ComparisonOperator) (value : Value)
  /-- The text of the property passes a text test. -/
  | text (function : TextFunction) (argument : Value)
  /-- The property is null or the empty text. -/
  | isNullOrEmpty
  /-- The property lies between two values, both included. -/
  | between (low high : Value)
  /-- The property is one of the values. -/
  | oneOf (values : List Value)
  /-- The property is null. -/
  | isNull
  /-- The property is not null. -/
  | isNotNull
  /-- The property is a date in the interval. -/
  | within (interval : DateInterval)
deriving DecidableEq

/-- A filter over records. -/
inductive Criteria where
  | and (left right : Criteria)
  | or (left right : Criteria)
  | not (inner : Criteria)
  /-- A test of one property. -/
  | property (name : String) (test : PropertyTest)
  /-- Some item of a collection satisfies a filter of its own. -/
  | any (name : String) (item : Criteria)
  /-- The records of the current user. Only a host can decide it. -/
  | currentUser
deriving DecidableEq

/-- How two filters are joined. -/
inductive Connective where
  | and
  | or
deriving DecidableEq

/-- Joins two filters. -/
def Connective.join : Connective → Criteria → Criteria → Criteria
  | .and => .and
  | .or => .or

/-- The test that a function makes of its argument. A function without an argument drops it. -/
def PropertyTest.ofFunction (function : PropertyFunction) (argument : Value) : PropertyTest :=
  match function with
  | .text function => .text function argument
  | .isNullOrEmpty => .isNullOrEmpty

/-- What kind of test it is. -/
def PropertyTest.kindName : PropertyTest → String
  | .compare .. => "Comparison"
  | .text .. => "Function"
  | .isNullOrEmpty => "Function"
  | .between .. => "Between"
  | .oneOf .. => "In"
  | .isNull => "Null"
  | .isNotNull => "NotNull"
  | .within .. => "Interval"

namespace Criteria

/-- What kind of filter it is. -/
def kindName : Criteria → String
  | .and .. => "And"
  | .or .. => "Or"
  | .not .. => "Not"
  | .property _ test => test.kindName
  | .any .. => "Any"
  | .currentUser => "CurrentUser"

/-- The property that a leaf is about. -/
def propertyName? : Criteria → Option String
  | .property name _ => some name
  | .any name _ => some name
  | _ => none

/-- A test of a property, provided that the name can stand for one. -/
def ofTest (name : String) (test : PropertyTest) : Except FilterError Criteria := do
  checkPropertyName name
  return .property name test

/-- A test of the items of a collection, provided that the name can stand for a property. -/
def ofItems (name : String) (item : Criteria) : Except FilterError Criteria := do
  checkPropertyName name
  return .any name item

/-- Every property in the filter, also within tests of items, has a name that can stand for one. -/
def WellFormed : Criteria → Prop
  | .and left right => left.WellFormed ∧ right.WellFormed
  | .or left right => left.WellFormed ∧ right.WellFormed
  | .not inner => inner.WellFormed
  | .property name _ => IsPropertyName name
  | .any name item => IsPropertyName name ∧ item.WellFormed
  | .currentUser => True

/-- Well-formedness can be decided. -/
instance decidableWellFormed : (criteria : Criteria) → Decidable criteria.WellFormed
  | .and left right =>
    have := decidableWellFormed left
    have := decidableWellFormed right
    inferInstanceAs (Decidable (_ ∧ _))
  | .or left right =>
    have := decidableWellFormed left
    have := decidableWellFormed right
    inferInstanceAs (Decidable (_ ∧ _))
  | .not inner => decidableWellFormed inner
  | .property name _ => inferInstanceAs (Decidable (IsPropertyName name))
  | .any _ item =>
    have := decidableWellFormed item
    inferInstanceAs (Decidable (_ ∧ _))
  | .currentUser => inferInstanceAs (Decidable True)

end Criteria

end RecordFilter
