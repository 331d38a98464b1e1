import RecordFilter.Criteria.Text

namespace RecordFilter

/-!
# The properties of a filter

* `Criteria.nodes` — a filter and its parts, each before its own parts.
* `Criteria.propertyCriteria` — the distinct leaves that are about a property.
* `Criteria.propertyNames` — the distinct names of those properties.
* `Criteria.distinctTexts` — how many filters of a list are written differently.

The filter inside a test of items is about the items and does not count as a part.
-/

/-- The members of a list of which no earlier one has the same key. -/
def distinctOn {α β : Type} [DecidableEq β] (key : α → β) : List α → List α
  | [] => []
  | a :: rest => a :: (distinctOn key rest).filter fun b => key b ≠ key a

namespace Criteria

/-- A filter and its parts in the order in which they are written. -/
def nodes : Criteria → List Criteria
  | .and left right => .and left right :: (left.nodes ++ right.nodes)
  | .or left right => .or left right :: (left.nodes ++ right.nodes)
  | .not inner => .not inner :: inner.nodes
  | leaf => [leaf]

/-- The parts that are about a property, those written alike only once. -/
def propertyCriteria (criteria : Criteria) : List Criteria :=
  distinctOn text (criteria.nodes.filter fun node => node.propertyName?.isSome)

/-- The names of the properties that the filter is about, each once. -/
def propertyNames (criteria : Criteria) : List String :=
  distinctOn id (criteria.propertyCriteria.filterMap propertyName?)

/-- How many filters of a list are written differently. -/
def distinctTexts (list : List Criteria) : Nat :=
  (distinctOn text list).length

end Criteria

end RecordFilter
