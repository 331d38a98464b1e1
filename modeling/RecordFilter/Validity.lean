import RecordFilter.Condition.Compile
import RecordFilter.Condition.Evaluate

namespace RecordFilter

open Text

/-!
# Filters and record types

* `Criteria.isValidOn` — a quick check that the properties of a filter exist on a type.
* `Criteria.check` — binds a filter to a type and evaluates it on a record.
* `Criteria.isSatisfied` — the same answer, every failure counting as a no.
-/

namespace Criteria

/-- Whether a type has the member that a dotted name begins with. -/
def hasFirstMember (type : RecordType) (name : String) : Bool :=
  match splitOn '.' name.toList with
  | [] => false
  | first :: _ => (type.find? (String.ofList first)).isSome

/-- Whether the properties of a filter exist on a type. Of a dotted name only the first segment is looked
    at; a test of items needs a collection whose items have the properties of the inner filter. -/
def isValidOn (type : RecordType) : Criteria → Bool
  | .and left right => left.isValidOn type && right.isValidOn type
  | .or left right => left.isValidOn type && right.isValidOn type
  | .not inner => inner.isValidOn type
  | .property name _ => hasFirstMember type name
  | .any name item =>
    hasFirstMember type name &&
      match type.resolve name with
      | .ok (_, member) =>
        match member.kind with
        | .collection itemType => item.isValidOn itemType
        | _ => false
      | .error _ => false
  | .currentUser => true

/-- Whether a record satisfies a filter, or why that cannot be said. -/
def check (setting : Setting) (type : RecordType) (criteria : Criteria) (record : Record) :
    Except FilterError Bool := do
  (← Condition.compile setting type criteria).evaluate record

/-- Whether a record satisfies a filter. A filter that is not valid on the type, cannot be bound to it or
    fails on the record is not satisfied. -/
def isSatisfied (setting : Setting) (type : RecordType) (criteria : Criteria)
    (record : Record) : Bool :=
  criteria.isValidOn type &&
    match check setting type criteria record with
    | .ok answer => answer
    | .error _ => false

end Criteria

end RecordFilter
