import RecordFilter.Condition.Basic
import RecordFilter.Record

namespace RecordFilter

/-!
# Evaluating conditions

* `FieldValue.order` — how the value of a member compares with an operand.
* `Condition.evaluate` — whether a record satisfies a condition.
* `Condition.accepts` — the same, with an error for a no.

Both parts of a conjunction or disjunction are evaluated from left to right, the second only if the first
does not decide. A test of items stops at the first item that satisfies it.
-/

/-- How a value of a record compares with an operand of a filter, none for kinds that do not compare. A
    NaN compares with nothing, which is an answer. -/
def FieldValue.order : FieldValue → Value → Option (Option Ordering)
  | .int a, .int b => some (some (compare a.toInt b.toInt))
  | .enumeration a, .int b => some (some (compare a.toInt b.toInt))
  | .int a, .float b => some ((Double.ofInt a.toInt).compare? b)
  | .float a, .float b => some (a.compare? b)
  | .float a, .int b => some (a.compare? (Double.ofInt b.toInt))
  | .bool a, .bool b => some (some (compare a.toNat b.toNat))
  | .text a, .string b => some (some (compare a b))
  | .dateTime a, .dateTime b => some (some (compare a.rank b.rank))
  | _, _ => none

namespace Condition

/-- Whether the value at a path is so related to an operand. Null equals null only, and is related to
    other values by being different from them. -/
def compareField (path : MemberPath) (relation : Relation) (field : FieldValue)
    (operand : Value) : Except FilterError Bool :=
  match field.isNull, operand.isNull with
  | true, true => .ok (relation.holds (some .eq))
  | false, false =>
    match field.order operand with
    | some order => .ok (relation.holds order)
    | none => .error (unexpectedValue path field)
  | _, _ => .ok (relation.holds none)

/-- Whether the value at a path passes a text test. Null passes none. -/
def testField (path : MemberPath) (function : TextFunction) (needle : String)
    (rendering : Rendering) (field : FieldValue) : Except FilterError Bool :=
  match field, rendering with
  | .null, _ => .ok false
  | .text content, .plain => .ok (function.holds content needle)
  | .dateTime moment, .shortDate culture =>
    .ok (function.holds (culture.shortDate moment.date) needle)
  | other, _ => .error (unexpectedValue path other)

/-- Whether one of a list of records satisfies a test; the first one that does, or that the test fails on,
    decides. -/
def anyItem (test : Record → Except FilterError Bool) : List Record → Except FilterError Bool
  | [] => .ok false
  | item :: rest => do if ← test item then return true else anyItem test rest

/-- Whether the items at a path satisfy a test. -/
def testItems (path : MemberPath) (test : Record → Except FilterError Bool) (field : FieldValue) :
    Except FilterError Bool :=
  match field with
  | .collection items => anyItem test items
  | .null => .error (.evaluation (.nullCollection path.text))
  | other => .error (unexpectedValue path other)

/-- Whether a record satisfies a condition. -/
def evaluate : Condition → Record → Except FilterError Bool
  | .constant value, _ => .ok value
  | .and left right, record => do
    if ← left.evaluate record then right.evaluate record else return false
  | .or left right, record => do
    if ← left.evaluate record then return true else right.evaluate record
  | .not inner, record => do return !(← inner.evaluate record)
  | .compare path relation operand, record => do
    compareField path relation (← readMember record path) operand
  | .text path function needle rendering, record => do
    testField path function needle rendering (← readMember record path)
  | .any path item, record => do
    testItems path item.evaluate (← readMember record path)

/-- Whether a record satisfies a condition; a failure counts as a no. -/
def accepts (condition : Condition) (record : Record) : Bool :=
  match condition.evaluate record with
  | .ok answer => answer
  | .error _ => false

end Condition

end RecordFilter
