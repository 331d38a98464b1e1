import RecordFilter.Criteria.Text
import RecordFilter.Json.Text

namespace RecordFilter

/-!
# Writing compact arrays

* `CompactArray.ofCriteria` — the nested array of a filter.

Patterns, intervals, tests of items and the current user have no array form, and neither have empty
lists of values and numbers that are not finite.
-/

namespace CompactArray

/-- A value as a JSON scalar; dates become ISO 8601 strings. -/
def scalarJson : Value → Except FilterError Json
  | .null => .ok .null
  | .bool value => .ok (.bool value)
  | .int value => .ok (.int value.toInt)
  | .float value =>
    if value.jsonText?.isSome then .ok (.float value)
    else .error (.invalidOperand (.notFinite value))
  | .dateTime value => .ok (.string value.isoText)
  | .string value => .ok (.string value)

/-- The word of a comparison; a pattern has none. -/
def comparisonWord? : ComparisonOperator → Option String
  | .equal => some "="
  | .notEqual => some "<>"
  | .greater => some ">"
  | .greaterOrEqual => some ">="
  | .less => some "<"
  | .lessOrEqual => some "<="
  | .like => none

/-- The word of a text test. -/
def functionWord : TextFunction → String
  | .startsWith => "startswith"
  | .endsWith => "endswith"
  | .contains => "contains"

/-- The array of a property, an operator word and an operand. -/
def leafJson (name word : String) (operand : Json) : Json :=
  .array [.string name, .string word, operand]

/-- Two arrays joined by a word. -/
def pairJson (left : Json) (word : String) (right : Json) : Json :=
  .array [left, .string word, right]

/-- The negation of an array. -/
def notJson (inner : Json) : Json :=
  .array [.string "!", inner]

/-- The array of an equality. -/
def equalityJson (name : String) (value : Value) : Except FilterError Json := do
  return leafJson name "=" (← scalarJson value)

/-- The array of a property test. -/
def testJson (name : String) (test : PropertyTest) : Except FilterError Json :=
  match test with
  | .compare operator value =>
    match comparisonWord? operator with
    | some word => do return leafJson name word (← scalarJson value)
    | none => .error (.unsupported (.noArrayForm (Criteria.property name test).text))
  | .text function argument => do
    return leafJson name (functionWord function) (← scalarJson argument)
  | .isNullOrEmpty =>
    .ok (pairJson (leafJson name "=" .null) "or" (leafJson name "=" (.string "")))
  | .between low high => do
    let low ← scalarJson low
    let high ← scalarJson high
    return pairJson (leafJson name ">=" low) "and" (leafJson name "<=" high)
  | .oneOf [] => .error (.invalidOperand (.noValues (Criteria.property name test).text))
  | .oneOf (first :: rest) => do
    let start ← equalityJson name first
    rest.foldlM (fun found value => do return pairJson found "or" (← equalityJson name value)) start
  | .isNull => .ok (leafJson name "=" .null)
  | .isNotNull => .ok (notJson (leafJson name "=" .null))
  | .within _ => .error (.unsupported (.noArrayForm (Criteria.property name test).text))

/-- The nested array of a filter. -/
def ofCriteria : Criteria → Except FilterError Json
  | .and left right => do return pairJson (← ofCriteria left) "and" (← ofCriteria right)
  | .or left right => do return pairJson (← ofCriteria left) "or" (← ofCriteria right)
  | .not inner => do return notJson (← ofCriteria inner)
  | .property name test => testJson name test
  | .any name item => .error (.unsupported (.noArrayForm (Criteria.any name item).text))
  | .currentUser => .error (.unsupported (.noArrayForm Criteria.currentUser.text))

/-- The nested array of a filter as JSON text. -/
def textOfCriteria (criteria : Criteria) : Except FilterError String := do
  return (← ofCriteria criteria).text

end CompactArray

end RecordFilter
