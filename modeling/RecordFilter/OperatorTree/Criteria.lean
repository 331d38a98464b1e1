import RecordFilter.Criteria.Text
import RecordFilter.OperatorTree.Basic

namespace RecordFilter

/-!
# Operator trees and criteria

* `OperatorTree.toCriteria` — the filter that a tree describes.
* `OperatorTree.ofCriteria` — the tree of a filter. Tests of items have none.
-/

/-- The argument of the custom function that stands for the current user. -/
def currentUserName : String :=
  "CurrentUser"

namespace OperatorTree

/-! ### Operands -/

/-- The name of a property operand. -/
def propertyName : OperatorTree → Except FilterError String
  | .property name => .ok name
  | other => .error (.invalidOperand (.notAProperty other.kindName))

/-- The value of a value operand. -/
def scalarValue : OperatorTree → Except FilterError Value
  | .value scalar => .ok scalar
  | other => .error (.invalidOperand (.notAValue other.kindName))

/-- The value of an operand that may also name another property, whose name then is the value. -/
def fieldOrValue : OperatorTree → Except FilterError Value
  | .property name => .ok (.string name)
  | other => other.scalarValue

/-! ### From trees to criteria -/

/-- The filter that a property falls on a day: from its first moment to the first moment of the next
    day. -/
def onDay (name : String) (operand : OperatorTree) : Except FilterError Criteria := do
  match ← operand.scalarValue with
  | .dateTime moment =>
    match moment.date.succ? with
    | none => throw (.invalidOperand (.dayOutOfRange (.midnight moment.date)))
    | some next =>
      let lower ← Criteria.ofTest name
        (.compare .greaterOrEqual (.dateTime (.midnight moment.date)))
      let upper ← Criteria.ofTest name (.compare .less (.dateTime (.midnight next)))
      return .and lower upper
  | other => throw (.invalidOperand (.notADay other.kindName))

/-- The filter that a property falls on one of some days. -/
def onSameDay (name : String) (days : List OperatorTree) : Except FilterError Criteria := do
  match ← days.mapM (onDay name) with
  | [] => throw (.invalidOperand .noDay)
  | first :: rest => return rest.foldl .or first

/-- The filter that a function makes of its operands. The first one names the property. -/
def functionCriteria (operator : FunctionOperator) (operands : List OperatorTree) :
    Except FilterError Criteria :=
  match operator, operands with
  | .custom, [.value (.string name)] =>
    if name = currentUserName then .ok .currentUser
    else .error (.unsupported .customFunction)
  | .custom, _ => .error (.unsupported .customFunction)
  | operator, [] => .error (.invalidOperand (.noProperty operator.name))
  | operator, subject :: arguments => do
    let name ← subject.propertyName
    match operator, arguments with
    | .interval span, _ => Criteria.ofTest name (.within span)
    | .property .isNullOrEmpty, _ => Criteria.ofTest name .isNullOrEmpty
    | .property (.text _), [] => throw (.invalidOperand (.noArgument operator.name))
    | .property (.text test), argument :: _ => do
      Criteria.ofTest name (.text test (← argument.fieldOrValue))
    | .isSameDay, days => onSameDay name days
    | _, _ => throw (.unsupported (.function operator.name))

mutual

/-- The filter that a tree describes. -/
def toCriteria : OperatorTree → Except FilterError Criteria
  | .group _ [] => .error (.invalidOperand .emptyGroup)
  | .group connective (first :: rest) => do
    joinCriteria connective (← first.toCriteria) rest
  | .unary .isNull operand => do Criteria.ofTest (← operand.propertyName) .isNull
  | .unary .not (.unary .isNull operand) => do
    Criteria.ofTest (← operand.propertyName) .isNotNull
  | .unary .not operand => do return .not (← operand.toCriteria)
  | .unary operator _ => .error (.unsupported (.unaryOperator operator.name))
  | .binary (.comparison operator) left right => do
    let name ← left.propertyName
    Criteria.ofTest name (.compare operator (← right.fieldOrValue))
  | .binary operator _ _ => .error (.unsupported (.binaryOperator operator.name))
  | .oneOf left operands => do
    let values ← operands.mapM scalarValue
    Criteria.ofTest (← left.propertyName) (.oneOf values)
  | .between test low high => do
    let name ← test.propertyName
    let low ← low.fieldOrValue
    let high ← high.fieldOrValue
    Criteria.ofTest name (.between low high)
  | .function operator operands => functionCriteria operator operands
  | .property name => .error (.invalidOperand (.notACriteria (kindName (.property name))))
  | .value scalar => .error (.invalidOperand (.notACriteria (kindName (.value scalar))))

/-- Joins the filters that a list of trees describes to a filter before them, from left to right. -/
def joinCriteria (connective : Connective) (joined : Criteria) :
    List OperatorTree → Except FilterError Criteria
  | [] => .ok joined
  | next :: rest => do
    joinCriteria connective (connective.join joined (← next.toCriteria)) rest

end

/-! ### From criteria to trees -/

/-- The tree of a property test. -/
def ofTest (name : String) : PropertyTest → OperatorTree
  | .compare operator operand =>
    .binary (.comparison operator) (.property name) (.value operand)
  | .text test argument => .function (.property (.text test)) [.property name, .value argument]
  | .isNullOrEmpty => .function (.property .isNullOrEmpty) [.property name]
  | .between low high => .between (.property name) (.value low) (.value high)
  | .oneOf values => .oneOf (.property name) (values.map OperatorTree.value)
  | .isNull => .unary .isNull (.property name)
  | .isNotNull => .unary .not (.unary .isNull (.property name))
  | .within interval => .function (.interval interval) [.property name]

/-- The tree of a filter. -/
def ofCriteria : Criteria → Except FilterError OperatorTree
  | .and left right => do return .group .and [← ofCriteria left, ← ofCriteria right]
  | .or left right => do return .group .or [← ofCriteria left, ← ofCriteria right]
  | .not inner => do return .unary .not (← ofCriteria inner)
  | .property name test => .ok (ofTest name test)
  | .any name item => .error (.unsupported (.noTreeForm (Criteria.any name item).text))
  | .currentUser => .ok (.function .custom [.value (.string currentUserName)])

end OperatorTree

end RecordFilter
