import RecordFilter.Criteria.Basic

namespace RecordFilter

/-!
# Operator trees

* `OperatorTree` — the form in which grid components describe a filter: operators over property names
  and values.
* `UnaryOperator`, `BinaryOperator`, `FunctionOperator` — its operators. The format knows more of them
  than filters do.
-/

/-- An operator with one operand. -/
inductive UnaryOperator where
  | bitwiseNot
  | plus
  | minus
  | not
  | isNull
deriving DecidableEq

namespace UnaryOperator

/-- All operators with one operand. -/
def all : List UnaryOperator :=
  [.bitwiseNot, .plus, .minus, .not, .isNull]

/-- The name of an operator. -/
def name : UnaryOperator → String
  | .bitwiseNot => "BitwiseNot"
  | .plus => "Plus"
  | .minus => "Minus"
  | .not => "Not"
  | .isNull => "IsNull"

/-- The operator with the given name. -/
def ofName? (name : String) : Option UnaryOperator :=
  all.find? fun operator => operator.name = name

end UnaryOperator

/-- An operator with two operands. -/
inductive BinaryOperator where
  | comparison (operator : ComparisonOperator)
  | bitwiseAnd
  | bitwiseOr
  | bitwiseXor
  | divide
  | modulo
  | multiply
  | plus
  | minus
deriving DecidableEq

/-- The name of a comparison operator. -/
def ComparisonOperator.name : ComparisonOperator → String
  | .equal => "Equal"
  | .notEqual => "NotEqual"
  | .greater => "Greater"
  | .less => "Less"
  | .lessOrEqual => "LessOrEqual"
  | .greaterOrEqual => "GreaterOrEqual"
  | .like => "Like"

namespace BinaryOperator

/-- All operators with two operands. -/
def all : List BinaryOperator :=
  ComparisonOperator.all.map .comparison ++
    [.bitwiseAnd, .bitwiseOr, .bitwiseXor, .divide, .modulo, .multiply, .plus, .minus]

/-- The name of an operator. -/
def name : BinaryOperator → String
  | .comparison operator => operator.name
  | .bitwiseAnd => "BitwiseAnd"
  | .bitwiseOr => "BitwiseOr"
  | .bitwiseXor => "BitwiseXor"
  | .divide => "Divide"
  | .modulo => "Modulo"
  | .multiply => "Multiply"
  | .plus => "Plus"
  | .minus => "Minus"

/-- The operator with the given name. -/
def ofName? (name : String) : Option BinaryOperator :=
  all.find? fun operator => operator.name = name

/-- The comparison that an operator makes; the others compute. -/
def comparison? : BinaryOperator → Option ComparisonOperator
  | .comparison operator => some operator
  | _ => none

end BinaryOperator

/-- A function of an operator tree. -/
inductive FunctionOperator where
  /-- A function of the host, named by its first operand. -/
  | custom
  | iif
  | isNull
  | property (function : PropertyFunction)
  | trim
  | len
  | substring
  | upper
  | lower
  | concat
  | now
  | today
  /-- The property falls on one of the days that follow. -/
  | isSameDay
  | interval (interval : DateInterval)
deriving DecidableEq

namespace FunctionOperator

/-- All functions. -/
def all : List FunctionOperator :=
  [.custom, .iif, .isNull, .trim, .len, .substring, .upper, .lower, .concat, .now, .today,
   .isSameDay] ++ PropertyFunction.all.map .property ++ DateInterval.all.map .interval

/-- The name of a function. -/
def name : FunctionOperator → String
  | .custom => "Custom"
  | .iif => "Iif"
  | .isNull => "IsNull"
  | .property function => function.name
  | .trim => "Trim"
  | .len => "Len"
  | .substring => "Substring"
  | .upper => "Upper"
  | .lower => "Lower"
  | .concat => "Concat"
  | .now => "Now"
  | .today => "Today"
  | .isSameDay => "IsSameDay"
  | .interval span => "IsOutlook" ++ span.name

/-- The function with the given name. -/
def ofName? (name : String) : Option FunctionOperator :=
  all.find? fun function => function.name = name

/-- The date interval that a function tests for. -/
def interval? : FunctionOperator → Option DateInterval
  | .interval span => some span
  | _ => none

/-- The property function that a function is. -/
def property? : FunctionOperator → Option PropertyFunction
  | .property function => some function
  | _ => none

end FunctionOperator

/-- A filter as operators over property names and values. -/
inductive OperatorTree where
  | group (connective : Connective) (operands : List OperatorTree)
  | unary (operator : UnaryOperator) (operand : OperatorTree)
  | binary (operator : BinaryOperator) (left right : OperatorTree)
  | oneOf (left : OperatorTree) (operands : List OperatorTree)
  | between (test low high : OperatorTree)
  | function (operator : FunctionOperator) (operands : List OperatorTree)
  | property (name : String)
  | value (value : Value)

/-- What kind of node it is. -/
def OperatorTree.kindName : OperatorTree → String
  | .group .. => "Group"
  | .unary .. => "Unary"
  | .binary .. => "Binary"
  | .oneOf .. => "In"
  | .between .. => "Between"
  | .function .. => "Function"
  | .property .. => "Property"
  | .value .. => "Value"

end RecordFilter
