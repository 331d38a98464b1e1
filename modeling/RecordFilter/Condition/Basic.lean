import RecordFilter.Culture.Basic
import RecordFilter.Operator
import RecordFilter.RecordType.Path
import RecordFilter.Value.Basic

namespace RecordFilter

/-!
# Conditions

* `Condition` — a filter that is bound to a record type: paths instead of names, and nothing left but
  comparisons, text tests and tests of items.
* `Condition.text` — its written form, for inspection.
-/

/-- How a member is compared with a value. -/
inductive Relation where
  | equal
  | notEqual
  | greater
  | greaterOrEqual
  | less
  | lessOrEqual
deriving DecidableEq

namespace Relation

/-- The symbol of a relation. -/
def symbol : Relation → String
  | .equal => "=="
  | .notEqual => "<>"
  | .greater => ">"
  | .greaterOrEqual => ">="
  | .less => "<"
  | .lessOrEqual => "<="

/-- The relations that need an order, and not just equality. -/
def isOrdering : Relation → Bool
  | .equal | .notEqual => false
  | _ => true

/-- Whether two operands are so related, given how they compare. What compares with nothing is unequal to
    everything and otherwise unrelated. -/
def holds : Relation → Option Ordering → Bool
  | .equal, order => order == some .eq
  | .notEqual, order => order != some .eq
  | .greater, order => order == some .gt
  | .greaterOrEqual, order => order == some .gt || order == some .eq
  | .less, order => order == some .lt
  | .lessOrEqual, order => order == some .lt || order == some .eq

end Relation

/-- The relation that a comparison operator asks for; a pattern asks for none. -/
def ComparisonOperator.relation? : ComparisonOperator → Option Relation
  | .equal => some .equal
  | .notEqual => some .notEqual
  | .greater => some .greater
  | .greaterOrEqual => some .greaterOrEqual
  | .less => some .less
  | .lessOrEqual => some .lessOrEqual
  | .like => none

/-- How a member is turned into the text that a text test looks at. -/
inductive Rendering where
  /-- A text as it is. -/
  | plain
  /-- A date in the short form of a culture. -/
  | shortDate (culture : Culture)
deriving DecidableEq

/-- A filter bound to a record type. -/
inductive Condition where
  | constant (value : Bool)
  | and (left right : Condition)
  | or (left right : Condition)
  | not (inner : Condition)
  /-- A member is so related to a value. -/
  | compare (path : MemberPath) (relation : Relation) (operand : Value)
  /-- The text of a member passes a text test. -/
  | text (path : MemberPath) (function : TextFunction) (needle : String) (rendering : Rendering)
  /-- Some item of a collection satisfies a condition. -/
  | any (path : MemberPath) (item : Condition)
deriving DecidableEq

namespace Condition

/-- The characters of a condition's written form. -/
def chars : Condition → List Char
  | .constant value => if value then "True".toList else "False".toList
  | .and left right => '(' :: (left.chars ++ " AND ".toList ++ right.chars ++ [')'])
  | .or left right => '(' :: (left.chars ++ " OR ".toList ++ right.chars ++ [')'])
  | .not inner => "not (".toList ++ inner.chars ++ [')']
  | .compare path relation operand =>
    '[' :: (path.chars ++ ' ' :: relation.symbol.toList ++ ' ' :: operand.chars ++ [']'])
  | .text path function needle rendering =>
    let shown :=
      match rendering with
      | .plain => path.chars
      | .shortDate _ => "Date(".toList ++ path.chars ++ [')']
    '[' :: (shown ++ ' ' :: function.name.toList ++ ' ' :: (Value.string needle).chars ++ [']'])
  | .any path item => '[' :: (path.chars ++ ".Any(".toList ++ item.chars ++ [')', ']'])

/-- The written form of a condition. -/
def written (condition : Condition) : String :=
  String.ofList condition.chars

end Condition

end RecordFilter
