import RecordFilter.Json.Text
import RecordFilter.Calendar.DateTime

namespace RecordFilter

open Text

/-!
# Errors

* `FilterError` — everything that can go wrong with a filter, by cause.
* `FilterError.message` — the sentence that reports it.
-/

/-- Why a name cannot stand for a property. -/
inductive NameFault where
  /-- The name is empty or blank. -/
  | blank
  /-- The name holds a character that names may not hold. -/
  | characters (name : String)
  /-- A segment between the dots of a path is empty or blank. -/
  | segment (path : String)
deriving DecidableEq

/-- The sentence that reports a bad name. -/
def NameFault.message : NameFault → String
  | .blank => "property name must not be empty"
  | .characters name =>
    "property name '" ++ name ++ "' may only contain letters, digits, '_' and '.'"
  | .segment path => "invalid member path '" ++ path ++ "'"

/-- What is wrong with a filter text at some place. -/
inductive ParseFault where
  | unterminatedString
  | invalidDateTime
  | unknownValue
  | trailingInput
  | unclosedNot
  | endOfInput
  | unexpectedToken
  | expectedConnective
  | unclosedGroup
  | unclosedBracket
  | incompleteProperty
  | missingValue
  | expectedAnd
  | unknownFunction
  | expectedList
  | expectedNull
deriving DecidableEq

/-- The sentence that reports a fault in a filter text. -/
def ParseFault.message : ParseFault → String
  | .unterminatedString => "unterminated string literal"
  | .invalidDateTime => "invalid date/time literal"
  | .unknownValue => "unknown type of value token"
  | .trailingInput => "unexpected trailing input"
  | .unclosedNot => "missing closing parenthesis after not"
  | .endOfInput => "unexpected end of input"
  | .unexpectedToken => "unexpected token"
  | .expectedConnective => "expected AND or OR"
  | .unclosedGroup => "missing closing parenthesis"
  | .unclosedBracket => "missing closing bracket"
  | .incompleteProperty => "incomplete property criteria"
  | .missingValue => "missing value"
  | .expectedAnd => "expected 'and' in between criteria"
  | .unknownFunction => "function criteria not supported"
  | .expectedList => "expected parenthesized value list"
  | .expectedNull => "expected 'is NULL' or 'is not NULL'"

/-- What a format or the evaluation does not provide for. -/
inductive SupportFault where
  /-- The current user is known to the host only. -/
  | currentUser
  | unaryOperator (name : String)
  | binaryOperator (name : String)
  | function (name : String)
  | customFunction
  | noTreeForm (criteria : String)
  | noArrayForm (criteria : String)
  | connective (word : String)
  | arrayOperator (word : String)
deriving DecidableEq

/-- The sentence that reports what is not provided for. -/
def SupportFault.message : SupportFault → String
  | .currentUser => "CurrentUser must be substituted before compilation"
  | .unaryOperator name => "unary operator " ++ name
  | .binaryOperator name => "binary operator " ++ name
  | .function name => "function " ++ name
  | .customFunction => "custom function"
  | .noTreeForm criteria => criteria ++ " has no operator-tree form"
  | .noArrayForm criteria => criteria ++ " has no compact array form"
  | .connective word => "compact connective '" ++ word ++ "'"
  | .arrayOperator word => "compact operator '" ++ word ++ "'"

/-- How a filter disagrees with the type of the records, or a record with its type. -/
inductive TypeFault where
  /-- A path goes on after a member that is no object. -/
  | notAnObject (member owner kind segment : String)
  /-- An ordering operator on a kind without an order. -/
  | unordered (operator kind path : String)
  /-- A value that members of the kind are not compared with. -/
  | incomparable (kind path valueKind value : String)
  /-- An item test on a member that is no collection. -/
  | notACollection (path kind : String)
  /-- A date interval on a member that is no date. -/
  | notADate (interval path kind : String)
  /-- A record holds a value of another kind than its type has. -/
  | unexpectedValue (path kind : String)
deriving DecidableEq

/-- The sentence that reports a disagreement of types. -/
def TypeFault.message : TypeFault → String
  | .notAnObject member owner kind segment =>
    "member '" ++ member ++ "' of '" ++ owner ++ "' is " ++ kind ++ ", cannot access '" ++
      segment ++ "' on it"
  | .unordered operator kind path =>
    "operator " ++ operator ++ " is not defined on " ++ kind ++ " member '" ++ path ++ "'"
  | .incomparable kind path valueKind value =>
    "cannot compare " ++ kind ++ " member '" ++ path ++ "' with " ++ valueKind ++ " value " ++
      value
  | .notACollection path kind => "Any requires a collection, '" ++ path ++ "' is " ++ kind
  | .notADate interval path kind =>
    interval ++ " requires a date/time member, '" ++ path ++ "' is " ++ kind
  | .unexpectedValue path kind =>
    "member '" ++ path ++ "' holds an unexpected " ++ kind ++ " value"

/-- Why a filter has no answer on a record or a day. -/
inductive EvaluationFault where
  | dateOutOfRange (year : Int) (month day : Nat)
  | intervalOutOfRange (date : Date)
  | nullCollection (path : String)
  | nullReference (segment path : String)
  | noMember (name : String)
deriving DecidableEq

/-- The sentence that reports a missing answer. -/
def EvaluationFault.message : EvaluationFault → String
  | .dateOutOfRange year month day =>
    "date " ++ String.ofList (intChars year) ++ "-" ++ String.ofList (natChars month) ++ "-" ++
      String.ofList (natChars day) ++ " out of range"
  | .intervalOutOfRange date =>
    "interval around " ++ String.ofList (DateTime.dateText date) ++ " out of range"
  | .nullCollection path => "collection '" ++ path ++ "' is null"
  | .nullReference segment path => "null reference at '" ++ segment ++ "' in '" ++ path ++ "'"
  | .noMember name => "record has no member '" ++ name ++ "'"

/-- What is wrong with an operand of an exchange format. -/
inductive OperandFault where
  | emptyArray
  | notAnArray (found : Json)
  | notAFilter (found : Json)
  | notAConnective (found : Json)
  | unreadable (found : Json)
  | dangling (word : String)
  | notTwoBounds (found : Json)
  | notAScalar (found : Json)
  | noValues (criteria : String)
  | notFinite (number : Double)
  | emptyGroup
  | noProperty (function : String)
  | noArgument (function : String)
  | notADay (kind : String)
  | dayOutOfRange (day : DateTime)
  | noDay
  | notAProperty (kind : String)
  | notAValue (kind : String)
  | notACriteria (kind : String)

/-- The sentence that reports a bad operand. -/
def OperandFault.message : OperandFault → String
  | .emptyArray => "empty filter array"
  | .notAnArray found => "filter must be an array, found " ++ found.canonical.text
  | .notAFilter found => "expected a filter, found " ++ found.canonical.text
  | .notAConnective found => "expected a connective, found " ++ found.canonical.text
  | .unreadable found => "cannot interpret " ++ found.canonical.text
  | .dangling word => "'" ++ word ++ "' has no right operand"
  | .notTwoBounds found => "between expects two bounds, found " ++ found.canonical.text
  | .notAScalar found => "expected a scalar value, found " ++ found.canonical.text
  | .noValues criteria => criteria ++ " has no values"
  | .notFinite number => number.plainText ++ " has no JSON form"
  | .emptyGroup => "group without operands"
  | .noProperty function => function ++ " requires a property operand"
  | .noArgument function => function ++ " requires an argument"
  | .notADay kind => "IsSameDay expects date/time arguments, got " ++ kind
  | .dayOutOfRange day => "day after " ++ day.plainText ++ " is out of range"
  | .noDay => "IsSameDay requires a date"
  | .notAProperty kind => "expected a property operand, found " ++ kind
  | .notAValue kind => "expected a value operand, found " ++ kind
  | .notACriteria kind => kind ++ " operand is not a criteria"

/-- Everything that can go wrong with a filter. -/
inductive FilterError where
  /-- A criteria cannot be built with this name. -/
  | construction (fault : NameFault)
  /-- A filter text has a fault: the text at the fault and its byte position. -/
  | parse (fault : ParseFault) (fragment : String) (position : Nat)
  /-- Something is not provided for. -/
  | unsupported (fault : SupportFault)
  /-- A property name is not in the table of names. -/
  | unresolvedProperty (name : String)
  /-- A type has no such member. -/
  | memberNotFound (type member : String)
  /-- Types disagree. -/
  | typeMismatch (fault : TypeFault)
  /-- A filter has no answer. -/
  | evaluation (fault : EvaluationFault)
  /-- An exchange format has a bad operand. -/
  | invalidOperand (fault : OperandFault)
  /-- A JSON text cannot be read, or not as what it should be. -/
  | deserialization

/-- The sentence that reports an error. -/
def FilterError.message : FilterError → String
  | .construction fault => "Invalid criteria: " ++ fault.message
  | .parse fault fragment position =>
    "Parse error at position " ++ String.ofList (natChars position) ++ ": " ++ fault.message ++
      " ('" ++ fragment ++ "')"
  | .unsupported fault => "Unsupported operator: " ++ fault.message
  | .unresolvedProperty name => "Unresolved property: " ++ name
  | .memberNotFound type member => "Member '" ++ member ++ "' not found on type '" ++ type ++ "'"
  | .typeMismatch fault => "Type mismatch: " ++ fault.message
  | .evaluation fault => "Evaluation error: " ++ fault.message
  | .invalidOperand fault => "Invalid operand: " ++ fault.message
  | .deserialization => "Deserialization error"

end RecordFilter
