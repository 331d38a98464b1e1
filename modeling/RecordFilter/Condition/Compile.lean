import RecordFilter.Condition.Basic
import RecordFilter.Criteria.Text
import RecordFilter.Interval

namespace RecordFilter

open Text

/-!
# From criteria to conditions

* `Setting` — what the meaning of a filter depends on besides the type: a culture and the current day.
* `Value.coerce` — a value in the representation of a member's kind.
* `Condition.compile` — binds a filter to a record type.

Every path is resolved before the values are looked at, and the values before the operator; the first
fault in that order is reported.
-/

/-- The culture and the day that a filter is read with. -/
structure Setting where
  culture : Culture
  today : Date

/-- A member together with the path that leads to it. -/
structure Target where
  path : MemberPath
  member : Member

namespace Target

/-- The member that a dotted name leads to. -/
def resolve (type : RecordType) (name : String) : Except FilterError Target := do
  let (path, member) ← type.resolve name
  return ⟨path, member⟩

/-- What the member holds. -/
def kind (target : Target) : MemberKind :=
  target.member.kind

/-- The condition that the member is so related to a value. -/
def compare (target : Target) (relation : Relation) (operand : Value) : Condition :=
  .compare target.path relation operand

end Target

namespace Value

/-- A value in the representation of a member's kind, if members of that kind are compared with such
    values. Null fits every member that may be null, integers fit members that hold doubles, and texts fit
    dates if they can be read as one. -/
def coerce? (culture : Culture) (member : Member) (value : Value) : Option Value :=
  match member.kind, value with
  | _, .null => if member.isNullable then some .null else none
  | .string, .string text => some (.string text)
  | .integer, .int number => some (.int number)
  | .enumeration, .int number => some (.int number)
  | .boolean, .bool truth => some (.bool truth)
  | .dateTime, .dateTime moment => some (.dateTime moment)
  | .dateTime, .string text => (culture.dateTime? text.toList).map .dateTime
  | .float, .int number => some (.float (Double.ofInt number.toInt))
  | .decimal, .int number => some (.float (Double.ofInt number.toInt))
  | .float, .float number => some (.float number)
  | .decimal, .float number => some (.float number)
  | _, _ => none

/-- A value in the representation of a member's kind. -/
def coerce (culture : Culture) (target : Target) (value : Value) : Except FilterError Value :=
  match value.coerce? culture target.member with
  | some operand => .ok operand
  | none =>
    .error (.typeMismatch
      (.incomparable target.kind.name target.path.text value.kindName value.text))

end Value

namespace Condition

/-- The condition that a member is so related to a value. -/
def compileRelation (culture : Culture) (target : Target) (relation : Relation) (value : Value) :
    Except FilterError Condition := do
  let operand ← value.coerce culture target
  if relation.isOrdering && !target.kind.isOrdered then
    throw (.typeMismatch (.unordered relation.symbol target.kind.name target.path.text))
  return target.compare relation operand

/-! ### Patterns -/

/-- What a pattern asks for: a text test, or equality where it has no wildcard at its ends. -/
inductive Pattern where
  | test (function : TextFunction) (needle : String)
  | equal (text : String)
deriving DecidableEq

/-- What a pattern asks for: `%x%` contains, `x%` begins with, `%x` ends with. A lone `%` stands at the
    end of a pattern. -/
def Pattern.ofText (pattern : String) : Pattern :=
  let chars := pattern.toList
  let opens := chars.head? == some '%'
  let closes := chars.getLast? == some '%'
  if opens && closes && 2 ≤ chars.length then
    .test .contains (String.ofList (chars.drop 1).dropLast)
  else if closes then .test .startsWith (String.ofList chars.dropLast)
  else if opens then .test .endsWith (String.ofList (chars.drop 1))
  else .equal pattern

/-- The condition that a member matches a pattern. Only texts match, and nothing matches the empty
    pattern. -/
def compileLike (culture : Culture) (target : Target) (value : Value) :
    Except FilterError Condition :=
  match target.kind, value with
  | .string, .string pattern =>
    if pattern = "" then .ok (.constant false)
    else
      match Pattern.ofText pattern with
      | .test function needle => .ok (.text target.path function needle .plain)
      | .equal exact => compileRelation culture target .equal (.string exact)
  | _, _ => .ok (.constant false)

/-! ### Other tests -/

/-- The condition that the text of a member passes a text test. Members that are neither texts nor dates
    have no text, and null is no text to look for. -/
def compileText (culture : Culture) (target : Target) (function : TextFunction)
    (argument : Value) : Condition :=
  match argument.plainText?, target.kind with
  | some needle, .string => .text target.path function needle .plain
  | some needle, .dateTime =>
    .text target.path function (culture.shortFragment needle) (.shortDate culture)
  | _, _ => .constant false

/-- The condition that a member is null or the empty text. -/
def compileNullOrEmpty (target : Target) : Condition :=
  let isNull := target.compare .equal .null
  match target.kind with
  | .string => .or isNull (target.compare .equal (.string ""))
  | kind =>
    if kind.isNumeric && target.member.isNullable then isNull else .constant false

/-- The condition that a member is one of some values: any of the equalities, from left to right. -/
def compileOneOf (culture : Culture) (target : Target) : List Value → Except FilterError Condition
  | [] => .ok (.constant false)
  | first :: rest => do
    let start ← compileRelation culture target .equal first
    rest.foldlM (fun found value => do
      return .or found (← compileRelation culture target .equal value)) start

/-- The condition that a member lies in a span of time. -/
def ofSpan (target : Target) (span : DateSpan) : Condition :=
  let lower := span.lower.map fun moment => target.compare .greaterOrEqual (.dateTime moment)
  let upper := span.upper.map fun moment => target.compare .less (.dateTime moment)
  match lower, upper with
  | some lower, some upper => .and lower upper
  | some bound, none => bound
  | none, some bound => bound
  | none, none => .constant true

/-- The condition that a member is a date in an interval. -/
def compileInterval (today : Date) (target : Target) (interval : DateInterval) :
    Except FilterError Condition :=
  match target.kind with
  | .dateTime => do return ofSpan target (← interval.bounds today)
  | kind => .error (.typeMismatch (.notADate interval.name target.path.text kind.name))

/-- Binds a test of one property to the member that the property leads to. -/
def compileTest (setting : Setting) (target : Target) :
    PropertyTest → Except FilterError Condition
  | .compare operator value =>
    match operator.relation? with
    | some relation => compileRelation setting.culture target relation value
    | none => compileLike setting.culture target value
  | .text function argument => .ok (compileText setting.culture target function argument)
  | .isNullOrEmpty => .ok (compileNullOrEmpty target)
  | .between low high => do
    let aboveLow ← compileRelation setting.culture target .greaterOrEqual low
    let belowHigh ← compileRelation setting.culture target .lessOrEqual high
    return .and aboveLow belowHigh
  | .oneOf values => compileOneOf setting.culture target values
  | .isNull =>
    .ok (if target.member.isNullable then target.compare .equal .null else .constant false)
  | .isNotNull =>
    .ok (if target.member.isNullable then target.compare .notEqual .null else .constant true)
  | .within interval => compileInterval setting.today target interval

/-- Binds a filter to a record type. -/
def compile (setting : Setting) (type : RecordType) : Criteria → Except FilterError Condition
  | .and left right => do
    return .and (← compile setting type left) (← compile setting type right)
  | .or left right => do
    return .or (← compile setting type left) (← compile setting type right)
  | .not inner => do return .not (← compile setting type inner)
  | .property name test => do compileTest setting (← Target.resolve type name) test
  | .any name item => do
    let target ← Target.resolve type name
    match target.kind with
    | .collection itemType => return .any target.path (← compile setting itemType item)
    | kind => throw (.typeMismatch (.notACollection target.path.text kind.name))
  | .currentUser => .error (.unsupported .currentUser)

end Condition

end RecordFilter
