import RecordFilter.Criteria.Basic
import RecordFilter.Grammar.Scan
import RecordFilter.Value.Token

namespace RecordFilter

open Text

/-!
# Property criteria in brackets

* `Span.itemsTest?` — recognises a test of items, `Lines.Any(…)`.
* `propertyCriteria` — reads a test of one property, such as `Age >= 18`.
-/

/-- Recognises a test of the items of a collection: a name, `.Any` and a filter in parentheses. The
    answer is the name and the filter. -/
def Span.itemsTest? (body : Span) : Option (String × Span) :=
  let lead := body.chars.takeWhile isNameChar
  let name := lead.take (lead.length - 4)
  match body.chars.dropWhile isNameChar with
  | '(' :: rest =>
    if lead = name ++ ".Any".toList ∧ name ≠ [] ∧ rest.getLast? = some ')' then
      some (String.ofList name, ⟨body.start + byteLength lead + 1, rest.dropLast⟩)
    else none
  | _ => none

/-- The filter inside a test of items is shorter than the test. -/
theorem Span.length_itemsTest?_lt {body inner : Span} {name : String}
    (h : body.itemsTest? = some (name, inner)) : inner.chars.length < body.chars.length := by
  unfold Span.itemsTest? at h
  simp only at h
  split at h
  · rename_i rest hr
    split at h
    · have hle := (List.dropWhile_sublist isNameChar (l := body.chars)).length_le
      rw [hr] at hle
      simp only [Option.some.injEq, Prod.mk.injEq] at h
      rw [← h.2]
      simp at hle ⊢
      omega
    · simp at h
  · simp at h

/-! ### Operands -/

/-- Demands that a criteria has no operand. -/
def noOperand : List Span → Except FilterError Unit
  | [] => .ok ()
  | extra :: _ => .error (extra.fault .unexpectedToken)

/-- Demands that a criteria has one operand. -/
def oneOperand (body : Span) : List Span → Except FilterError Span
  | [] => .error (body.fault .missingValue)
  | [operand] => .ok operand
  | _ :: extra :: _ => .error (extra.fault .unexpectedToken)

/-- Demands that a criteria has three operands. -/
def threeOperands (body : Span) : List Span → Except FilterError (Span × Span × Span)
  | [first, second, third] => .ok (first, second, third)
  | _ :: _ :: _ :: extra :: _ => .error (extra.fault .unexpectedToken)
  | _ => .error (body.fault .missingValue)

/-- Reads a list of values in parentheses. -/
def valueList (culture : Culture) (list : Span) : Except FilterError (List Value) :=
  match list.chars with
  | '(' :: rest =>
    if rest.getLast? = some ')' then
      let inner : Span := ⟨list.start + 1, rest.dropLast⟩
      if allBlank inner.chars then .ok []
      else inner.listItems.mapM fun item => Value.ofToken culture item.trim
    else .error (list.fault .expectedList)
  | _ => .error (list.fault .expectedList)

/-! ### Tests -/

/-- Reads what follows the name of a property: an operator and its operands. -/
def propertyTest (culture : Culture) (body operator : Span) (operands : List Span) :
    Except FilterError PropertyTest :=
  let word := operator.text
  match ComparisonOperator.ofSymbol? word, PropertyFunction.ofName? word, DateInterval.ofName? word with
  | some comparison, _, _ => do
    let operand ← oneOperand body operands
    return .compare comparison (← Value.ofToken culture operand)
  | none, some .isNullOrEmpty, _ => do
    noOperand operands
    return .isNullOrEmpty
  | none, some (.text function), _ => do
    let operand ← oneOperand body operands
    return .text function (← Value.ofToken culture operand)
  | none, none, some interval => do
    noOperand operands
    return .within interval
  | none, none, none =>
    if word = "between" then do
      let (low, conjunction, high) ← threeOperands body operands
      if conjunction.text ≠ "and" then throw (conjunction.fault .expectedAnd)
      return .between (← Value.ofToken culture low) (← Value.ofToken culture high)
    else if word = "in" then do
      let list ← oneOperand body operands
      return .oneOf (← valueList culture list)
    else if word = "is" then
      if operands.map Span.text = ["NULL"] then .ok .isNull
      else if operands.map Span.text = ["not", "NULL"] then .ok .isNotNull
      else .error (body.fault .expectedNull)
    else .error (operator.fault .unknownFunction)

/-- Reads a test of one property: its name, an operator and the operands. -/
def propertyCriteria (culture : Culture) (body : Span) : Except FilterError Criteria :=
  match body.tokens with
  | name :: operator :: operands => do
    Criteria.ofTest name.text (← propertyTest culture body operator operands)
  | _ => .error (body.fault .incompleteProperty)

end RecordFilter
