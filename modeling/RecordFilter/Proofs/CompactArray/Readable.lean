import RecordFilter.Proofs.CompactArray.Leaves
import RecordFilter.Proofs.Json.Numbers
import RecordFilter.Proofs.Text.Plain

namespace RecordFilter

/-!
# The filters that compact arrays describe

* `Criteria.Readable` — the filters that the reader of compact arrays makes.
* `CompactArray.readable_leaf` — a leaf is such a filter.
* `CompactArray.readable_toCriteria` — hence the reader makes no others.

A document has no dates, and the reader settles comparisons for equality with null at once.
-/

/-- A value that a JSON scalar stands for: anything but a date or a double that is not finite. -/
inductive Value.IsScalar : Value → Prop where
  | null : IsScalar .null
  | bool (value : Bool) : IsScalar (.bool value)
  | int (value : Int64) : IsScalar (.int value)
  | float (value : Double) (finite : value.IsFinite) : IsScalar (.float value)
  | string (value : String) : IsScalar (.string value)

/-- A comparison for equality with null, which is a test for null in another form. -/
def PropertyTest.IsNullComparison (test : PropertyTest) : Prop :=
  test = .compare .equal .null ∨ test = .compare .notEqual .null

/-- A test that a compact array can ask for. -/
inductive PropertyTest.Readable : PropertyTest → Prop where
  | compare (operator : ComparisonOperator) (value : Value) (scalar : value.IsScalar)
      (noPattern : operator ≠ .like)
      (noNullTest : ¬ (PropertyTest.compare operator value).IsNullComparison) :
      Readable (.compare operator value)
  | text (function : TextFunction) (argument : Value) (scalar : argument.IsScalar) :
      Readable (.text function argument)
  | between (low high : Value) (scalarLow : low.IsScalar) (scalarHigh : high.IsScalar) :
      Readable (.between low high)
  | isNull : Readable .isNull
  | isNotNull : Readable .isNotNull

/-- A filter that a compact array can describe. -/
inductive Criteria.Readable : Criteria → Prop where
  | and (left right : Criteria) (readableLeft : left.Readable) (readableRight : right.Readable) :
      Readable (.and left right)
  | or (left right : Criteria) (readableLeft : left.Readable) (readableRight : right.Readable) :
      Readable (.or left right)
  | not (inner : Criteria) (readable : inner.Readable) : Readable (.not inner)
  | property (name : String) (test : PropertyTest) (isName : IsPropertyName name)
      (readable : test.Readable) : Readable (.property name test)

namespace Criteria.Readable

/-- The names in a readable filter are property names. -/
theorem wellFormed {criteria : Criteria} (h : criteria.Readable) : criteria.WellFormed := by
  induction h with
  | and _ _ _ _ ihl ihr => exact ⟨ihl, ihr⟩
  | or _ _ _ _ ihl ihr => exact ⟨ihl, ihr⟩
  | not _ _ ih => exact ih
  | property _ _ isName => exact isName

/-- Joined readable filters are readable. -/
theorem join (connective : Connective) {left right : Criteria} (hl : left.Readable)
    (hr : right.Readable) : (connective.join left right).Readable := by
  cases connective with
  | and => exact .and left right hl hr
  | or => exact .or left right hl hr

end Criteria.Readable

namespace CompactArray

/-! ### Leaves -/

/-- The value of a document whose numbers fit is a scalar. -/
theorem isScalar_scalar {document : Json} (h : document.NumbersFit) :
    Makes Value.IsScalar (scalar document) := by
  cases h with
  | null => exact Value.IsScalar.null
  | bool value => exact Value.IsScalar.bool value
  | int number lower upper =>
    show (Value.ofNumber number).IsScalar
    rw [Value.ofNumber, Value.ofInt?]
    split
    case isTrue => exact .int _
    case isFalse =>
      -- Beyond the signed integers there is a finite double.
      refine .float _ (Double.isFinite_ofInt ?_)
      have hlower : Int64.minValue.toInt = -(2 ^ 63) := rfl
      have hupper : NumberToken.wordMax = 2 ^ 64 - 1 := rfl
      omega
  | float value finite => exact Value.IsScalar.float value finite
  | string value => exact Value.IsScalar.string value
  | array => exact True.intro
  | object => exact True.intro

/-- A readable test of a property is a readable filter. -/
theorem readable_ofTest (name : String) {test : PropertyTest} (h : test.Readable) :
    Makes Criteria.Readable (Criteria.ofTest name test) := by
  unfold Criteria.ofTest
  cases hname : checkPropertyName name with
  | error => exact True.intro
  | ok =>
    exact Criteria.Readable.property name test (checkPropertyName_eq_ok.1 hname) h

/-- No word asks for a pattern. -/
theorem ne_like_of_comparisonOfWord? {word : String} {operator : ComparisonOperator}
    (h : comparisonOfWord? word = some operator) : operator ≠ .like := by
  rintro rfl
  unfold comparisonOfWord? at h
  repeat' split at h
  all_goals cases h

/-- A comparison that a word asks for is readable, equality with null being a test for null. -/
theorem readable_comparison {operator : ComparisonOperator} {value : Value}
    (hop : operator ≠ .like) (h : value.IsScalar) : (comparison operator value).Readable := by
  unfold comparison
  split
  case h_1 => exact .isNull
  case h_2 => exact .isNotNull
  case h_3 hequal hnotEqual =>
    refine .compare operator value h hop ?_
    rintro (hnull | hnull)
    · cases hnull
      exact hequal rfl rfl
    · cases hnull
      exact hnotEqual rfl rfl

/-- **A leaf is a readable filter.** -/
theorem readable_leaf (name word : String) {operand : Json} (h : operand.NumbersFit) :
    Makes Criteria.Readable (leaf name word operand) := by
  unfold leaf
  split
  case isTrue =>
    split
    case h_1 low high =>
      cases h with
      | array _ fit =>
        refine (isScalar_scalar (fit low (by simp))).bind fun low _ hlow => ?_
        refine (isScalar_scalar (fit high (by simp))).bind fun high _ hhigh => ?_
        exact readable_ofTest name (.between low high hlow hhigh)
    case h_2 => exact True.intro
  case isFalse =>
    refine (isScalar_scalar h).bind fun value _ hvalue => ?_
    split
    case h_1 operator _ hword =>
      exact readable_ofTest name (readable_comparison (ne_like_of_comparisonOfWord? hword) hvalue)
    case h_2 function _ _ => exact readable_ofTest name (.text function value hvalue)
    case h_3 =>
      split
      case isTrue =>
        refine (readable_ofTest name (.text .contains value hvalue)).bind fun inner _ hinner => ?_
        exact Criteria.Readable.not inner hinner
      case isFalse => exact True.intro

/-! ### Documents -/

/-- Joining and negating readable filters makes readable ones. -/
theorem readable_isStable : Criteria.IsStable Criteria.Readable where
  join := fun connective _ _ hl hr => hl.join connective hr
  not := Criteria.Readable.not

/-- The items of an array whose numbers fit have numbers that fit. -/
theorem numbersFit_item {items : List Json} (h : (Json.array items).NumbersFit) {item : Json}
    (hmem : item ∈ items) : item.NumbersFit := by
  cases h with
  | array _ fit => exact fit item hmem

/-- **A document whose numbers fit describes a readable filter, if it describes any.** -/
theorem readable_toCriteria {document : Json} (h : document.NumbersFit) {criteria : Criteria}
    (hread : toCriteria document = .ok criteria) : criteria.Readable := by
  refine (toCriteria_makes readable_isStable ?_ ?_ h).of_eq_ok hread
  · exact fun items fit item hmem => numbersFit_item fit hmem
  · exact fun name word operand fit => readable_leaf name word fit

end CompactArray

end RecordFilter
