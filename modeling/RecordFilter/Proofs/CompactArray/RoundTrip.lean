import RecordFilter.CompactArray.Reading
import RecordFilter.CompactArray.Writing
import RecordFilter.Proofs.Criteria.Text

namespace RecordFilter

/-!
# What comes back from a compact array

* `Criteria.arrayForm` — a filter with those parts rewritten for which compact arrays have another form.
* `CompactArray.toCriteria_of_ofCriteria` — the array of a filter describes the filter in that form.
-/

/-- A value as it comes back from a compact array: a date is its ISO 8601 text. -/
def Value.arrayForm : Value → Value
  | .dateTime moment => .string moment.isoText
  | value => value

/-- The equality with a value as it comes back from a compact array: with null it is the test for
    null. -/
def Value.equalityForm (name : String) : Value → Criteria
  | .null => .property name .isNull
  | value => .property name (.compare .equal value.arrayForm)

/-- A test of a property as it comes back from a compact array. Tests for not null come back as
    negations, spans of values as conjunctions and alternatives as disjunctions. -/
def PropertyTest.arrayForm (name : String) : PropertyTest → Criteria
  | .compare .equal value => value.equalityForm name
  | .compare .notEqual .null => .property name .isNotNull
  | .compare operator value => .property name (.compare operator value.arrayForm)
  | .text function argument => .property name (.text function argument.arrayForm)
  | .isNullOrEmpty =>
    .or (.property name .isNull) (.property name (.compare .equal (.string "")))
  | .between low high =>
    .and (.property name (.compare .greaterOrEqual low.arrayForm))
      (.property name (.compare .lessOrEqual high.arrayForm))
  | .oneOf (first :: rest) =>
    rest.foldl (fun found value => .or found (value.equalityForm name)) (first.equalityForm name)
  | .isNotNull => .not (.property name .isNull)
  | test => .property name test

/-- A filter as it comes back from a compact array. -/
def Criteria.arrayForm : Criteria → Criteria
  | .and left right => .and left.arrayForm right.arrayForm
  | .or left right => .or left.arrayForm right.arrayForm
  | .not inner => .not inner.arrayForm
  | .property name test => test.arrayForm name
  | .any name item => .any name item
  | .currentUser => .currentUser

namespace CompactArray

/-! ### Values and words -/

/-- The JSON scalar of a value stands for the value in array form. -/
theorem scalar_of_scalarJson {value : Value} {document : Json}
    (h : scalarJson value = .ok document) : scalar document = .ok value.arrayForm := by
  cases value with
  | float number =>
    rw [scalarJson] at h
    split at h
    · cases h
      rfl
    · cases h
  | int number =>
    cases h
    exact congrArg Except.ok (Value.ofNumber_toInt number)
  | _ =>
    cases h
    rfl

/-- The word of a comparison asks for the comparison. -/
theorem comparisonOfWord?_of_comparisonWord? {operator : ComparisonOperator} {word : String}
    (h : comparisonWord? operator = some word) :
    comparisonOfWord? word = some operator ∧ word ≠ "between" := by
  cases operator <;> cases h <;> decide

/-- The word of a text test asks for the text test, and for no comparison. -/
theorem functionOfWord?_functionWord (function : TextFunction) :
    functionOfWord? (functionWord function) = some function
      ∧ comparisonOfWord? (functionWord function) = none ∧ functionWord function ≠ "between" := by
  cases function <;> decide

/-! ### Arrays -/

/-- Only an array describes a filter, and as a link of a chain it has the same filter. -/
theorem link_of_toCriteria {document : Json} {criteria : Criteria}
    (h : toCriteria document = .ok criteria) :
    (∃ items, document = .array items) ∧ (link document).criteria = .ok criteria := by
  cases document with
  | array items => exact ⟨⟨items, rfl⟩, h⟩
  | _ => cases h

/-- The array of a property, a word and an operand is a leaf. -/
theorem toCriteria_leafJson (name word : String) (operand : Json) :
    toCriteria (leafJson name word operand) = leaf name word operand :=
  rfl

/-- Two arrays joined by a word describe two joined filters. -/
theorem toCriteria_pairJson (connector : Connective) {left right : Json} {word : String}
    {first second : Criteria} (hword : connective word = .ok connector)
    (hl : toCriteria left = .ok first) (hr : toCriteria right = .ok second) :
    toCriteria (pairJson left word right) = .ok (connector.join first second) := by
  obtain ⟨⟨items, rfl⟩, hfirst⟩ := link_of_toCriteria hl
  obtain ⟨_, hsecond⟩ := link_of_toCriteria hr
  show (do
    let left ← (link (.array items)).criteria
    let right ← (link right).criteria
    return (← connective word).join left right) = _
  rw [hfirst, hsecond, hword]
  rfl

/-- The negation of an array describes the negated filter. -/
theorem toCriteria_notJson {document : Json} {inner : Criteria}
    (h : toCriteria document = .ok inner) : toCriteria (notJson document) = .ok (.not inner) := by
  obtain ⟨_, hinner⟩ := link_of_toCriteria h
  show (do return Criteria.not (← (link document).criteria)) = _
  rw [hinner]
  rfl

/-- Two arrays are joined if both are there. -/
theorem pairJson_eq_ok {left right : Except FilterError Json} {word : String} {document : Json} :
    (do return pairJson (← left) word (← right) : Except FilterError Json) = .ok document
      ↔ ∃ l r, left = .ok l ∧ right = .ok r ∧ document = pairJson l word r := by
  rw [bind_eq_ok]
  constructor
  · rintro ⟨l, hl, h⟩
    obtain ⟨r, hr, heq⟩ := bind_eq_ok.1 h
    cases heq
    exact ⟨l, r, hl, hr, rfl⟩
  · rintro ⟨l, r, hl, hr, rfl⟩
    exact ⟨l, hl, bind_eq_ok.2 ⟨r, hr, rfl⟩⟩

/-! ### Property tests -/

section

variable {name : String} (hname : IsPropertyName name)
include hname

/-- A comparison comes back, with null as a test for null. -/
theorem toCriteria_comparison (operator : ComparisonOperator) {word : String} {value : Value}
    {operand : Json} (hword : comparisonWord? operator = some word)
    (hvalue : scalarJson value = .ok operand) :
    toCriteria (leafJson name word operand)
      = .ok (.property name (comparison operator value.arrayForm)) := by
  obtain ⟨hoperator, hbetween⟩ := comparisonOfWord?_of_comparisonWord? hword
  rw [toCriteria_leafJson]
  unfold leaf
  rw [if_neg hbetween, scalar_of_scalarJson hvalue, ok_bind, hoperator]
  exact Criteria.checked_eq_ok.2 ⟨hname, rfl⟩

/-- A text test comes back. -/
theorem toCriteria_text (function : TextFunction) {argument : Value} {operand : Json}
    (hvalue : scalarJson argument = .ok operand) :
    toCriteria (leafJson name (functionWord function) operand)
      = .ok (.property name (.text function argument.arrayForm)) := by
  obtain ⟨hfunction, hcomparison, hbetween⟩ := functionOfWord?_functionWord function
  rw [toCriteria_leafJson]
  unfold leaf
  rw [if_neg hbetween, scalar_of_scalarJson hvalue, ok_bind, hcomparison, hfunction]
  exact Criteria.checked_eq_ok.2 ⟨hname, rfl⟩

/-- An equality comes back. -/
theorem toCriteria_of_equalityJson {value : Value} {document : Json}
    (h : equalityJson name value = .ok document) :
    toCriteria document = .ok (value.equalityForm name) := by
  obtain ⟨operand, hvalue, heq⟩ := bind_eq_ok.1 h
  cases heq
  rw [toCriteria_comparison hname .equal rfl hvalue]
  cases value <;> rfl

/-- Alternatives come back as a disjunction. -/
theorem toCriteria_of_foldlM {values : List Value} {start document : Json} {found : Criteria}
    (hstart : toCriteria start = .ok found)
    (h : values.foldlM (fun found value => do
      return pairJson found "or" (← equalityJson name value)) start = .ok document) :
    toCriteria document
      = .ok (values.foldl (fun found value => .or found (value.equalityForm name)) found) := by
  induction values generalizing start found with
  | nil =>
    cases h
    exact hstart
  | cons value rest ih =>
    rw [List.foldlM_cons] at h
    obtain ⟨next, hnext, h⟩ := bind_eq_ok.1 h
    obtain ⟨equality, hequality, heq⟩ := bind_eq_ok.1 hnext
    cases heq
    exact ih (toCriteria_pairJson .or rfl hstart
      (toCriteria_of_equalityJson hname hequality)) h

/-- **The array of a property test describes the test in array form.** -/
theorem toCriteria_of_testJson {test : PropertyTest} {document : Json}
    (h : testJson name test = .ok document) : toCriteria document = .ok (test.arrayForm name) := by
  have hnull : toCriteria (leafJson name "=" .null) = .ok (.property name .isNull) :=
    toCriteria_comparison hname .equal rfl (show scalarJson .null = .ok .null from rfl)
  cases test with
  | compare operator value =>
    rw [testJson] at h
    cases hword : comparisonWord? operator with
    | none =>
      rw [hword] at h
      cases h
    | some word =>
      rw [hword] at h
      obtain ⟨operand, hvalue, heq⟩ := bind_eq_ok.1 h
      cases heq
      rw [toCriteria_comparison hname operator hword hvalue]
      cases operator <;> cases value <;> rfl
  | text function argument =>
    obtain ⟨operand, hvalue, heq⟩ := bind_eq_ok.1 h
    cases heq
    exact toCriteria_text hname function hvalue
  | isNullOrEmpty =>
    cases h
    have hempty : scalarJson (.string "") = .ok (.string "") := rfl
    exact toCriteria_pairJson .or rfl hnull (toCriteria_comparison hname .equal rfl hempty)
  | between low high =>
    obtain ⟨first, hlow, h⟩ := bind_eq_ok.1 h
    obtain ⟨second, hhigh, heq⟩ := bind_eq_ok.1 h
    cases heq
    exact toCriteria_pairJson .and rfl (toCriteria_comparison hname .greaterOrEqual rfl hlow)
      (toCriteria_comparison hname .lessOrEqual rfl hhigh)
  | oneOf values =>
    cases values with
    | nil => cases h
    | cons first rest =>
      obtain ⟨start, hstart, h⟩ := bind_eq_ok.1 h
      exact toCriteria_of_foldlM hname (toCriteria_of_equalityJson hname hstart) h
  | isNull =>
    cases h
    exact hnull
  | isNotNull =>
    cases h
    exact toCriteria_notJson hnull
  | within => cases h

end

/-- **The array of a filter describes the filter in array form.** -/
theorem toCriteria_of_ofCriteria {criteria : Criteria} (hwf : criteria.WellFormed)
    {document : Json} (h : ofCriteria criteria = .ok document) :
    toCriteria document = .ok criteria.arrayForm := by
  induction criteria generalizing document with
  | and left right ihl ihr =>
    obtain ⟨l, r, hl, hr, rfl⟩ := pairJson_eq_ok.1 h
    exact toCriteria_pairJson .and rfl (ihl hwf.1 hl) (ihr hwf.2 hr)
  | or left right ihl ihr =>
    obtain ⟨l, r, hl, hr, rfl⟩ := pairJson_eq_ok.1 h
    exact toCriteria_pairJson .or rfl (ihl hwf.1 hl) (ihr hwf.2 hr)
  | not inner ih =>
    obtain ⟨t, ht, heq⟩ := bind_eq_ok.1 h
    cases heq
    exact toCriteria_notJson (ih hwf ht)
  | property name test => exact toCriteria_of_testJson hwf h
  | any => cases h
  | currentUser => cases h

end CompactArray

end RecordFilter
