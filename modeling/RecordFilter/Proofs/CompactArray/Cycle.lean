import RecordFilter.Proofs.CompactArray.Extent
import RecordFilter.Proofs.CompactArray.Readable
import RecordFilter.Proofs.Condition.Expansions
import RecordFilter.Proofs.OperatorTree.RoundTrip

namespace RecordFilter

/-!
# Compact arrays that are read, written and read again

* `CompactArray.exists_ofCriteria` — a filter that was read has an array.
* `CompactArray.sameOutcome_arrayForm` — what comes back from that array comes to the same.
* `CompactArray.ofCriteria_arrayForm` — and it has the same array, so that there is nothing left to
  change.
* `CompactArray.toCriteria_cycle` — all of it for a document that describes a filter.

The array need not be the document: connectives that are left out, nested single items and equalities
without a word are written in full.
-/

/-- A value that a scalar stands for has a scalar. -/
theorem Value.IsScalar.hasScalar {value : Value} (h : value.IsScalar) : value.HasScalar := by
  rintro number rfl
  cases h with
  | float _ finite => exact finite

/-- A value that a scalar stands for comes back as it is. -/
theorem Value.IsScalar.arrayForm_eq {value : Value} (h : value.IsScalar) :
    value.arrayForm = value := by
  cases h <;> rfl

/-- A readable comparison comes back as it is. -/
theorem PropertyTest.arrayForm_compare (name : String) {operator : ComparisonOperator}
    {value : Value} (hscalar : value.IsScalar)
    (hnull : ¬ (PropertyTest.compare operator value).IsNullComparison) :
    (PropertyTest.compare operator value).arrayForm name
      = .property name (.compare operator value) := by
  cases hscalar with
  | null =>
    cases operator with
    | equal => exact absurd (Or.inl rfl) hnull
    | notEqual => exact absurd (Or.inr rfl) hnull
    | _ => rfl
  | _ => cases operator <;> rfl

namespace CompactArray

open Criteria

/-! ### Readable filters have an array -/

/-- A readable test has an array. -/
theorem hasArray_of_readable (name : String) {test : PropertyTest} (h : test.Readable) :
    (Criteria.property name test).HasArray := by
  rw [hasArray_property]
  cases h with
  | compare operator value scalar noPattern =>
    refine ⟨?_, List.forall_mem_singleton.2 scalar.hasScalar⟩
    rintro ⟨⟩
    exact noPattern rfl
  | text function argument scalar => exact ⟨nofun, List.forall_mem_singleton.2 scalar.hasScalar⟩
  | between low high scalarLow scalarHigh =>
    exact ⟨nofun, List.forall_mem_cons.2
      ⟨scalarLow.hasScalar, List.forall_mem_singleton.2 scalarHigh.hasScalar⟩⟩
  | isNull => exact ⟨nofun, List.forall_mem_nil _⟩
  | isNotNull => exact ⟨nofun, List.forall_mem_nil _⟩

/-- **A readable filter has an array.** -/
theorem exists_ofCriteria {criteria : Criteria} (h : criteria.Readable) :
    ∃ document, ofCriteria criteria = .ok document := by
  rw [exists_ofCriteria_iff]
  induction h with
  | and left right _ _ ihl ihr => exact (hasArray_join .and left right).2 ⟨ihl, ihr⟩
  | or left right _ _ ihl ihr => exact (hasArray_join .or left right).2 ⟨ihl, ihr⟩
  | not inner _ ih => exact (hasArray_not inner).2 ih
  | property name test _ readable => exact hasArray_of_readable name readable

/-! ### Readable filters in array form -/

/-- A readable test comes to the same in array form. -/
theorem sameOutcome_testForm (name : String) {test : PropertyTest} (h : test.Readable) :
    SameOutcome (.property name test) (test.arrayForm name) := by
  cases h with
  | compare operator value scalar _ noNullTest =>
    rw [PropertyTest.arrayForm_compare name scalar noNullTest]
    exact .refl _
  | text function argument scalar =>
    rw [PropertyTest.arrayForm, scalar.arrayForm_eq]
    exact .refl _
  | between low high scalarLow scalarHigh =>
    rw [PropertyTest.arrayForm, scalarLow.arrayForm_eq, scalarHigh.arrayForm_eq]
    intro setting type record
    rw [outcome, outcome, Condition.compile_between]
  | isNull => exact .refl _
  | isNotNull => exact sameOutcome_isNotNull name

/-- **A readable filter comes to the same in array form.** -/
theorem sameOutcome_arrayForm {criteria : Criteria} (h : criteria.Readable) :
    SameOutcome criteria criteria.arrayForm := by
  induction h with
  | and _ _ _ _ ihl ihr => exact ihl.and ihr
  | or _ _ _ _ ihl ihr => exact ihl.or ihr
  | not _ _ ih => exact ih.not
  | property name test _ readable => exact sameOutcome_testForm name readable

/-- A readable test and its array form have the same array. -/
theorem ofCriteria_testForm (name : String) {test : PropertyTest} (h : test.Readable) :
    ofCriteria (test.arrayForm name) = testJson name test := by
  cases h with
  | compare operator value scalar _ noNullTest =>
    rw [PropertyTest.arrayForm_compare name scalar noNullTest, ofCriteria]
  | text function argument scalar =>
    rw [PropertyTest.arrayForm, scalar.arrayForm_eq, ofCriteria]
  | between low high scalarLow scalarHigh =>
    rw [PropertyTest.arrayForm, scalarLow.arrayForm_eq, scalarHigh.arrayForm_eq]
    obtain ⟨first, hlow⟩ := exists_scalarJson_iff.2 scalarLow.hasScalar
    obtain ⟨second, hhigh⟩ := exists_scalarJson_iff.2 scalarHigh.hasScalar
    simp only [ofCriteria, testJson, comparisonWord?, hlow, hhigh, ok_bind]
    rfl
  | isNull => rfl
  | isNotNull => rfl

/-- **A readable filter and its array form have the same array.** -/
theorem ofCriteria_arrayForm {criteria : Criteria} (h : criteria.Readable) :
    ofCriteria criteria.arrayForm = ofCriteria criteria := by
  induction h with
  | and _ _ _ _ ihl ihr => rw [arrayForm, ofCriteria, ofCriteria, ihl, ihr]
  | or _ _ _ _ ihl ihr => rw [arrayForm, ofCriteria, ofCriteria, ihl, ihr]
  | not _ _ ih => rw [arrayForm, ofCriteria, ofCriteria, ih]
  | property name test _ readable => exact ofCriteria_testForm name readable

/-! ### The cycle -/

/-- **A filter that was read from a compact array survives being written and read again.** It has an
    array, that array describes a filter that comes to the same, and the array of that filter is the
    array it was read from.

    The numbers of every document that is read from a text fit. -/
theorem toCriteria_cycle {document : Json} (h : document.NumbersFit) {criteria : Criteria}
    (hread : toCriteria document = .ok criteria) :
    ∃ written, ofCriteria criteria = .ok written
      ∧ ∃ criteria', toCriteria written = .ok criteria'
        ∧ SameOutcome criteria criteria' ∧ ofCriteria criteria' = .ok written := by
  have hreadable := readable_toCriteria h hread
  obtain ⟨written, hwritten⟩ := exists_ofCriteria hreadable
  refine ⟨written, hwritten, criteria.arrayForm, ?_, sameOutcome_arrayForm hreadable, ?_⟩
  · exact toCriteria_of_ofCriteria hreadable.wellFormed hwritten
  · rw [ofCriteria_arrayForm hreadable, hwritten]

/-- A chain with connectives left out, a span up to a number that only fits without a sign, tests for
    null and not null, and a test that is written as a negation. -/
def chainText : String :=
  "[[\"Age\",\"between\",[18,18446744073709551615]],[\"Name\",\"<>\",null],\"and\","
    ++ "[\"!\",[\"Name\",\"contains\",\"x\"]],\"or\",[\"City\",\"notcontains\",-0.0],[\"Zip\",null]]"

/-- What the chain describes: the filters side by side are joined first. -/
def chainFilter : Criteria :=
  .or
    (.and
      (.and
        (.property "Age" (.between (.int 18) (.float (Double.ofInt 18446744073709551615))))
        (.property "Name" .isNotNull))
      (.not (.property "Name" (.text .contains (.string "x")))))
    (.and
      (.not (.property "City" (.text .contains (.float (.zero true)))))
      (.property "Zip" .isNull))

theorem toCriteria_cycle_chain :
    ∃ document, Json.ofText? chainText = some document ∧ document.NumbersFit
      ∧ toCriteria document = .ok chainFilter
      ∧ ∃ written, ofCriteria chainFilter = .ok written
        ∧ ∃ criteria', toCriteria written = .ok criteria'
          ∧ SameOutcome chainFilter criteria' ∧ ofCriteria criteria' = .ok written := by
  have hcheck : ((Json.ofText? chainText).bind fun document => (toCriteria document).toOption)
      = some chainFilter := by
    decide +kernel
  obtain ⟨document, hdocument, hread⟩ := Option.bind_eq_some_iff.1 hcheck
  have hfit := Json.numbersFit_of_ofText? hdocument
  exact ⟨document, hdocument, hfit, eq_ok_of_toOption hread,
    toCriteria_cycle hfit (eq_ok_of_toOption hread)⟩

end CompactArray

end RecordFilter
