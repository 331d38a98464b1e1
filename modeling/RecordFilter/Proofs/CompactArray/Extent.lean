import RecordFilter.Criteria.Properties
import RecordFilter.Proofs.CompactArray.RoundTrip
import RecordFilter.Proofs.Double.Range
import RecordFilter.Proofs.Grammar.Reread

namespace RecordFilter

/-!
# Which filters have a compact array

* `Criteria.Formless` — a part of a filter that has no array, whatever its values.
* `Value.HasScalar` — a value that has a JSON scalar.
* `Criteria.HasArray` — a filter without formless parts all of whose values have scalars.
* `CompactArray.exists_ofCriteria_iff` — exactly these filters are written.
* `CompactArray.ofCriteria_exact` — exactly these filters are written, and each is read back in array form.
-/

/-- A part of a filter that no array stands for: a pattern, an interval, a choice among no values, a test of
    items or of the current user. -/
inductive Criteria.Formless : Criteria → Prop where
  | like (name : String) (value : Value) : Formless (.property name (.compare .like value))
  | within (name : String) (interval : DateInterval) : Formless (.property name (.within interval))
  | noValues (name : String) : Formless (.property name (.oneOf []))
  | any (name : String) (item : Criteria) : Formless (.any name item)
  | currentUser : Formless .currentUser

/-- A value that a JSON scalar stands for: no double that is not finite. -/
def Value.HasScalar (value : Value) : Prop :=
  ∀ number, value = .float number → number.IsFinite

/-- A filter that an array stands for. -/
structure Criteria.HasArray (criteria : Criteria) : Prop where
  parts : ∀ node ∈ criteria.nodes, ¬ node.Formless
  values : ∀ value ∈ criteria.values, value.HasScalar

namespace Criteria

/-- A filter without a form has no array. -/
theorem Formless.not_hasArray {criteria : Criteria} (h : criteria.Formless) :
    ¬ criteria.HasArray := by
  intro harray
  refine harray.parts criteria ?_ h
  cases criteria <;> exact List.mem_cons_self

/-- Joined filters have an array if both of them do. -/
theorem hasArray_join (connective : Connective) (left right : Criteria) :
    (connective.join left right).HasArray ↔ left.HasArray ∧ right.HasArray := by
  have hjoin : ¬ (connective.join left right).Formless := by
    cases connective <;> exact nofun
  have hparts : (connective.join left right).nodes
      = connective.join left right :: (left.nodes ++ right.nodes) := by
    cases connective <;> rfl
  have hvalues : (connective.join left right).values = left.values ++ right.values := by
    cases connective <;> rfl
  constructor
  · rintro ⟨hall, hscalars⟩
    rw [hparts, List.forall_mem_cons, List.forall_mem_append] at hall
    rw [hvalues, List.forall_mem_append] at hscalars
    exact ⟨⟨hall.2.1, hscalars.1⟩, hall.2.2, hscalars.2⟩
  · rintro ⟨hl, hr⟩
    refine ⟨?_, ?_⟩
    · rw [hparts, List.forall_mem_cons, List.forall_mem_append]
      exact ⟨hjoin, hl.parts, hr.parts⟩
    · rw [hvalues, List.forall_mem_append]
      exact ⟨hl.values, hr.values⟩

/-- The negation of a filter has an array if the filter does. -/
theorem hasArray_not (inner : Criteria) : (Criteria.not inner).HasArray ↔ inner.HasArray := by
  constructor
  · rintro ⟨hparts, hvalues⟩
    exact ⟨(List.forall_mem_cons.1 hparts).2, hvalues⟩
  · rintro ⟨hparts, hvalues⟩
    exact ⟨List.forall_mem_cons.2 ⟨nofun, hparts⟩, hvalues⟩

/-- A property test has an array if it is of the right kind and its values have scalars. -/
theorem hasArray_property (name : String) (test : PropertyTest) :
    (Criteria.property name test).HasArray
      ↔ ¬ (Criteria.property name test).Formless ∧ ∀ value ∈ test.values, value.HasScalar :=
  ⟨fun h => ⟨h.parts _ List.mem_cons_self, h.values⟩,
    fun h => ⟨List.forall_mem_singleton.2 h.1, h.2⟩⟩

end Criteria

namespace CompactArray

open Criteria

/-! ### Values -/

/-- A value is written if it has a scalar. -/
theorem exists_scalarJson_iff {value : Value} :
    (∃ document, scalarJson value = .ok document) ↔ value.HasScalar := by
  cases value with
  | float number =>
    rw [scalarJson]
    split
    case isTrue hsome =>
      refine iff_of_true ⟨_, rfl⟩ fun other heq => ?_
      cases heq
      exact Double.isSome_jsonText?_iff.1 hsome
    case isFalse hnone =>
      refine iff_of_false (by rintro ⟨_, ⟨⟩⟩) fun h => hnone ?_
      exact Double.isSome_jsonText?_iff.2 (h number rfl)
  | _ => exact iff_of_true ⟨_, rfl⟩ (by rintro _ ⟨⟩)

/-- An equality is written if its value is. -/
theorem exists_equalityJson_iff (name : String) (value : Value) :
    (∃ document, equalityJson name value = .ok document) ↔ value.HasScalar :=
  (exists_return_iff _).trans exists_scalarJson_iff

/-- Further alternatives are written if all their values are. -/
theorem exists_foldlM_iff (name : String) (values : List Value) (start : Json) :
    (∃ document, values.foldlM (fun found value => do
        return pairJson found "or" (← equalityJson name value)) start = .ok document)
      ↔ ∀ value ∈ values, value.HasScalar := by
  induction values generalizing start with
  | nil => exact iff_of_true ⟨start, rfl⟩ (List.forall_mem_nil _)
  | cons value rest ih =>
    rw [List.forall_mem_cons, List.foldlM_cons, exists_bind_iff ih, exists_return_iff,
      exists_equalityJson_iff]

/-! ### Filters -/

/-- A property test is written if it has an array. -/
theorem exists_testJson_iff (name : String) (test : PropertyTest) :
    (∃ document, testJson name test = .ok document) ↔ (Criteria.property name test).HasArray := by
  rw [hasArray_property]
  cases test with
  | compare operator value =>
    rw [testJson, PropertyTest.values, List.forall_mem_singleton]
    cases operator with
    | like => exact iff_of_false (by rintro ⟨_, ⟨⟩⟩) fun h => h.1 (.like name value)
    | _ =>
      rw [and_iff_right (by rintro ⟨⟩)]
      exact (exists_return_iff _).trans exists_scalarJson_iff
  | text function argument =>
    rw [and_iff_right (by rintro ⟨⟩), PropertyTest.values, List.forall_mem_singleton]
    exact (exists_return_iff _).trans exists_scalarJson_iff
  | between low high =>
    rw [and_iff_right (by rintro ⟨⟩), PropertyTest.values, List.forall_mem_cons, List.forall_mem_singleton,
      ← exists_scalarJson_iff, ← exists_scalarJson_iff]
    exact exists_bind_iff fun low => exists_return_iff _
  | oneOf values =>
    cases values with
    | nil => exact iff_of_false (by rintro ⟨_, ⟨⟩⟩) fun h => h.1 (.noValues name)
    | cons first rest =>
      rw [and_iff_right (by rintro ⟨⟩), PropertyTest.values, List.forall_mem_cons,
        ← exists_equalityJson_iff name first]
      exact exists_bind_iff (exists_foldlM_iff name rest)
  | within interval => exact iff_of_false (by rintro ⟨_, ⟨⟩⟩) fun h => h.1 (.within name interval)
  | isNullOrEmpty => exact iff_of_true ⟨_, rfl⟩ ⟨by rintro ⟨⟩, List.forall_mem_nil _⟩
  | isNull => exact iff_of_true ⟨_, rfl⟩ ⟨by rintro ⟨⟩, List.forall_mem_nil _⟩
  | isNotNull => exact iff_of_true ⟨_, rfl⟩ ⟨by rintro ⟨⟩, List.forall_mem_nil _⟩

/-- Two joined filters are written if both are. -/
theorem exists_pairJson_iff {left right : Except FilterError Json} (word : String) :
    (∃ document, (do return pairJson (← left) word (← right) : Except FilterError Json) = .ok document)
      ↔ (∃ document, left = .ok document) ∧ ∃ document, right = .ok document :=
  exists_bind_iff fun _ => exists_return_iff _

/-- **A filter is written exactly if it has no part without an array form and no double that is not finite.** -/
theorem exists_ofCriteria_iff (criteria : Criteria) :
    (∃ document, ofCriteria criteria = .ok document) ↔ criteria.HasArray := by
  induction criteria with
  | and left right ihl ihr =>
    rw [ofCriteria, exists_pairJson_iff, ihl, ihr]
    exact (hasArray_join .and left right).symm
  | or left right ihl ihr =>
    rw [ofCriteria, exists_pairJson_iff, ihl, ihr]
    exact (hasArray_join .or left right).symm
  | not inner ih => rw [ofCriteria, exists_return_iff, ih, hasArray_not]
  | property name test => exact exists_testJson_iff name test
  | any name item => exact iff_of_false nofun (Formless.any name item).not_hasArray
  | currentUser => exact iff_of_false nofun Formless.currentUser.not_hasArray

/-- **Exactly the filters without formless parts and with no doubles but finite ones are written, and each of
    them is read back in array form.** The names in the filter must be property names. -/
theorem ofCriteria_exact {criteria : Criteria} (hwf : criteria.WellFormed) :
    ((∃ document, ofCriteria criteria = .ok document) ↔ criteria.HasArray)
      ∧ ∀ document, ofCriteria criteria = .ok document →
        toCriteria document = .ok criteria.arrayForm :=
  ⟨exists_ofCriteria_iff criteria, fun _ h => toCriteria_of_ofCriteria hwf h⟩

/-- One test of every kind that comes back in another form. -/
def rewrittenFilter : Criteria :=
  .and
    (.or (.property "State" (.oneOf [.int 1, .null, .string "<>"]))
      (.not (.property "Name" .isNullOrEmpty)))
    (.and
      (.or (.property "Name" (.compare .notEqual .null)) (.property "State" .isNotNull))
      (.property "Born"
        (.between (.dateTime (.midnight ⟨2024, 2, 29, Date.valid_leapDay2024⟩)) (.float (.zero true)))))

theorem ofCriteria_exact_rewrittenFilter :
    rewrittenFilter.WellFormed ∧ rewrittenFilter.HasArray
      ∧ ∃ document, ofCriteria rewrittenFilter = .ok document
        ∧ toCriteria document = .ok (.and
          (.or
            (.or
              (.or (.property "State" (.compare .equal (.int 1))) (.property "State" .isNull))
              (.property "State" (.compare .equal (.string "<>"))))
            (.not (.or (.property "Name" .isNull) (.property "Name" (.compare .equal (.string ""))))))
          (.and
            (.or (.property "Name" .isNotNull) (.not (.property "State" .isNull)))
            (.and
              (.property "Born" (.compare .greaterOrEqual (.string "2024-02-29T00:00:00")))
              (.property "Born" (.compare .lessOrEqual (.float (.zero true))))))) := by
  have hwf : rewrittenFilter.WellFormed := by decide +kernel
  obtain ⟨hextent, hread⟩ := ofCriteria_exact hwf
  have hwritten : ofCriteria rewrittenFilter = .ok _ := rfl
  refine ⟨hwf, hextent.1 ⟨_, hwritten⟩, _, hwritten, (hread _ hwritten).trans ?_⟩
  exact congrArg Except.ok (by decide +kernel)

end CompactArray

end RecordFilter
