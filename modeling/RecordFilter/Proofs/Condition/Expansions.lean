import RecordFilter.Proofs.Condition.Scan
import RecordFilter.Proofs.Condition.Soundness

namespace RecordFilter

/-!
# Lists and spans of values

* `Criteria.equality` — the filter that a property equals a value.
* `Condition.compile_oneOf`, `Condition.compile_between` — a list of values is bound like the alternatives of the
  equalities, and a span of values like the conjunction of its bounds.
* `Condition.exists_compile_oneOf`, `Condition.evaluate_oneOf` — so a list of values can be bound if each of the
  equalities can, and it holds of a record if one of them does.
* `Condition.oneOf_and_between` — all of it, and that neither the order of a list nor repetitions count.
-/

/-- The filter that a property equals a value. -/
def Criteria.equality (name : String) (value : Value) : Criteria :=
  .property name (.compare .equal value)

namespace Condition

variable {setting : Setting} {type : RecordType} {name : String}

/-! ### Binding -/

/-- A span of values is bound like the conjunction of its two bounds. -/
theorem compile_between (setting : Setting) (type : RecordType) (name : String)
    (low high : Value) :
    compile setting type (.property name (.between low high))
      = compile setting type (.and (.property name (.compare .greaterOrEqual low))
          (.property name (.compare .lessOrEqual high))) := by
  rw [compile, compile, compile, compile]
  -- The second bound resolves the name again, with the same result.
  cases Target.resolve type name with
  | error => rfl
  | ok target => rfl

/-- Filters that are joined by `or` from left to right are bound one after the other. -/
theorem compile_foldl_or (first : Criteria) (rest : List Criteria) :
    compile setting type (rest.foldl .or first)
      = compile setting type first >>= fun start =>
          rest.foldlM (fun found next => do return .or found (← compile setting type next)) start := by
  induction rest generalizing first with
  | nil => simp
  | cons next rest ih =>
    rw [List.foldl_cons, ih, compile]
    cases compile setting type first with
    | error => rfl
    | ok found =>
      rw [ok_bind, ok_bind, List.foldlM_cons]

/-- **A list of values is bound like the alternatives of being equal to one of them**, with the same error if a
    value is refused. -/
theorem compile_oneOf (setting : Setting) (type : RecordType) (name : String) (first : Value)
    (rest : List Value) :
    compile setting type (.property name (.oneOf (first :: rest)))
      = compile setting type
          ((rest.map (Criteria.equality name)).foldl .or (Criteria.equality name first)) := by
  simp only [compile_foldl_or, List.foldlM_map]
  -- Each of the equalities resolves the name again, with the same result.
  cases htarget : Target.resolve type name with
  | error =>
    rw [Criteria.equality, compile, compile, htarget]
    rfl
  | ok target =>
    simp only [Criteria.equality, compile_property htarget, compileTest]
    rfl

section

variable {target : Target} (ht : Target.resolve type name = .ok target)

include ht

/-- A list of values can be bound to a member if each of the equalities can. -/
theorem exists_compile_oneOf (values : List Value) :
    (∃ condition, compile setting type (.property name (.oneOf values)) = .ok condition)
      ↔ ∀ value ∈ values, ∃ condition,
          compile setting type (Criteria.equality name value) = .ok condition := by
  cases values with
  | nil =>
    apply iff_of_true
    · exact ⟨.constant false, compile_property ht _⟩
    · simp
  | cons first rest =>
    rw [compile_oneOf]
    exact Criteria.exists_compile_foldl_join .or

/-! ### Answers -/

variable {record : Record} {field : FieldValue} (hread : readMember record target.path = .ok field)
  (hfield : target.kind.Holds field)

include hread hfield

/-- An equality has an answer on a record that has a value of the member's kind, or null. -/
theorem evaluate_equality {value : Value} {condition : Condition}
    (h : compile setting type (Criteria.equality name value) = .ok condition) :
    ∃ answer, condition.evaluate record = .ok answer := by
  rw [Criteria.equality, compile_property ht] at h
  obtain ⟨operand, hoperand, -, rfl⟩ := compileRelation_eq_ok.1 h
  obtain ⟨answer, hanswer⟩ :=
    hfield.exists_compareField (Value.suits_of_coerce? hoperand) target.path .equal
  refine ⟨answer, ?_⟩
  rw [Target.compare, evaluate, hread, ok_bind, hanswer]

/-- **A list of values holds of a record if one of the equalities does.** -/
theorem evaluate_oneOf {values : List Value} {condition : Condition}
    (h : compile setting type (.property name (.oneOf values)) = .ok condition) :
    ∃ answer, condition.evaluate record = .ok answer
      ∧ (answer = true ↔ ∃ value ∈ values,
          (Criteria.equality name value).outcome setting type record = .ok (.ok true)) := by
  cases values with
  | nil =>
    rw [compile_property ht] at h
    cases h
    exact ⟨false, rfl, by simp⟩
  | cons first rest =>
    have hall := (exists_compile_oneOf ht _).1 ⟨condition, h⟩
    rw [compile_oneOf] at h
    refine Criteria.evaluate_alternatives h fun value hvalue => ?_
    obtain ⟨equality, hequality⟩ := hall value hvalue
    obtain ⟨answer, hanswer⟩ := evaluate_equality ht hread hfield hequality
    refine ⟨answer, ?_, ?_⟩
    · rw [Criteria.outcome, hequality, ← hanswer]
      rfl
    · rw [Criteria.outcome, hequality, Except.map, hanswer]
      simp

end

/-- **Lists and spans of values are short forms.** A list of values is bound like the alternatives of being equal
    to one of them, from left to right, and a span of values like the conjunction of its bounds: to the same
    condition, or with the same error. An empty list holds of no record. Any list, once it is bound, has an
    answer on the records that have a value of the member's kind, or null: yes if one of the equalities says
    yes. So every list with the same values in it can be bound as well, and has the same answer. -/
theorem oneOf_and_between (setting : Setting) (type : RecordType) (name : String) :
    (∀ first rest, compile setting type (.property name (.oneOf (first :: rest)))
        = compile setting type
            ((rest.map (Criteria.equality name)).foldl .or (Criteria.equality name first)))
      ∧ (∀ low high, compile setting type (.property name (.between low high))
        = compile setting type (.and (.property name (.compare .greaterOrEqual low))
            (.property name (.compare .lessOrEqual high))))
      ∧ ∀ values condition,
        compile setting type (.property name (.oneOf values)) = .ok condition →
          (values = [] → ∀ record, condition.evaluate record = .ok false)
            ∧ ∀ target record field, Target.resolve type name = .ok target →
              readMember record target.path = .ok field → target.kind.Holds field →
                (∃ answer, condition.evaluate record = .ok answer
                    ∧ (answer = true ↔ ∃ value ∈ values,
                      (Criteria.equality name value).outcome setting type record = .ok (.ok true)))
                  ∧ ∀ others, (∀ value, value ∈ others ↔ value ∈ values) →
                    ∃ condition',
                      compile setting type (.property name (.oneOf others)) = .ok condition'
                        ∧ condition'.evaluate record = condition.evaluate record := by
  refine ⟨compile_oneOf setting type name, compile_between setting type name, ?_⟩
  intro values condition hcompile
  constructor
  · rintro rfl record
    obtain ⟨target, ht, htest⟩ := bind_eq_ok.1 hcompile
    cases htest
    rfl
  · intro target record field ht hread hfield
    obtain ⟨answer, hanswer, hiff⟩ := evaluate_oneOf ht hread hfield hcompile
    refine ⟨⟨answer, hanswer, hiff⟩, fun others hsame => ?_⟩
    have hall := (exists_compile_oneOf ht values).1 ⟨condition, hcompile⟩
    obtain ⟨condition', hcompile'⟩ :=
      (exists_compile_oneOf ht others).2 fun value hvalue => hall value ((hsame value).1 hvalue)
    obtain ⟨answer', hanswer', hiff'⟩ := evaluate_oneOf ht hread hfield hcompile'
    refine ⟨condition', hcompile', ?_⟩
    rw [hanswer, hanswer', Bool.eq_iff_iff.2 (hiff'.trans _)]
    simp only [hsame]
    exact hiff.symm

/-- The names of two customers, and null. -/
def customerNames : List Value :=
  [.null, .string "Bob", .string "Ada"]

/-- The order is that of one of the customers, however the list is written. -/
theorem oneOf_and_between_order :
    ∃ condition, compile orderSetting orderType (.property "Customer.Name" (.oneOf customerNames))
        = .ok condition
      ∧ condition.evaluate order = .ok true
      ∧ ∃ condition', compile orderSetting orderType
          (.property "Customer.Name" (.oneOf (customerNames.reverse ++ customerNames))) = .ok condition'
        ∧ condition'.evaluate order = .ok true := by
  obtain ⟨-, -, hanswers⟩ := oneOf_and_between orderSetting orderType "Customer.Name"
  obtain ⟨-, hread⟩ := hanswers customerNames _ rfl
  obtain ⟨⟨answer, hanswer, hiff⟩, hothers⟩ := hread _ order _ rfl rfl (.text "Ada")
  obtain ⟨condition', hcompile', heq⟩ := hothers (customerNames.reverse ++ customerNames) (by simp)
  have hyes : answer = true := hiff.2 ⟨.string "Ada", by simp [customerNames], rfl⟩
  rw [hyes] at hanswer
  exact ⟨_, rfl, hanswer, condition', hcompile', heq.trans hanswer⟩

end Condition

end RecordFilter
