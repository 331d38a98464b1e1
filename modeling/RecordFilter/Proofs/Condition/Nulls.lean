import RecordFilter.Proofs.Condition.Reads
import RecordFilter.Proofs.Criteria.Validity

namespace RecordFilter

/-!
# Nulls in records and filters

At the end of a path:

* `Condition.compareField_of_null` — how null compares.
* `Condition.evaluate_ordering_null` — which comparisons by order hold of null: that it is at least and at most
  null, and no other one.

Along a path:

* `readMember_of_null` — no path can be followed through a member that is null.
* `Criteria.evaluate_of_unreadable` — a filter about what cannot be read has no answer, or it is settled without
  a record.
* `Criteria.evaluate_nullReference` — which filters hold of a property that lies behind a null object: only the
  test for not null, and only where the type says that the property is never null.
-/

/-! ### Comparing with null -/

/-- A relation by order holds of two nulls if it admits equality. -/
theorem Relation.holds_eq_of_isOrdering {relation : Relation} (h : relation.isOrdering = true) :
    relation.holds (some .eq) = true ↔ relation = .greaterOrEqual ∨ relation = .lessOrEqual := by
  cases relation with
  | equal | notEqual => cases h
  | greaterOrEqual => exact ⟨fun _ => Or.inl rfl, fun _ => rfl⟩
  | lessOrEqual => exact ⟨fun _ => Or.inr rfl, fun _ => rfl⟩
  | greater | less => exact ⟨nofun, fun h => by rcases h with h | h <;> cases h⟩

/-- A relation by order does not hold of what compares with nothing. -/
theorem Relation.holds_none_of_isOrdering {relation : Relation} (h : relation.isOrdering = true) :
    relation.holds none = false := by
  cases relation with
  | equal | notEqual => cases h
  | _ => rfl

/-- Only null is null. -/
theorem FieldValue.isNull_iff {field : FieldValue} : field.isNull = true ↔ field = .null := by
  cases field <;> simp [isNull]

/-- Only null is null. -/
theorem Value.isNull_iff {value : Value} : value.isNull = true ↔ value = .null := by
  cases value <;> simp [isNull]

namespace Condition

variable {setting : Setting} {type : RecordType} {name : String} {condition : Condition}
  {record : Record} {path : MemberPath}

/-- **Null compares as equal with null, and with nothing else.** -/
theorem compareField_of_null {field : FieldValue} {operand : Value}
    (h : field.isNull = true ∨ operand.isNull = true) (path : MemberPath) (relation : Relation) :
    compareField path relation field operand
      = .ok (relation.holds (if field.isNull && operand.isNull then some .eq else none)) := by
  unfold compareField
  cases hfield : field.isNull <;> cases hoperand : operand.isNull
  case false.false => simp [hfield, hoperand] at h
  all_goals rfl

/-- A comparison by order with a null on either side holds if there are nulls on both, and if it admits
    equality. -/
theorem compareField_ordering_null {field : FieldValue} {operand : Value} {relation : Relation}
    (hordering : relation.isOrdering = true) (h : field.isNull = true ∨ operand.isNull = true)
    (path : MemberPath) :
    compareField path relation field operand = .ok true
      ↔ field.isNull = true ∧ operand.isNull = true
        ∧ (relation = .greaterOrEqual ∨ relation = .lessOrEqual) := by
  rw [compareField_of_null h, ← Relation.holds_eq_of_isOrdering hordering]
  cases field.isNull <;> cases operand.isNull <;>
    simp [Relation.holds_none_of_isOrdering hordering]

/-- What a name leads to is read at the path that it is bound to. -/
theorem readName_of_resolve {target : Target} (h : Target.resolve type name = .ok target)
    (record : Record) : readName record name = readMember record target.path := by
  rw [readName, (Target.resolve_eq_ok.1 h).1, ok_bind]

/-- A compiled comparison by order with a null on either side. -/
theorem evaluate_compileRelation_null {culture : Culture} {target : Target} {relation : Relation}
    {value : Value} (hordering : relation.isOrdering = true)
    (hcompile : compileRelation culture target relation value = .ok condition)
    (hnull : readMember record target.path = .ok .null ∨ value = .null) :
    condition.evaluate record = .ok true
      ↔ readMember record target.path = .ok .null ∧ value = .null
        ∧ (relation = .greaterOrEqual ∨ relation = .lessOrEqual) := by
  obtain ⟨operand, hoperand, -, rfl⟩ := compileRelation_eq_ok.1 hcompile
  have hvalue := Value.isNull_of_coerce? hoperand
  rw [Target.compare, evaluate]
  cases hread : readMember record target.path with
  | error fault => exact iff_of_false (by rintro ⟨⟩) (by rintro ⟨⟨⟩, -⟩)
  | ok field =>
    rw [hread, Except.ok.injEq, ← FieldValue.isNull_iff, ← Value.isNull_iff, ← hvalue] at hnull
    rw [ok_bind, compareField_ordering_null hordering hnull, hvalue, FieldValue.isNull_iff,
      Value.isNull_iff, Except.ok.injEq]

/-- A conjunction holds if both of its parts do. -/
theorem evaluate_and_iff {left right : Condition} :
    (Condition.and left right).evaluate record = .ok true
      ↔ left.evaluate record = .ok true ∧ right.evaluate record = .ok true := by
  rw [evaluate, bind_eq_ok]
  constructor
  · rintro ⟨answer, hleft, hright⟩
    -- A no of the first part is the answer.
    cases answer with
    | false => cases hright
    | true => exact ⟨hleft, hright⟩
  · rintro ⟨hleft, hright⟩
    exact ⟨true, hleft, hright⟩

/-- **Comparisons by order, where a null is involved, hold only between two nulls.** A test that a property is
    greater, at least, less or at most some value, where the property or the value is null, holds if both are
    null and the comparison admits equality, and never otherwise. So a null property lies between two
    values only if both of them are null. -/
theorem evaluate_ordering_null :
    (∀ operator relation value, ComparisonOperator.relation? operator = some relation →
        relation.isOrdering = true →
        compile setting type (.property name (.compare operator value)) = .ok condition →
        readName record name = .ok .null ∨ value = .null →
          (condition.evaluate record = .ok true
            ↔ readName record name = .ok .null ∧ value = .null
              ∧ (relation = .greaterOrEqual ∨ relation = .lessOrEqual)))
      ∧ ∀ low high, compile setting type (.property name (.between low high)) = .ok condition →
        readName record name = .ok .null →
          (condition.evaluate record = .ok true ↔ low = .null ∧ high = .null) := by
  constructor
  · intro operator relation value hrelation hordering hcompile hnull
    cases compile_eq_ok.1 hcompile with
    | property ht htest =>
      rw [compileTest, hrelation] at htest
      rw [readName_of_resolve ht] at hnull ⊢
      exact evaluate_compileRelation_null hordering htest hnull
  · intro low high hcompile hnull
    cases compile_eq_ok.1 hcompile with
    | property ht htest =>
      rw [readName_of_resolve ht] at hnull
      unfold compileTest at htest
      obtain ⟨above, habove, htest⟩ := bind_eq_ok.1 htest
      obtain ⟨below, hbelow, htest⟩ := bind_eq_ok.1 htest
      cases htest
      rw [evaluate_and_iff, evaluate_compileRelation_null rfl habove (Or.inl hnull),
        evaluate_compileRelation_null rfl hbelow (Or.inl hnull)]
      simp [hnull]

/-- A type of records with a number that may be null. -/
def countType : RecordType :=
  ⟨"Row", [⟨"Count", .integer, true⟩]⟩

/-- A record of the type without a number. -/
def uncounted : Record := fun name =>
  if name = "Count" then some .null else none

theorem evaluate_ordering_null_uncounted :
    (∃ condition,
        compile orderSetting countType (.property "Count" (.compare .greater (.int 5))) = .ok condition
          ∧ condition.evaluate uncounted ≠ .ok true)
      ∧ ∃ condition,
        compile orderSetting countType (.property "Count" (.between .null (.int 5))) = .ok condition
          ∧ condition.evaluate uncounted ≠ .ok true := by
  have hnull : readName uncounted "Count" = .ok .null := rfl
  have hcompare : compile orderSetting countType (.property "Count" (.compare .greater (.int 5)))
      = .ok _ := rfl
  have hbetween : compile orderSetting countType (.property "Count" (.between .null (.int 5)))
      = .ok _ := rfl
  refine ⟨⟨_, hcompare, fun h => ?_⟩, ⟨_, hbetween, fun h => ?_⟩⟩
  · have hboth := (evaluate_ordering_null.1 .greater .greater (.int 5) rfl rfl hcompare
      (Or.inl hnull)).1 h
    exact nomatch hboth.2.1
  · have hboth := (evaluate_ordering_null.2 .null (.int 5) hbetween hnull).1 h
    exact nomatch hboth.2

/-- A number that is not there is at least null, and lies between two nulls. -/
theorem evaluate_ordering_nulls :
    readName uncounted "Count" = .ok .null
      ∧ (∃ condition,
        compile orderSetting countType (.property "Count" (.compare .greaterOrEqual .null))
            = .ok condition
          ∧ condition.evaluate uncounted = .ok true)
      ∧ ∃ condition,
        compile orderSetting countType (.property "Count" (.between .null .null)) = .ok condition
          ∧ condition.evaluate uncounted = .ok true :=
  ⟨rfl, ⟨_, rfl, rfl⟩, _, rfl, rfl⟩

end Condition

/-! ### Reading through null -/

/-- What lies behind a null object cannot be read, and the error names the member that is null. -/
theorem readFrom_of_null {inner path : MemberPath} {record : Record} {name next : String}
    {along rest : List String} (h : readFrom inner record name along = .ok .null) :
    readFrom path record name (along ++ next :: rest)
      = .error (.evaluation (.nullReference (along.getLastD name) path.text)) := by
  -- The objects on the way to the null one are followed as before.
  induction along generalizing record name with
  | nil =>
    unfold readFrom at h
    rw [List.nil_append, readFrom]
    split at h
    case h_1 value hvalue =>
      cases h
      rw [hvalue]
      rfl
    case h_2 => cases h
  | cons step along ih =>
    unfold readFrom at h
    rw [List.cons_append, readFrom, List.getLastD_cons]
    split at h
    case h_1 => exact ih h
    all_goals cases h

/-- A path cannot be followed through a member that is null. -/
theorem readMember_of_null {record : Record} {path : MemberPath} {along rest : List String} {next : String}
    (hrest : path.rest = along ++ next :: rest) (hnull : readMember record ⟨path.first, along⟩ = .ok .null) :
    readMember record path
      = .error (.evaluation (.nullReference (along.getLastD path.first) path.text)) := by
  rw [readMember, hrest]
  exact readFrom_of_null hnull

/-- What examines a member that cannot be read has no answer. -/
theorem Condition.Examines.evaluate_error {target : Target} {condition : Condition} {record : Record}
    {fault : FilterError} (h : condition.Examines target)
    (hread : readMember record target.path = .error fault) : condition.evaluate record = .error fault := by
  induction h with
  | compare | text =>
    rw [evaluate, hread]
    rfl
  | and _ _ ih _ | or _ _ ih _ =>
    rw [evaluate, ih]
    rfl

namespace Criteria

variable {setting : Setting} {type : RecordType} {criteria : Criteria} {condition : Condition}
  {name : String} {record : Record}

/-- The filter tests for not null what the type says is never null. -/
def AsksNeverNull (type : RecordType) (criteria : Criteria) : Prop :=
  ∃ name target, criteria = .property name .isNotNull ∧ Target.resolve type name = .ok target
    ∧ target.member.isNullable = false

/-- Such a filter is settled without a record. -/
theorem AsksNeverNull.compile (h : criteria.AsksNeverNull type) :
    Condition.compile setting type criteria = .ok (.constant true) := by
  obtain ⟨name, target, rfl, ht, hnullable⟩ := h
  rw [Condition.compile_property ht, Condition.compileTest, hnullable]
  rfl

/-- A compiled filter about a property that cannot be read has no answer, or it is settled without a record. -/
theorem evaluate_of_unreadable (hcompile : Condition.compile setting type criteria = .ok condition)
    (hname : criteria.propertyName? = some name) {path : MemberPath}
    (hpath : MemberPath.parse name = .ok path) {fault : FilterError}
    (hread : readMember record path = .error fault) :
    (condition.evaluate record = .error fault ∨ condition = .constant false)
      ∨ criteria.AsksNeverNull type ∧ condition = .constant true := by
  cases Condition.compile_eq_ok.1 hcompile with
  | and | or | not => cases hname
  | @property _ written test target _ ht htest =>
    cases hname
    cases hpath.symm.trans (Target.resolve_eq_ok.1 ht).1
    rcases Condition.examines_of_compileTest htest with (h | h) | ⟨⟨rfl, hnullable⟩, h⟩
    · exact Or.inl (Or.inl (h.evaluate_error hread))
    · exact Or.inl (Or.inr h)
    · exact Or.inr ⟨⟨name, target, rfl, ht, hnullable⟩, h⟩
  | @any _ itemType written item target inner ht =>
    cases hname
    cases hpath.symm.trans (Target.resolve_eq_ok.1 ht).1
    refine Or.inl (Or.inl ?_)
    rw [Condition.evaluate, hread]
    rfl

/-- **Nothing is found behind null, except that what is never null is not null.** Let a filter be about a
    property that lies behind an object, and let that object be null. Then the filter has no answer because of
    the null object, unless it is settled without a record; and the one such filter that holds is the test for
    not null of a property that the type says is never null. -/
theorem evaluate_nullReference {path : MemberPath} {along rest : List String} {next : String}
    (hcompile : Condition.compile setting type criteria = .ok condition)
    (hname : criteria.propertyName? = some name) (hpath : MemberPath.parse name = .ok path)
    (hrest : path.rest = along ++ next :: rest)
    (hnull : readMember record ⟨path.first, along⟩ = .ok .null) :
    (condition.evaluate record = .ok true ↔ criteria.AsksNeverNull type)
      ∧ (isSatisfied setting type criteria record = true ↔ criteria.AsksNeverNull type)
      ∧ ((∃ answer, condition = .constant answer)
        ∨ condition.evaluate record
          = .error (.evaluation (.nullReference (along.getLastD path.first) path.text))) := by
  have hcases := evaluate_of_unreadable hcompile hname hpath (readMember_of_null hrest hnull)
  have hanswer : condition.evaluate record = .ok true ↔ criteria.AsksNeverNull type := by
    constructor
    · intro htrue
      rcases hcases with (hfault | rfl) | ⟨hasks, -⟩
      · cases hfault.symm.trans htrue
      · cases htrue
      · exact hasks
    · intro hasks
      cases hcompile.symm.trans hasks.compile
      rfl
  refine ⟨hanswer, (isSatisfied_iff_evaluate hcompile).trans hanswer, ?_⟩
  rcases hcases with (hfault | hconstant) | ⟨-, hconstant⟩
  · exact Or.inr hfault
  · exact Or.inl ⟨false, hconstant⟩
  · exact Or.inl ⟨true, hconstant⟩

/-- A type of records with the age of a customer, which lies behind two objects and is never null. -/
def parcelType : RecordType :=
  ⟨"Parcel", [⟨"Order", .object ⟨"Order",
    [⟨"Customer", .object ⟨"Customer", [⟨"Age", .integer, false⟩]⟩, false⟩]⟩, false⟩]⟩

/-- A record of the type with an order and without a customer. -/
def anonymousParcel : Record := fun name =>
  if name = "Order" then
    some (.object fun name => if name = "Customer" then some .null else none)
  else none

theorem evaluate_nullReference_anonymous :
    ∃ condition,
      Condition.compile Condition.orderSetting parcelType
          (.property "Order.Customer.Age" (.compare .notEqual (.int 5))) = .ok condition
        ∧ condition.evaluate anonymousParcel
          = .error (.evaluation (.nullReference "Customer" "Order.Customer.Age"))
        ∧ isSatisfied Condition.orderSetting parcelType
          (.property "Order.Customer.Age" (.compare .notEqual (.int 5))) anonymousParcel = false := by
  have hcompile : Condition.compile Condition.orderSetting parcelType
      (.property "Order.Customer.Age" (.compare .notEqual (.int 5)))
        = .ok (.compare ⟨"Order", ["Customer", "Age"]⟩ .notEqual (.int 5)) := rfl
  have hpath : MemberPath.parse "Order.Customer.Age" = .ok ⟨"Order", ["Customer", "Age"]⟩ := rfl
  have hrest : ["Customer", "Age"] = ["Customer"] ++ "Age" :: [] := rfl
  have hnull : readMember anonymousParcel ⟨"Order", ["Customer"]⟩ = .ok .null := rfl
  obtain ⟨-, hsatisfied, hfault⟩ := evaluate_nullReference hcompile rfl hpath hrest hnull
  refine ⟨_, hcompile, ?_, ?_⟩
  · exact hfault.resolve_left fun h => nomatch h
  · rw [Bool.eq_false_iff]
    intro htrue
    obtain ⟨name, target, hcriteria, -⟩ := hsatisfied.1 htrue
    cases hcriteria

/-- The age of a customer who is not there is not null: the type says that it never is. -/
theorem evaluate_isNotNull_anonymous :
    MemberPath.parse "Order.Customer.Age" = .ok ⟨"Order", ["Customer", "Age"]⟩
      ∧ readMember anonymousParcel ⟨"Order", ["Customer"]⟩ = .ok .null
      ∧ ∃ condition,
        Condition.compile Condition.orderSetting parcelType (.property "Order.Customer.Age" .isNotNull)
            = .ok condition
          ∧ condition.evaluate anonymousParcel = .ok true
          ∧ isSatisfied Condition.orderSetting parcelType (.property "Order.Customer.Age" .isNotNull)
            anonymousParcel = true :=
  ⟨rfl, rfl, _, rfl, rfl, by decide +kernel⟩

end Criteria

end RecordFilter
