import RecordFilter.Proofs.Condition.Outcome
import RecordFilter.Proofs.Except

namespace RecordFilter

/-!
# The laws of logic

The evaluation of a filter stops early and may fail, and so may compiling it. The laws of logic hold all the
same, with the same errors on both sides.

* `Outcome.not_and`, `Outcome.and_assoc`, … — the laws for outcomes.
* `Criteria.Law` — filters that a law makes alike; `Criteria.Law.sameOutcome` — they come to the same.
* `Criteria.Context` — a filter with a hole; `Criteria.SameOutcome.fill` — filters that come to the same may be
  exchanged in any larger filter.
* `Criteria.law_in_context` — so every law may be applied anywhere in a filter.
-/

/-! ### Laws for outcomes

An outcome is one of two errors or one of two answers, and each law is checked for every combination of them. -/

namespace Outcome

variable (a b c : Outcome)

theorem not_not : a.not.not = a := by
  rcases a with _ | _ | _ | _ <;> rfl

theorem not_and : (a.and b).not = a.not.or b.not := by
  rcases a with _ | _ | _ | _ <;> rcases b with _ | _ | _ | _ <;> rfl

theorem not_or : (a.or b).not = a.not.and b.not := by
  rcases a with _ | _ | _ | _ <;> rcases b with _ | _ | _ | _ <;> rfl

theorem and_self : a.and a = a := by
  rcases a with _ | _ | _ | _ <;> rfl

theorem and_assoc : (a.and b).and c = a.and (b.and c) := by
  rcases a with _ | _ | _ | _ <;> rcases b with _ | _ | _ | _ <;>
    rcases c with _ | _ | _ | _ <;> rfl

/-- Associativity of `or` is that of `and` for the opposites. -/
theorem or_assoc : (a.or b).or c = a.or (b.or c) := by
  have h := congrArg not (and_assoc a.not b.not c.not)
  simpa only [not_and, not_not] using h

/-- The first outcome counts twice on the right, and nothing changes between. -/
theorem and_or_left : a.and (b.or c) = (a.and b).or (a.and c) := by
  rcases a with _ | _ | _ | _ <;> rcases b with _ | _ | _ | _ <;>
    rcases c with _ | _ | _ | _ <;> rfl

end Outcome

/-! ### Opposite tests -/

/-- What compares as unequal is what does not compare as equal, null and NaN included. -/
theorem Condition.compareField_notEqual (path : MemberPath) (field : FieldValue) (operand : Value) :
    compareField path .notEqual field operand
      = do return !(← compareField path .equal field operand) := by
  unfold compareField
  split
  case h_2 => split <;> rfl
  all_goals rfl

/-- A comparison for a different value is the negated comparison for the value. -/
theorem Condition.evaluate_notEqual (path : MemberPath) (operand : Value) (record : Record) :
    (Condition.compare path .notEqual operand).evaluate record
      = (Condition.not (.compare path .equal operand)).evaluate record := by
  rw [evaluate, evaluate, evaluate]
  cases readMember record path with
  | error => rfl
  | ok field => exact compareField_notEqual path field operand

namespace Criteria

/-- A test for a different value comes to the opposite of a test for the value: the value is refused by both
    of them or by neither. -/
theorem sameOutcome_notEqual (name : String) (value : Value) :
    SameOutcome (.property name (.compare .notEqual value))
      (.not (.property name (.compare .equal value))) := by
  intro setting type record
  unfold outcome
  rw [Condition.compile, Condition.compile, Condition.compile]
  cases Target.resolve type name with
  | error => rfl
  | ok target =>
    simp only [ok_bind, Condition.compileTest, ComparisonOperator.relation?,
      Condition.compileRelation]
    cases value.coerce setting.culture target with
    | error => rfl
    | ok operand => exact congrArg Except.ok (Condition.evaluate_notEqual target.path operand record)

/-- A test for not null comes to the opposite of a test for null: both are settled where the member may not
    be null. -/
theorem sameOutcome_isNotNull (name : String) :
    SameOutcome (.property name .isNotNull) (.not (.property name .isNull)) := by
  intro setting type record
  unfold outcome
  rw [Condition.compile, Condition.compile, Condition.compile]
  cases Target.resolve type name with
  | error => rfl
  | ok target =>
    show Except.ok (Condition.evaluate (if target.member.isNullable
        then target.compare .notEqual .null else .constant true) record)
      = Except.ok (Condition.evaluate (.not (if target.member.isNullable
        then target.compare .equal .null else .constant false)) record)
    congr 1
    split
    case isTrue => exact Condition.evaluate_notEqual target.path .null record
    case isFalse => rfl

/-! ### Laws for filters -/

/-- Filters that a law of logic makes alike. -/
inductive Law : Criteria → Criteria → Prop
  | not_and (a b : Criteria) : Law (.not (.and a b)) (.or (.not a) (.not b))
  | not_or (a b : Criteria) : Law (.not (.or a b)) (.and (.not a) (.not b))
  | not_not (a : Criteria) : Law (.not (.not a)) a
  | and_self (a : Criteria) : Law (.and a a) a
  | and_assoc (a b c : Criteria) : Law (.and (.and a b) c) (.and a (.and b c))
  | or_assoc (a b c : Criteria) : Law (.or (.or a b) c) (.or a (.or b c))
  | and_or (a b c : Criteria) : Law (.and a (.or b c)) (.or (.and a b) (.and a c))
  | notEqual (name : String) (value : Value) :
      Law (.property name (.compare .notEqual value)) (.not (.property name (.compare .equal value)))
  | isNotNull (name : String) :
      Law (.property name .isNotNull) (.not (.property name .isNull))

/-- **The two sides of a law come to the same**, with the same errors. -/
theorem Law.sameOutcome {left right : Criteria} (h : Law left right) : SameOutcome left right := by
  intro setting type record
  cases h with
  | not_and => simp only [outcome_not, outcome_and, outcome_or, Outcome.not_and]
  | not_or => simp only [outcome_not, outcome_and, outcome_or, Outcome.not_or]
  | not_not => rw [outcome_not, outcome_not, Outcome.not_not]
  | and_self => rw [outcome_and, Outcome.and_self]
  | and_assoc => simp only [outcome_and, Outcome.and_assoc]
  | or_assoc => simp only [outcome_or, Outcome.or_assoc]
  | and_or => simp only [outcome_and, outcome_or, Outcome.and_or_left]
  | notEqual name value => exact sameOutcome_notEqual name value setting type record
  | isNotNull name => exact sameOutcome_isNotNull name setting type record

/-! ### Larger filters -/

/-- A filter with a hole in place of one of its parts. -/
inductive Context where
  | hole
  | andLeft (left : Context) (right : Criteria)
  | andRight (left : Criteria) (right : Context)
  | orLeft (left : Context) (right : Criteria)
  | orRight (left : Criteria) (right : Context)
  | not (inner : Context)
  /-- The hole is in the filter of the items. -/
  | any (name : String) (item : Context)

/-- Puts a filter in the place of the hole. -/
def Context.fill : Context → Criteria → Criteria
  | .hole, part => part
  | .andLeft left right, part => .and (left.fill part) right
  | .andRight left right, part => .and left (right.fill part)
  | .orLeft left right, part => .or (left.fill part) right
  | .orRight left right, part => .or left (right.fill part)
  | .not inner, part => .not (inner.fill part)
  | .any name item, part => .any name (item.fill part)

/-- **Filters that come to the same may be exchanged in any larger filter.** Within a test of items they are
    about records of another type. -/
theorem SameOutcome.fill {left right : Criteria} (h : SameOutcome left right) (context : Context) :
    SameOutcome (context.fill left) (context.fill right) := by
  induction context with
  | hole => exact h
  | andLeft _ other ih => exact ih.and (.refl other)
  | andRight other _ ih => exact (SameOutcome.refl other).and ih
  | orLeft _ other ih => exact ih.or (.refl other)
  | orRight other _ ih => exact (SameOutcome.refl other).or ih
  | not _ ih => exact ih.not
  | any name _ ih => exact ih.any name

/-- **The laws of logic may be applied anywhere in a filter.** It comes to the same after it: the same compile
    error, the same evaluation error or the same answer, whatever the culture, the day, the type and the
    record. -/
theorem law_in_context {left right : Criteria} (h : Law left right) (context : Context) :
    SameOutcome (context.fill left) (context.fill right) :=
  h.sameOutcome.fill context

/-- A negated conjunction inside of a test of items, the first part of which no type allows. -/
theorem law_in_context_items :
    Law (.not (.and .currentUser (.property "Quantity" .isNull)))
        (.or (.not .currentUser) (.not (.property "Quantity" .isNull)))
      ∧ SameOutcome
        (.or (.property "Total" .isNull)
          (.any "Lines" (.not (.and .currentUser (.property "Quantity" .isNull)))))
        (.or (.property "Total" .isNull)
          (.any "Lines" (.or (.not .currentUser) (.not (.property "Quantity" .isNull))))) :=
  ⟨.not_and _ _,
    law_in_context (.not_and .currentUser (.property "Quantity" .isNull))
      (.orRight (.property "Total" .isNull) (.any "Lines" .hole))⟩

end Criteria

end RecordFilter
