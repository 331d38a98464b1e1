import RecordFilter.Condition.Compile
import RecordFilter.Condition.Evaluate

namespace RecordFilter

/-!
# What a filter comes to

* `Criteria.outcome` — the compile error of a filter, or else its answer or evaluation error on a
  record.
* `Outcome.and`, `Outcome.or`, `Outcome.not` — how outcomes are combined, errors included.
* `Criteria.outcome_and`, `outcome_or`, `outcome_not` — a combined filter comes to what its parts come to,
  combined.
* `Criteria.SameOutcome` — two filters come to the same on every type and record.
* `Criteria.SameOutcome.and`, `or`, `not`, `any` — parts of a filter may be exchanged for parts that
  come to the same.
-/

/-! ### Outcomes -/

/-- A compile error, or else an answer or an evaluation error. -/
abbrev Outcome := Except FilterError (Except FilterError Bool)

namespace Outcome

/-- Both of two outcomes. A compile error of either counts before any answer; the second answer counts only
    if the first one is yes. -/
def and (first second : Outcome) : Outcome := do
  let left ← first
  let right ← second
  return do if ← left then right else return false

/-- Either of two outcomes. A compile error of either counts before any answer; the second answer counts only
    if the first one is no. -/
def or (first second : Outcome) : Outcome := do
  let left ← first
  let right ← second
  return do if ← left then return true else right

/-- The opposite of an outcome. Errors stay. -/
def not (inner : Outcome) : Outcome := do
  let answer ← inner
  return do return !(← answer)

end Outcome

namespace Criteria

/-- What binding a filter to a type and evaluating it on a record comes to: a compile error, or the
    answer or evaluation error. -/
def outcome (setting : Setting) (type : RecordType) (criteria : Criteria) (record : Record) :
    Except FilterError (Except FilterError Bool) :=
  (Condition.compile setting type criteria).map fun condition => condition.evaluate record

section

variable (setting : Setting) (type : RecordType) (record : Record)

/-- A conjunction comes to both of its parts. -/
theorem outcome_and (left right : Criteria) :
    (Criteria.and left right).outcome setting type record
      = Outcome.and (left.outcome setting type record) (right.outcome setting type record) := by
  unfold outcome
  rw [Condition.compile]
  cases Condition.compile setting type left with
  | error => rfl
  | ok first => cases Condition.compile setting type right <;> rfl

/-- A disjunction comes to either of its parts. -/
theorem outcome_or (left right : Criteria) :
    (Criteria.or left right).outcome setting type record
      = Outcome.or (left.outcome setting type record) (right.outcome setting type record) := by
  unfold outcome
  rw [Condition.compile]
  cases Condition.compile setting type left with
  | error => rfl
  | ok first => cases Condition.compile setting type right <;> rfl

/-- A negation comes to the opposite of its part. -/
theorem outcome_not (inner : Criteria) :
    (Criteria.not inner).outcome setting type record = Outcome.not (inner.outcome setting type record) := by
  unfold outcome
  rw [Condition.compile]
  cases Condition.compile setting type inner <;> rfl

end

/-- The filters come to the same: the same compile error, the same evaluation error or the same
    answer, whatever the culture, the day, the type and the record. -/
def SameOutcome (left right : Criteria) : Prop :=
  ∀ setting type record, left.outcome setting type record = right.outcome setting type record

namespace SameOutcome

variable {left left' right right' : Criteria}

/-- Every filter comes to the same as itself. -/
theorem refl (criteria : Criteria) : SameOutcome criteria criteria :=
  fun _ _ _ => rfl

/-- Filters that come to the same have the same compile error, or conditions that answer alike on
    every record. -/
theorem compile_cases (h : SameOutcome left right) (setting : Setting) (type : RecordType) :
    (∃ fault, Condition.compile setting type left = .error fault
        ∧ Condition.compile setting type right = .error fault)
      ∨ ∃ condition condition', Condition.compile setting type left = .ok condition
          ∧ Condition.compile setting type right = .ok condition'
          ∧ condition.evaluate = condition'.evaluate := by
  have houtcome := h setting type
  unfold outcome at houtcome
  -- Whether there is a compile error does not depend on the record, so any record tells.
  cases hl : Condition.compile setting type left with
  | error fault =>
    cases hr : Condition.compile setting type right with
    | error fault' =>
      have hsame := houtcome fun _ => none
      rw [hl, hr] at hsame
      cases hsame
      exact Or.inl ⟨fault, rfl, rfl⟩
    | ok condition' =>
      have hsame := houtcome fun _ => none
      rw [hl, hr] at hsame
      cases hsame
  | ok condition =>
    cases hr : Condition.compile setting type right with
    | error fault' =>
      have hsame := houtcome fun _ => none
      rw [hl, hr] at hsame
      cases hsame
    | ok condition' =>
      refine Or.inr ⟨condition, condition', rfl, rfl, ?_⟩
      funext record
      have hsame := houtcome record
      rw [hl, hr] at hsame
      exact Except.ok.inj hsame

/-- Negations of filters that come to the same come to the same. -/
theorem not (h : SameOutcome left right) : SameOutcome (.not left) (.not right) := by
  intro setting type record
  rw [outcome_not, outcome_not, h]

/-- Conjunctions of filters that come to the same come to the same. -/
theorem and (hl : SameOutcome left left') (hr : SameOutcome right right') :
    SameOutcome (.and left right) (.and left' right') := by
  intro setting type record
  rw [outcome_and, outcome_and, hl, hr]

/-- Disjunctions of filters that come to the same come to the same. -/
theorem or (hl : SameOutcome left left') (hr : SameOutcome right right') :
    SameOutcome (.or left right) (.or left' right') := by
  intro setting type record
  rw [outcome_or, outcome_or, hl, hr]

/-- Tests of items by filters that come to the same come to the same. -/
theorem any (name : String) (h : SameOutcome left right) :
    SameOutcome (.any name left) (.any name right) := by
  intro setting type record
  unfold outcome
  rw [Condition.compile, Condition.compile]
  cases Target.resolve type name with
  | error => rfl
  | ok target =>
    simp only [bind, Except.bind]
    cases target.kind with
    | collection itemType =>
      dsimp only
      rcases h.compile_cases setting itemType with
        ⟨fault, h, h'⟩ | ⟨condition, condition', h, h', heval⟩
      · rw [h, h']
      · rw [h, h']
        show Except.ok ((Condition.any target.path condition).evaluate record)
          = Except.ok ((Condition.any target.path condition').evaluate record)
        rw [Condition.evaluate, Condition.evaluate, heval]
    | _ => rfl

end SameOutcome

end Criteria

end RecordFilter
