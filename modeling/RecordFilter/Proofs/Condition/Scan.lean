import RecordFilter.Proofs.Condition.Laws

namespace RecordFilter

/-!
# Filters in a row

Filters that are joined in a row make a tree that leans to the left, and its evaluation stops early at every
level of it. It comes to the same as going through the filters once, from left to right.

* `Connective.scan` — the first answer in a row that decides, or the error before it.
* `Outcome.scan` — the same for outcomes: the first compile error counts before all answers.
* `Outcome.scan_append`, `Outcome.scan_splice` — rows one after the other, and a row in place of one outcome.
* `Outcome.exists_scan_iff`, `Outcome.scan_or_answers` — when a row has a result, and when alternatives hold.
* `Criteria.outcome_foldl_join` — joined filters come to the scan of what each of them comes to.
* `Criteria.exists_compile_foldl_join`, `Criteria.evaluate_alternatives` — when joined filters can be bound to a
  type, and when alternatives hold of a record.
-/

/-! ### Scanning a row -/

namespace Connective

/-- The answer that decides nothing: a joined filter goes on to its next part. -/
def neutral : Connective → Bool
  | .and => true
  | .or => false

/-- Whether no further part of a joined filter is looked at after this one. Errors stop as well. -/
def decides (connective : Connective) : Except FilterError Bool → Bool
  | .ok answer => answer != connective.neutral
  | .error _ => true

/-- What going through a row from left to right comes to: the first result that decides, and if there is none,
    the answer that decides nothing. -/
def scan (connective : Connective) (results : List (Except FilterError Bool)) :
    Except FilterError Bool :=
  (results.find? connective.decides).getD (.ok connective.neutral)

end Connective

namespace Outcome

/-- Joins two outcomes. -/
def join : Connective → Outcome → Outcome → Outcome
  | .and => Outcome.and
  | .or => Outcome.or

/-- What going through a row of outcomes from left to right comes to. The first compile error counts before all
    answers. -/
def scan (connective : Connective) (outcomes : List Outcome) : Outcome := do
  let results ← outcomes.mapM id
  return connective.scan results

variable (connective : Connective)

/-- Joining is associative, errors included. -/
theorem join_assoc (a b c : Outcome) :
    join connective (join connective a b) c = join connective a (join connective b c) := by
  cases connective with
  | and => exact and_assoc a b c
  | or => exact or_assoc a b c

/-- In an empty row nothing decides. -/
@[simp] theorem scan_nil : scan connective [] = .ok (.ok connective.neutral) := rfl

/-- The first outcome of a row is joined to those after it. -/
@[simp] theorem scan_cons (first : Outcome) (rest : List Outcome) :
    scan connective (first :: rest) = join connective first (scan connective rest) := by
  unfold scan
  rw [List.mapM_cons]
  -- The first outcome is an error of either sort, or an answer; the others have a compile error or none.
  rcases first with _ | _ | answer
  · cases connective <;> rfl
  · cases rest.mapM id <;> cases connective <;> rfl
  · cases rest.mapM id with
    | error => cases connective <;> rfl
    | ok results => cases connective <;> cases answer <;> rfl

/-- What decides nothing may be left out at the end. -/
theorem join_neutral (outcome : Outcome) :
    join connective outcome (.ok (.ok connective.neutral)) = outcome := by
  rcases outcome with _ | _ | answer
  · cases connective <;> rfl
  · cases connective <;> rfl
  · cases connective <;> cases answer <;> rfl

/-- What decides nothing may be left out at the beginning. -/
theorem neutral_join (outcome : Outcome) :
    join connective (.ok (.ok connective.neutral)) outcome = outcome := by
  cases outcome <;> cases connective <;> rfl

/-- **A row of outcomes comes to its two parts, joined**, wherever it is cut. -/
theorem scan_append (before after : List Outcome) :
    scan connective (before ++ after)
      = join connective (scan connective before) (scan connective after) := by
  induction before with
  | nil => rw [List.nil_append, scan_nil, neutral_join]
  | cons first rest ih => rw [List.cons_append, scan_cons, scan_cons, ih, join_assoc]

/-- **In a row, another row may stand for what it comes to.** -/
theorem scan_splice (before inner after : List Outcome) :
    scan connective (before ++ scan connective inner :: after)
      = scan connective (before ++ inner ++ after) := by
  rw [scan_append, scan_cons, scan_append, scan_append, join_assoc]

/-- A row has a result if every outcome in it has one. -/
theorem exists_scan_iff (outcomes : List Outcome) :
    (∃ result, scan connective outcomes = .ok result)
      ↔ ∀ outcome ∈ outcomes, ∃ result, outcome = .ok result :=
  (exists_return_iff connective.scan).trans exists_mapM_iff

/-- **Alternatives that all have an answer hold if one of them does.** -/
theorem scan_or_answers {α : Type} {list : List α} {outcome : α → Outcome} {holds : α → Prop}
    (h : ∀ a ∈ list, ∃ answer, outcome a = .ok (.ok answer) ∧ (answer = true ↔ holds a)) :
    ∃ answer, scan .or (list.map outcome) = .ok (.ok answer)
      ∧ (answer = true ↔ ∃ a ∈ list, holds a) := by
  induction list with
  | nil => exact ⟨false, rfl, by simp⟩
  | cons first rest ih =>
    obtain ⟨⟨answer, hanswer, hfirst⟩, hrest⟩ := List.forall_mem_cons.1 h
    obtain ⟨found, hfound, hiff⟩ := ih hrest
    refine ⟨answer || found, ?_, ?_⟩
    · rw [List.map_cons, scan_cons, hanswer, hfound]
      cases answer <;> rfl
    · rw [Bool.or_eq_true, hfirst, hiff, List.exists_mem_cons_iff]

end Outcome

/-! ### Rows of filters -/

namespace Criteria

variable {setting : Setting} {type : RecordType} {record : Record}

/-- A joined filter comes to its parts, joined. -/
theorem outcome_join (connective : Connective) (left right : Criteria) :
    (connective.join left right).outcome setting type record
      = Outcome.join connective (left.outcome setting type record)
          (right.outcome setting type record) := by
  cases connective with
  | and => exact outcome_and setting type record left right
  | or => exact outcome_or setting type record left right

/-- **Filters that are joined from left to right come to the scan of what each of them comes to**: the first
    compile error if there is one; otherwise the first answer that decides or the evaluation error before it. -/
theorem outcome_foldl_join (connective : Connective) (first : Criteria) (rest : List Criteria) :
    (rest.foldl connective.join first).outcome setting type record
      = Outcome.scan connective
          ((first :: rest).map fun criteria => criteria.outcome setting type record) := by
  induction rest generalizing first with
  | nil => rw [List.foldl_nil, List.map_singleton, Outcome.scan_cons, Outcome.scan_nil,
      Outcome.join_neutral]
  | cons next rest ih =>
    rw [List.foldl_cons, ih, List.map_cons, Outcome.scan_cons, outcome_join, Outcome.join_assoc]
    simp

/-- A filter can be bound to a type if it comes to anything but a compile error, on whatever record. -/
theorem exists_compile_iff (criteria : Criteria) (record : Record) :
    (∃ condition, Condition.compile setting type criteria = .ok condition)
      ↔ ∃ result, criteria.outcome setting type record = .ok result := by
  unfold outcome
  cases Condition.compile setting type criteria <;> simp [Except.map]

section

variable {α : Type} {part : α → Criteria} {first : α} {rest : List α}

/-- Joined filters can be bound to a type if all of them can. -/
theorem exists_compile_foldl_join (connective : Connective) :
    (∃ condition, Condition.compile setting type ((rest.map part).foldl connective.join (part first))
        = .ok condition)
      ↔ ∀ a ∈ first :: rest, ∃ condition, Condition.compile setting type (part a) = .ok condition := by
  -- Whether a filter can be bound does not depend on the record.
  have hany : ∀ criteria, (∃ condition, Condition.compile setting type criteria = .ok condition)
      ↔ ∃ result, criteria.outcome setting type (fun _ => none) = .ok result := by
    intro criteria
    apply exists_compile_iff
  simp only [hany]
  rw [outcome_foldl_join, Outcome.exists_scan_iff, ← List.map_cons, List.map_map, List.forall_mem_map]
  rfl

/-- **Filters that are joined by `or` hold if one of them does**, on a record on which all of them have an
    answer. -/
theorem evaluate_alternatives {condition : Condition} {holds : α → Prop}
    (hcompile : Condition.compile setting type ((rest.map part).foldl Connective.or.join (part first))
      = .ok condition)
    (h : ∀ a ∈ first :: rest, ∃ answer, (part a).outcome setting type record = .ok (.ok answer)
      ∧ (answer = true ↔ holds a)) :
    ∃ answer, condition.evaluate record = .ok answer
      ∧ (answer = true ↔ ∃ a ∈ first :: rest, holds a) := by
  obtain ⟨answer, hanswer, hiff⟩ := Outcome.scan_or_answers h
  have houtcome : (Except.ok (condition.evaluate record) : Outcome) = .ok (.ok answer) := by
    calc Except.ok (condition.evaluate record)
        = ((rest.map part).foldl Connective.or.join (part first)).outcome setting type record := by
          rw [outcome, hcompile]
          rfl
      _ = Outcome.scan .or ((first :: rest).map fun a => (part a).outcome setting type record) := by
          rw [outcome_foldl_join, ← List.map_cons, List.map_map]
          rfl
      _ = .ok (.ok answer) := hanswer
  exact ⟨answer, Except.ok.inj houtcome, hiff⟩

end

end Criteria

end RecordFilter
