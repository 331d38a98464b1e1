import RecordFilter.Proofs.CompactArray.Chains
import RecordFilter.Proofs.Condition.Outcome
import RecordFilter.Proofs.Except

namespace RecordFilter

/-!
# Filters side by side

* `Criteria.Answers`, `Criteria.Holds` — a filter has an answer on a record, and the answer is yes.
* `Criteria.Joins.holds_iff` — what is made of filters by conjunction holds if all of them do.
* `CompactArray.joins_juxtaposed` — an array of filters without connectives joins them by conjunction, unless
  there are three.
* `CompactArray.toCriteria_juxtaposed` — so it holds if all of them do, and three filters are an error.

An array of three items that begins with a filter is two filters and the connective between them, so that the
second of three filters stands where the connective should be.
-/

namespace Criteria

variable {setting : Setting} {type : RecordType} {record : Record}

/-- The filter can be bound to the type and evaluated on the record. -/
def Answers (setting : Setting) (type : RecordType) (record : Record) (criteria : Criteria) : Prop :=
  ∃ answer, criteria.outcome setting type record = .ok (.ok answer)

/-- The filter can be bound to the type and holds on the record. -/
def Holds (setting : Setting) (type : RecordType) (record : Record) (criteria : Criteria) : Prop :=
  criteria.outcome setting type record = .ok (.ok true)

/-- Two filters that have an answer are joined by conjunction to one that has an answer, and that holds if both
    of them do. -/
theorem Answers.and {left right : Criteria} (hl : left.Answers setting type record)
    (hr : right.Answers setting type record) :
    (Criteria.and left right).Answers setting type record
      ∧ ((Criteria.and left right).Holds setting type record
        ↔ left.Holds setting type record ∧ right.Holds setting type record) := by
  obtain ⟨a, ha⟩ := hl
  obtain ⟨b, hb⟩ := hr
  have hand : (Criteria.and left right).outcome setting type record = .ok (.ok (a && b)) := by
    rw [outcome_and, ha, hb]
    cases a <;> rfl
  refine ⟨⟨_, hand⟩, ?_⟩
  unfold Holds
  rw [hand, ha, hb]
  simp

/-- **What is made of filters by conjunction only holds if all of them do**, provided that all of them have an
    answer. -/
theorem Joins.holds_iff {first joined : Criteria} {steps : List (Connective × Criteria)}
    (h : Joins first steps joined) (hand : ∀ step ∈ steps, step.1 = .and)
    (hfirst : first.Answers setting type record)
    (hsteps : ∀ step ∈ steps, step.2.Answers setting type record) :
    joined.Answers setting type record
      ∧ (joined.Holds setting type record ↔ first.Holds setting type record
        ∧ ∀ step ∈ steps, step.2.Holds setting type record) := by
  induction h with
  | single first => exact ⟨hfirst, by simp⟩
  | @join first next left right before after connective _ _ ihl ihr =>
    obtain ⟨handBefore, hconnective, handAfter⟩ := by
      simpa only [List.forall_mem_append, List.forall_mem_cons] using hand
    obtain ⟨hbefore, hnext, hafter⟩ := by
      simpa only [List.forall_mem_append, List.forall_mem_cons] using hsteps
    obtain ⟨hleft, hleftHolds⟩ := ihl handBefore hfirst hbefore
    obtain ⟨hright, hrightHolds⟩ := ihr handAfter hnext hafter
    cases hconnective
    obtain ⟨hanswers, hholds⟩ := hleft.and hright
    refine ⟨hanswers, ?_⟩
    rw [Connective.join, hholds, hleftHolds, hrightHolds, List.forall_mem_append,
      List.forall_mem_cons, and_assoc]

end Criteria

namespace CompactArray

open Criteria

/-- The steps of a chain without connectives. -/
def juxtaposed (rest : List Described) : Steps Described :=
  rest.map fun described => (none, described)

/-- A chain without connectives is nothing but its documents. -/
theorem stepItems_juxtaposed (rest : List Described) :
    stepItems (juxtaposed rest) = rest.map Described.document := by
  induction rest with
  | nil => rfl
  | cons described rest ih => exact congrArg (described.document :: ·) ih

/-- The filters of a chain without connectives are joined by conjunction. -/
theorem explicit_juxtaposed (rest : List Described) :
    (juxtaposed rest).criteria.explicit = rest.map fun described => (.and, described.criteria) := by
  simp [juxtaposed, Steps.criteria, Steps.explicit]

/-- **An array of filters without connectives joins them by conjunction**, unless there are three. -/
theorem joins_juxtaposed (first : Described) (rest : List Described) (h : rest.length ≠ 2) :
    ∃ joined, toCriteria (.array ((first :: rest).map Described.document)) = .ok joined
      ∧ Joins first.criteria (rest.map fun described => (.and, described.criteria)) joined := by
  rw [List.map_cons]
  -- A single filter is unwrapped and two are a pair; only from four on they are a chain.
  match rest, h with
  | [], _ =>
    refine ⟨first.criteria, ?_, .single _⟩
    rw [List.map_nil, toCriteria, links, first.link_document, array.eq_def]
    rfl
  | [second], _ =>
    refine ⟨.and first.criteria second.criteria, ?_, .join .and (.single _) (.single _)⟩
    obtain ⟨⟨items, hitems⟩, _⟩ := link_of_toCriteria first.describes
    rw [List.map_singleton, toCriteria, links, links, first.link_document, second.link_document, hitems]
    rfl
  | second :: third :: fourth :: more, _ =>
    refine ⟨_, ?_, explicit_juxtaposed (second :: third :: fourth :: more) ▸ joins_joinChain _ _⟩
    rw [← stepItems_juxtaposed]
    refine toCriteria_chainItems first _ ?_
    rw [stepItems_juxtaposed]
    simp

/-- The second of three filters stands where a connective should be. -/
theorem toCriteria_three (first second third : Described) :
    toCriteria (.array [first.document, second.document, third.document])
      = .error (.invalidOperand (.notAConnective second.document)) := by
  obtain ⟨⟨items, hitems⟩, _⟩ := link_of_toCriteria first.describes
  obtain ⟨⟨items', hitems'⟩, _⟩ := link_of_toCriteria second.describes
  rw [hitems, hitems']
  rfl

/-- **Filters without connectives are joined by conjunction, unless there are three.** The array of any other
    number of them describes a filter that has an answer wherever all of them have one, and holds if all of
    them do. Three filters are an error. -/
theorem toCriteria_juxtaposed (first : Described) (rest : List Described) :
    (rest.length ≠ 2 →
      ∃ joined, toCriteria (.array ((first :: rest).map Described.document)) = .ok joined
        ∧ ∀ setting type record,
          (∀ described ∈ first :: rest, described.criteria.Answers setting type record) →
            joined.Answers setting type record
              ∧ (joined.Holds setting type record
                ↔ ∀ described ∈ first :: rest, described.criteria.Holds setting type record))
      ∧ ∀ second third, rest = [second, third] →
        toCriteria (.array ((first :: rest).map Described.document))
          = .error (.invalidOperand (.notAConnective second.document)) := by
  constructor
  · intro h
    obtain ⟨joined, hjoined, hjoins⟩ := joins_juxtaposed first rest h
    refine ⟨joined, hjoined, fun setting type record hanswers => ?_⟩
    obtain ⟨hfirst, hrest⟩ := List.forall_mem_cons.1 hanswers
    rw [List.forall_mem_cons]
    have hall := hjoins.holds_iff (by simp) hfirst (List.forall_mem_map.2 hrest)
    rwa [List.forall_mem_map] at hall
  · rintro second third rfl
    exact toCriteria_three first second third

/-- A type with five texts. -/
def letterType : RecordType :=
  ⟨"Letters", ["A", "B", "C", "D", "E"].map fun name => ⟨name, .string, false⟩⟩

/-- The culture of filter texts, on some day. -/
def someSetting : Setting :=
  ⟨.standard, ⟨2024, 2, 29, Date.valid_leapDay2024⟩⟩

/-- A record with one text and null everywhere else. -/
def oneLetter (name : String) : Record := fun other =>
  if other = name then some (.text "x") else some .null

/-- Five tests hold if all texts are null, and do not if one is not. Three tests are an error. -/
theorem toCriteria_juxtaposed_letters :
    (∃ joined, toCriteria (.array [leafJson "A" "=" .null, leafJson "B" "=" .null,
        leafJson "C" "=" .null, leafJson "D" "=" .null, leafJson "E" "=" .null]) = .ok joined
      ∧ joined.Holds someSetting letterType (oneLetter "F")
      ∧ ¬ joined.Holds someSetting letterType (oneLetter "D"))
    ∧ toCriteria (.array [leafJson "A" "=" .null, leafJson "B" "=" .null, leafJson "C" "=" .null])
      = .error (.invalidOperand (.notAConnective (leafJson "B" "=" .null))) := by
  let a := nullTest "A" (by decide +kernel)
  let b := nullTest "B" (by decide +kernel)
  let c := nullTest "C" (by decide +kernel)
  let d := nullTest "D" (by decide +kernel)
  let e := nullTest "E" (by decide +kernel)
  obtain ⟨joined, hjoined, hmeaning⟩ := (toCriteria_juxtaposed a [b, c, d, e]).1 (by decide)
  refine ⟨⟨joined, hjoined, ?_, fun hholds => ?_⟩, (toCriteria_juxtaposed a [b, c]).2 b c rfl⟩
  · refine (hmeaning someSetting letterType (oneLetter "F") ?_).2.2 ?_
    · simp only [List.forall_mem_cons]
      exact ⟨⟨_, rfl⟩, ⟨_, rfl⟩, ⟨_, rfl⟩, ⟨_, rfl⟩, ⟨_, rfl⟩, nofun⟩
    · simp only [List.forall_mem_cons]
      exact ⟨rfl, rfl, rfl, rfl, rfl, nofun⟩
  · have hall := (hmeaning someSetting letterType (oneLetter "D") ?_).2.1 hholds d (by simp)
    · exact absurd (Except.ok.inj hall) nofun
    · simp only [List.forall_mem_cons]
      exact ⟨⟨_, rfl⟩, ⟨_, rfl⟩, ⟨_, rfl⟩, ⟨_, rfl⟩, ⟨_, rfl⟩, nofun⟩

/-- Each of three tests side by side is a filter, and together they are none. -/
theorem toCriteria_three_letters :
    toCriteria (leafJson "A" "=" .null) = .ok (.property "A" .isNull)
      ∧ toCriteria (leafJson "B" "=" .null) = .ok (.property "B" .isNull)
      ∧ toCriteria (leafJson "C" "=" .null) = .ok (.property "C" .isNull)
      ∧ ∀ joined, toCriteria (.array [leafJson "A" "=" .null, leafJson "B" "=" .null,
          leafJson "C" "=" .null]) ≠ .ok joined := by
  let a := nullTest "A" (by decide +kernel)
  let b := nullTest "B" (by decide +kernel)
  let c := nullTest "C" (by decide +kernel)
  refine ⟨a.describes, b.describes, c.describes, fun joined h => ?_⟩
  have herror := toCriteria_three a b c
  rw [show toCriteria (.array [a.document, b.document, c.document]) = .ok joined from h] at herror
  cases herror

end CompactArray

end RecordFilter
