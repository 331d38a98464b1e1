import RecordFilter.Criteria.Properties
import RecordFilter.OperatorTree.Criteria
import RecordFilter.Proofs.Condition.Laws
import RecordFilter.Proofs.Except
import RecordFilter.Proofs.Text.Plain

namespace RecordFilter

/-!
# Filters as operator trees and back

* `Criteria.notNullForm` — a filter with the test for not null in place of negated tests for null.
* `Criteria.sameOutcome_notNullForm` — which comes to the same.
* `OperatorTree.exists_ofCriteria_iff` — a filter has a tree unless it tests items.
* `OperatorTree.toCriteria_of_ofCriteria` — the tree of a filter describes the filter in that form.
* `OperatorTree.ofCriteria_roundTrip` — all three together.
-/

namespace Criteria

/-- The filter with every negation that stands directly before a test for null replaced by the test
    for not null. -/
def notNullForm : Criteria → Criteria
  | .and left right => .and left.notNullForm right.notNullForm
  | .or left right => .or left.notNullForm right.notNullForm
  | .not (.property name .isNull) => .property name .isNotNull
  | .not inner => .not inner.notNullForm
  | .property name test => .property name test
  | .any name item => .any name item.notNullForm
  | .currentUser => .currentUser

/-- Unfolding lemma: a negation before anything but a test for null stays. -/
theorem notNullForm_not {inner : Criteria} (h : ∀ name, inner ≠ .property name .isNull) :
    notNullForm (.not inner) = .not inner.notNullForm := by
  rw [notNullForm]
  exact h

/-- **A filter comes to the same as its form with tests for not null.** -/
theorem sameOutcome_notNullForm (criteria : Criteria) :
    SameOutcome criteria.notNullForm criteria := by
  induction criteria with
  | and left right ihl ihr => exact ihl.and ihr
  | or left right ihl ihr => exact ihl.or ihr
  | not inner ih =>
    by_cases h : ∃ name, inner = .property name .isNull
    · obtain ⟨name, rfl⟩ := h
      exact sameOutcome_isNotNull name
    · rw [notNullForm_not fun name heq => h ⟨name, heq⟩]
      exact ih.not
  | property name test => exact .refl _
  | any name item ih => exact ih.any name
  | currentUser => exact .refl _

/-- A test is a filter if its name can stand for a property. -/
theorem ofTest_eq_ok {name : String} (h : IsPropertyName name) (test : PropertyTest) :
    ofTest name test = .ok (.property name test) := by
  rw [ofTest, checkPropertyName_eq_ok.2 h]
  rfl

end Criteria

namespace OperatorTree

open Criteria

/-! ### Which filters have a tree -/

/-- The tree of joined filters is the group of their trees. -/
theorem ofCriteria_join (connective : Connective) (left right : Criteria) (tree : OperatorTree) :
    ofCriteria (connective.join left right) = .ok tree
      ↔ ∃ l r, ofCriteria left = .ok l ∧ ofCriteria right = .ok r
          ∧ tree = .group connective [l, r] := by
  have hunfold : ofCriteria (connective.join left right)
      = do return .group connective [← ofCriteria left, ← ofCriteria right] := by
    cases connective <;> rfl
  rw [hunfold, bind_eq_ok]
  constructor
  · rintro ⟨l, hl, h⟩
    obtain ⟨r, hr, h⟩ := bind_eq_ok.1 h
    cases h
    exact ⟨l, r, hl, hr, rfl⟩
  · rintro ⟨l, r, hl, hr, rfl⟩
    exact ⟨l, hl, bind_eq_ok.2 ⟨r, hr, rfl⟩⟩

/-- The tree of a negation is the negation of the tree. -/
theorem ofCriteria_not (inner : Criteria) (tree : OperatorTree) :
    ofCriteria (.not inner) = .ok tree ↔ ∃ t, ofCriteria inner = .ok t ∧ tree = .unary .not t := by
  rw [ofCriteria, bind_eq_ok]
  constructor
  · rintro ⟨t, hi, h⟩
    cases h
    exact ⟨t, hi, rfl⟩
  · rintro ⟨t, hi, rfl⟩
    exact ⟨t, hi, rfl⟩

/-- Joined filters have a tree if both have one. -/
theorem exists_ofCriteria_join (connective : Connective) (left right : Criteria) :
    (∃ tree, ofCriteria (connective.join left right) = .ok tree)
      ↔ (∃ tree, ofCriteria left = .ok tree) ∧ ∃ tree, ofCriteria right = .ok tree := by
  constructor
  · rintro ⟨tree, h⟩
    obtain ⟨l, r, hl, hr, _⟩ := (ofCriteria_join connective left right tree).1 h
    exact ⟨⟨l, hl⟩, ⟨r, hr⟩⟩
  · rintro ⟨⟨l, hl⟩, ⟨r, hr⟩⟩
    exact ⟨_, (ofCriteria_join connective left right _).2 ⟨l, r, hl, hr, rfl⟩⟩

/-- **A filter has a tree unless a test of items is among its parts.** -/
theorem exists_ofCriteria_iff (criteria : Criteria) :
    (∃ tree, ofCriteria criteria = .ok tree)
      ↔ ∀ name item, Criteria.any name item ∉ criteria.nodes := by
  induction criteria with
  | and left right ihl ihr =>
    rw [← Connective.join, exists_ofCriteria_join, ihl, ihr]
    simp only [Connective.join, nodes, List.mem_cons, List.mem_append, reduceCtorEq, false_or,
      not_or, forall_and]
  | or left right ihl ihr =>
    rw [← Connective.join, exists_ofCriteria_join, ihl, ihr]
    simp only [Connective.join, nodes, List.mem_cons, List.mem_append, reduceCtorEq, false_or,
      not_or, forall_and]
  | not inner ih =>
    simp only [ofCriteria_not, nodes, List.mem_cons, reduceCtorEq, false_or]
    rw [← ih]
    constructor
    · rintro ⟨_, t, hi, _⟩
      exact ⟨t, hi⟩
    · rintro ⟨t, hi⟩
      exact ⟨_, t, hi, rfl⟩
  | property name test => exact ⟨fun _ => by simp [nodes], fun _ => ⟨_, rfl⟩⟩
  | any name item ih =>
    constructor
    · rintro ⟨tree, h⟩
      cases h
    · intro h
      exact absurd List.mem_cons_self (h name item)
  | currentUser => exact ⟨fun _ => by simp [nodes], fun _ => ⟨_, rfl⟩⟩

/-! ### Trees of filters -/

/-- The operands of a value list are its values. -/
theorem mapM_scalarValue (values : List Value) :
    (values.map OperatorTree.value).mapM scalarValue = .ok values := by
  rw [List.mapM_map, mapM_eq_ok (f := scalarValue ∘ value) (g := id) fun _ _ => rfl, List.map_id]

/-- The tree of a property test describes the test. -/
theorem toCriteria_ofTest {name : String} (h : IsPropertyName name) (test : PropertyTest) :
    (ofTest name test).toCriteria = .ok (.property name test) := by
  cases test with
  | oneOf values =>
    rw [ofTest, toCriteria, mapM_scalarValue]
    exact Criteria.ofTest_eq_ok h _
  | _ =>
    rw [ofTest, toCriteria]
    exact Criteria.ofTest_eq_ok h _

/-- Only a test for null has a test for null for its tree. -/
theorem eq_isNull_of_ofCriteria {criteria : Criteria} {operand : OperatorTree}
    (h : ofCriteria criteria = .ok (.unary .isNull operand)) :
    ∃ name, criteria = .property name .isNull := by
  cases criteria with
  | and left right =>
    obtain ⟨l, r, _, _, heq⟩ := (ofCriteria_join .and left right _).1 h
    cases heq
  | or left right =>
    obtain ⟨l, r, _, _, heq⟩ := (ofCriteria_join .or left right _).1 h
    cases heq
  | not inner =>
    obtain ⟨t, _, heq⟩ := (ofCriteria_not inner _).1 h
    cases heq
  | property name test =>
    cases test with
    | isNull => exact ⟨name, rfl⟩
    | _ => cases h
  | any => cases h
  | currentUser => cases h

/-- A group of two trees describes what they describe, joined. -/
theorem toCriteria_group (connective : Connective) {l r : OperatorTree} {left right : Criteria}
    (hl : l.toCriteria = .ok left) (hr : r.toCriteria = .ok right) :
    (group connective [l, r]).toCriteria = .ok (connective.join left right) := by
  rw [toCriteria, hl]
  show joinCriteria connective left [r] = _
  rw [joinCriteria, hr]
  show joinCriteria connective (connective.join left right) [] = _
  rw [joinCriteria]

/-- **The tree of a filter describes the filter**, negated tests for null being tests for not null.
    -/
theorem toCriteria_of_ofCriteria {criteria : Criteria} (hwf : criteria.WellFormed)
    {tree : OperatorTree} (h : ofCriteria criteria = .ok tree) :
    tree.toCriteria = .ok criteria.notNullForm := by
  induction criteria generalizing tree with
  | and left right ihl ihr =>
    obtain ⟨l, r, hl, hr, rfl⟩ := (ofCriteria_join .and left right tree).1 h
    exact toCriteria_group .and (ihl hwf.1 hl) (ihr hwf.2 hr)
  | or left right ihl ihr =>
    obtain ⟨l, r, hl, hr, rfl⟩ := (ofCriteria_join .or left right tree).1 h
    exact toCriteria_group .or (ihl hwf.1 hl) (ihr hwf.2 hr)
  | not inner ih =>
    obtain ⟨t, ht, rfl⟩ := (ofCriteria_not inner tree).1 h
    by_cases hnull : ∃ name, inner = .property name .isNull
    -- The reader looks ahead: a negation before a test for null is one test.
    · obtain ⟨name, rfl⟩ := hnull
      cases ht
      exact toCriteria_ofTest hwf .isNotNull
    · rw [notNullForm_not fun name heq => hnull ⟨name, heq⟩, toCriteria, ih hwf ht]
      · rfl
      · rintro operand rfl
        exact hnull (eq_isNull_of_ofCriteria ht)
  | property name test =>
    cases h
    exact toCriteria_ofTest hwf test
  | any => cases h
  | currentUser =>
    cases h
    rw [toCriteria]
    rfl

/-- **Operator trees carry filters.** A filter has a tree exactly if no test of items is among its
    parts, the tree then describes the filter with negated tests for null as tests for not null, and
    that form comes to the same as the filter. -/
theorem ofCriteria_roundTrip {criteria : Criteria} (hwf : criteria.WellFormed) :
    ((∃ tree, ofCriteria criteria = .ok tree)
        ↔ ∀ name item, Criteria.any name item ∉ criteria.nodes)
      ∧ (∀ tree, ofCriteria criteria = .ok tree → tree.toCriteria = .ok criteria.notNullForm)
      ∧ SameOutcome criteria.notNullForm criteria :=
  ⟨exists_ofCriteria_iff criteria, fun _ h => toCriteria_of_ofCriteria hwf h,
    sameOutcome_notNullForm criteria⟩

theorem ofCriteria_roundTrip_not_not :
    ∃ tree, ofCriteria (.not (.not (.property "Name" .isNull))) = .ok tree
      ∧ tree.toCriteria = .ok (.not (.property "Name" .isNotNull)) := by
  have hwf : (Criteria.not (.not (.property "Name" .isNull))).WellFormed := by decide +kernel
  obtain ⟨hexists, hread, _⟩ := ofCriteria_roundTrip hwf
  obtain ⟨tree, htree⟩ := hexists.2 (by simp [nodes])
  exact ⟨tree, htree, hread tree htree⟩

end OperatorTree

end RecordFilter
