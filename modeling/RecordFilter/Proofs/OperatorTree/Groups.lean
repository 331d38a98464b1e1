import Mathlib.Logic.Relation
import RecordFilter.OperatorTree.Criteria
import RecordFilter.Proofs.Condition.Scan
import RecordFilter.Proofs.Condition.Soundness

namespace RecordFilter

/-!
# Groups of operator trees

* `OperatorTree.outcome` — what a tree comes to: that it describes no filter, or what the filter comes to.
* `OperatorTree.outcome_group` — a group comes to the scan of what its operands come to.
* `OperatorTree.Splices` — trees one of which has a group inside of a group with the same connective, somewhere,
  and the other one just the operands of the inner group.
* `OperatorTree.Splices.outcome_eq` — they come to the same.
* `OperatorTree.outcome_groups` — which groups describe a filter, what it comes to, and that splicing any number
  of groups does not change it.
-/

namespace OperatorTree

variable {setting : Setting} {type : RecordType} {record : Record}

/-- What a tree comes to: an error because it describes no filter, or what the filter comes to. -/
def outcome (setting : Setting) (type : RecordType) (record : Record) (tree : OperatorTree) :
    Except FilterError Outcome :=
  tree.toCriteria.map fun criteria => criteria.outcome setting type record

/-! ### Operands of a group -/

/-- The filters that the operands after the first one describe are joined to it, if all of them describe one. -/
theorem joinCriteria_eq (connective : Connective) (joined : Criteria) (operands : List OperatorTree) :
    joinCriteria connective joined operands
      = (operands.mapM toCriteria).map (List.foldl connective.join joined) := by
  induction operands generalizing joined with
  | nil => rfl
  | cons next rest ih =>
    rw [joinCriteria, List.mapM_cons]
    cases next.toCriteria with
    | error => rfl
    | ok filter =>
      rw [ok_bind, ok_bind, ih]
      cases rest.mapM toCriteria <;> rfl

/-- The filters that the operands of a group describe are joined from left to right, if all of them describe
    one. -/
theorem toCriteria_group_eq (connective : Connective) (first : OperatorTree)
    (rest : List OperatorTree) :
    (group connective (first :: rest)).toCriteria
      = do
        let head ← first.toCriteria
        let others ← rest.mapM toCriteria
        return others.foldl connective.join head := by
  rw [toCriteria]
  cases first.toCriteria with
  | error => rfl
  | ok head =>
    rw [ok_bind, ok_bind, joinCriteria_eq]
    cases rest.mapM toCriteria <;> rfl

/-- **A group comes to the scan of what its operands come to**, unless one of them describes no filter: then it
    describes none for the same reason as the first such operand. -/
theorem outcome_group (connective : Connective) {operands : List OperatorTree} (hne : operands ≠ []) :
    (group connective operands).outcome setting type record
      = (operands.mapM (outcome setting type record)).map (Outcome.scan connective) := by
  obtain ⟨first, rest, rfl⟩ := List.exists_cons_of_ne_nil hne
  unfold outcome
  rw [toCriteria_group_eq, mapM_map, List.mapM_cons]
  cases first.toCriteria with
  | error => rfl
  | ok head =>
    cases rest.mapM toCriteria with
    | error => rfl
    | ok others => exact congrArg Except.ok (Criteria.outcome_foldl_join connective head others)

/-- A negation comes to the opposite of its operand, unless it is the test for not null. -/
theorem outcome_not {operand : OperatorTree} (h : ∀ inner, operand ≠ .unary .isNull inner) :
    (unary .not operand).outcome setting type record
      = (operand.outcome setting type record).map Outcome.not := by
  unfold outcome
  rw [toCriteria]
  · cases operand.toCriteria with
    | error => rfl
    | ok filter => exact congrArg Except.ok (Criteria.outcome_not setting type record filter)
  · exact h

/-! ### Splicing -/

/-- The second tree is the first one with the operands of an inner group in place of that group, which is an
    operand of a group with the same connective. The groups may stand anywhere in the tree. -/
inductive Splices : OperatorTree → OperatorTree → Prop
  | here (connective : Connective) (before inner after : List OperatorTree) (h : inner ≠ []) :
      Splices (.group connective (before ++ .group connective inner :: after))
        (.group connective (before ++ inner ++ after))
  | group (connective : Connective) (before after : List OperatorTree) {tree tree' : OperatorTree}
      (h : Splices tree tree') :
      Splices (.group connective (before ++ tree :: after))
        (.group connective (before ++ tree' :: after))
  | unary (operator : UnaryOperator) {tree tree' : OperatorTree} (h : Splices tree tree') :
      Splices (.unary operator tree) (.unary operator tree')
  | binaryLeft (operator : BinaryOperator) (right : OperatorTree) {tree tree' : OperatorTree}
      (h : Splices tree tree') : Splices (.binary operator tree right) (.binary operator tree' right)
  | binaryRight (operator : BinaryOperator) (left : OperatorTree) {tree tree' : OperatorTree}
      (h : Splices tree tree') : Splices (.binary operator left tree) (.binary operator left tree')
  | oneOfLeft (operands : List OperatorTree) {tree tree' : OperatorTree} (h : Splices tree tree') :
      Splices (.oneOf tree operands) (.oneOf tree' operands)
  | oneOfOperand (left : OperatorTree) (before after : List OperatorTree) {tree tree' : OperatorTree}
      (h : Splices tree tree') :
      Splices (.oneOf left (before ++ tree :: after)) (.oneOf left (before ++ tree' :: after))
  | betweenTest (low high : OperatorTree) {tree tree' : OperatorTree} (h : Splices tree tree') :
      Splices (.between tree low high) (.between tree' low high)
  | betweenLow (test high : OperatorTree) {tree tree' : OperatorTree} (h : Splices tree tree') :
      Splices (.between test tree high) (.between test tree' high)
  | betweenHigh (test low : OperatorTree) {tree tree' : OperatorTree} (h : Splices tree tree') :
      Splices (.between test low tree) (.between test low tree')
  | function (operator : FunctionOperator) (before after : List OperatorTree)
      {tree tree' : OperatorTree} (h : Splices tree tree') :
      Splices (.function operator (before ++ tree :: after))
        (.function operator (before ++ tree' :: after))

namespace Splices

variable {tree tree' : OperatorTree}

/-- Neither tree names a property. -/
theorem propertyName_eq (h : Splices tree tree') : tree.propertyName = tree'.propertyName := by
  cases h <;> rfl

/-- Neither tree is a value. -/
theorem scalarValue_eq (h : Splices tree tree') : tree.scalarValue = tree'.scalarValue := by
  cases h <;> rfl

/-- Neither tree is a value or names a property. -/
theorem fieldOrValue_eq (h : Splices tree tree') : tree.fieldOrValue = tree'.fieldOrValue := by
  cases h <;> rfl

/-- Neither tree is a day. -/
theorem onDay_eq (h : Splices tree tree') (name : String) : onDay name tree = onDay name tree' := by
  unfold onDay
  rw [h.scalarValue_eq]

/-- A list in which a part changes goes through the same steps if the step for the part is the same. -/
theorem mapM_eq {β : Type} {f : OperatorTree → Except FilterError β} (h : f tree = f tree')
    (before after : List OperatorTree) :
    (before ++ tree :: after).mapM f = (before ++ tree' :: after).mapM f := by
  rw [List.mapM_append, List.mapM_append, List.mapM_cons, List.mapM_cons, h]

/-- A function makes the same filter of both trees, as it looks into neither. -/
theorem functionCriteria_eq (h : Splices tree tree') (operator : FunctionOperator)
    (before after : List OperatorTree) :
    functionCriteria operator (before ++ tree :: after)
      = functionCriteria operator (before ++ tree' :: after) := by
  cases before with
  | nil =>
    cases operator with
    | custom => cases h <;> rfl
    | _ =>
      unfold functionCriteria
      dsimp only [List.nil_append]
      rw [h.propertyName_eq]
  | cons subject before =>
    cases operator with
    -- The one custom function has a single operand.
    | custom => cases before <;> simp [functionCriteria]
    | property function =>
      cases function with
      | isNullOrEmpty => rfl
      | text =>
        cases before with
        | nil =>
          unfold functionCriteria
          dsimp only [List.cons_append, List.nil_append]
          rw [h.fieldOrValue_eq]
        | cons => rfl
    | isSameDay =>
      unfold functionCriteria
      dsimp only [List.cons_append, onSameDay]
      simp only [mapM_eq (h.onDay_eq _)]
    | _ => rfl

/-- Negations of the trees come to the same if the trees do. One of them is a test for null if the other one is. -/
theorem outcome_not_eq (h : Splices tree tree')
    (hsame : tree.outcome setting type record = tree'.outcome setting type record) :
    (OperatorTree.unary .not tree).outcome setting type record
      = (OperatorTree.unary .not tree').outcome setting type record := by
  by_cases hnull : ∃ inner, tree = .unary .isNull inner
  · obtain ⟨inner, rfl⟩ := hnull
    cases h with
    | unary _ h => simp only [outcome, toCriteria, h.propertyName_eq]
  · have hnull' : ∀ inner, tree' ≠ .unary .isNull inner := by
      rintro inner rfl
      cases h with
      | unary => exact hnull ⟨_, rfl⟩
    rw [outcome_not fun inner heq => hnull ⟨inner, heq⟩, outcome_not hnull', hsame]

/-- **Splicing the operands of a group into a group with the same connective does not change what a tree comes
    to**, wherever in the tree the groups are. -/
theorem outcome_eq (h : Splices tree tree') :
    tree.outcome setting type record = tree'.outcome setting type record := by
  induction h with
  | here connective before inner after hinner =>
    rw [outcome_group connective (by simp), outcome_group connective (by simp [hinner]),
      List.mapM_append, List.mapM_append, List.mapM_append, List.mapM_cons,
      outcome_group connective hinner]
    cases before.mapM (outcome setting type record) with
    | error => rfl
    | ok first =>
      cases inner.mapM (outcome setting type record) with
      | error => rfl
      | ok second =>
        cases after.mapM (outcome setting type record) with
        | error => rfl
        | ok third => exact congrArg Except.ok (Outcome.scan_splice connective first second third)
  | group connective before after _ ih =>
    rw [outcome_group connective (by simp), outcome_group connective (by simp), mapM_eq ih]
  | @unary operator operand operand' h ih =>
    cases operator with
    | isNull => simp only [outcome, toCriteria, h.propertyName_eq]
    | not => exact h.outcome_not_eq ih
    | _ => simp only [outcome, toCriteria]
  | binaryLeft operator right h => cases operator <;> simp only [outcome, toCriteria, h.propertyName_eq]
  | binaryRight operator left h => cases operator <;> simp only [outcome, toCriteria, h.fieldOrValue_eq]
  | oneOfLeft operands h => simp only [outcome, toCriteria, h.propertyName_eq]
  | oneOfOperand left before after h => simp only [outcome, toCriteria, mapM_eq h.scalarValue_eq]
  | betweenTest low high h => simp only [outcome, toCriteria, h.propertyName_eq]
  | betweenLow test high h => simp only [outcome, toCriteria, h.fieldOrValue_eq]
  | betweenHigh test low h => simp only [outcome, toCriteria, h.fieldOrValue_eq]
  | function operator before after h => simp only [outcome, toCriteria, h.functionCriteria_eq]

end Splices

/-! ### Groups -/

/-- **Groups of operator trees are rows.** A group with at least one operand describes a filter if all of its
    operands do, and otherwise fails like the first one that does not. What the filter comes to is what going
    through the operands from left to right comes to: the first compile error, or else the first answer that
    decides or the evaluation error before it. And it does not change when the operands of groups are spliced
    into groups with the same connective around them, any number of times and anywhere in a tree. -/
theorem outcome_groups (connective : Connective) {operands : List OperatorTree} (hne : operands ≠ []) :
    ((∃ criteria, (group connective operands).toCriteria = .ok criteria)
        ↔ ∀ operand ∈ operands, ∃ criteria, operand.toCriteria = .ok criteria)
      ∧ (∀ before failing after fault, operands = before ++ failing :: after →
          (∀ operand ∈ before, ∃ criteria, operand.toCriteria = .ok criteria) →
            failing.toCriteria = .error fault →
              (group connective operands).toCriteria = .error fault)
      ∧ (∀ parts, operands.mapM toCriteria = .ok parts →
          ∃ criteria, (group connective operands).toCriteria = .ok criteria
            ∧ ∀ setting type record, criteria.outcome setting type record
              = Outcome.scan connective (parts.map fun part => part.outcome setting type record))
      ∧ ∀ tree tree', Relation.ReflTransGen Splices tree tree' → ∀ setting type record,
          tree.outcome setting type record = tree'.outcome setting type record := by
  obtain ⟨first, rest, rfl⟩ := List.exists_cons_of_ne_nil hne
  refine ⟨?_, ?_, ?_, ?_⟩
  · rw [toCriteria_group_eq, List.forall_mem_cons, ← exists_mapM_iff]
    exact exists_bind_iff fun head => exists_return_iff (List.foldl connective.join head)
  · intro before failing after fault heq hbefore hfailing
    rw [heq]
    cases before with
    | nil =>
      rw [List.nil_append, toCriteria_group_eq, hfailing]
      rfl
    | cons first before =>
      obtain ⟨⟨head, hhead⟩, hbefore⟩ := List.forall_mem_cons.1 hbefore
      rw [List.cons_append, toCriteria_group_eq, hhead, ok_bind, mapM_eq_error hbefore hfailing]
      rfl
  · intro parts hparts
    rw [List.mapM_cons] at hparts
    obtain ⟨head, hhead, hparts⟩ := bind_eq_ok.1 hparts
    obtain ⟨others, hothers, heq⟩ := bind_eq_ok.1 hparts
    cases heq
    refine ⟨others.foldl connective.join head, ?_, fun setting type record => ?_⟩
    · rw [toCriteria_group_eq, hhead, ok_bind, hothers]
      rfl
    · exact Criteria.outcome_foldl_join connective head others
  · intro tree tree' hsplices setting type record
    induction hsplices with
    | refl => rfl
    | tail _ hstep ih => rw [ih, hstep.outcome_eq]

/-- The order without its customer. -/
def anonymousOrder : Record := fun name =>
  if name = "Customer" then some .null else Condition.order name

/-- A test that does not hold of the order, one that has no answer, and one that holds. -/
def orderOperands : List OperatorTree :=
  [.unary .not (.unary .isNull (.property "Customer")),
    .binary (.comparison .equal) (.property "Customer.Name") (.value (.string "Ada")),
    .unary .isNull (.property "Customer")]

/-- The filters that the tests are. -/
def orderParts : List Criteria :=
  [.property "Customer" .isNotNull,
    .property "Customer.Name" (.compare .equal (.string "Ada")),
    .property "Customer" .isNull]

/-- The alternatives have no answer, as the second one has none. The conjunction has one, as the first test
    decides it; with a property for a further operand it is no filter. The negated alternatives may also be
    written with the last two in a group of their own. -/
theorem outcome_groups_order :
    orderOperands ≠ []
      ∧ (∃ criteria, (group .or orderOperands).toCriteria = .ok criteria
        ∧ criteria.outcome Condition.orderSetting Condition.orderType anonymousOrder
          = .ok (.error (.evaluation (.nullReference "Customer" "Customer.Name"))))
      ∧ (∃ criteria, (group .and orderOperands).toCriteria = .ok criteria
        ∧ criteria.outcome Condition.orderSetting Condition.orderType anonymousOrder = .ok (.ok false))
      ∧ (group .and (orderOperands ++ [.property "Total"])).toCriteria
        = .error (.invalidOperand (.notACriteria "Property"))
      ∧ (unary .not (group .or (orderOperands.take 1 ++ [group .or (orderOperands.drop 1)]))).outcome
          Condition.orderSetting Condition.orderType anonymousOrder
        = (unary .not (group .or orderOperands)).outcome
          Condition.orderSetting Condition.orderType anonymousOrder := by
  have hne : orderOperands ≠ [] := List.cons_ne_nil _ _
  have hparts : orderOperands.mapM toCriteria = .ok orderParts := eq_ok_of_toOption (by decide +kernel)
  obtain ⟨-, -, hor, hsplices⟩ := outcome_groups .or hne
  obtain ⟨-, -, hand, -⟩ := outcome_groups .and hne
  obtain ⟨-, hfails, -, -⟩ := outcome_groups .and (List.append_ne_nil_of_left_ne_nil hne [.property "Total"])
  refine ⟨hne, ?_, ?_, ?_, ?_⟩
  · obtain ⟨criteria, hcriteria, houtcome⟩ := hor orderParts hparts
    exact ⟨criteria, hcriteria, (houtcome _ _ _).trans rfl⟩
  · obtain ⟨criteria, hcriteria, houtcome⟩ := hand orderParts hparts
    exact ⟨criteria, hcriteria, (houtcome _ _ _).trans rfl⟩
  · refine hfails orderOperands _ [] _ rfl (exists_mapM_iff.1 ⟨_, hparts⟩) ?_
    rw [toCriteria, kindName]
  · exact hsplices _ _ (.single (.unary .not (.here .or (orderOperands.take 1)
      (orderOperands.drop 1) [] (List.cons_ne_nil _ _)))) _ _ _

end OperatorTree

end RecordFilter
