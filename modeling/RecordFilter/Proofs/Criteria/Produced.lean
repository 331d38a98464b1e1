import RecordFilter.Criteria.Rename
import RecordFilter.OperatorTree.Criteria
import RecordFilter.Proofs.CompactArray.Leaves
import RecordFilter.Proofs.Criteria.Text

namespace RecordFilter

open Text

/-!
# The filters that are produced are well formed

Filters come from texts, from compact arrays, from operator trees and from look-ups that rename the
properties of other filters. All of them build leaves with the constructors that check the name.

* `Criteria.Produced` — the filters that come from one of the four.
* `wellFormed_readExpression`, `CompactArray.wellFormed_toCriteria`,
  `OperatorTree.wellFormed_toCriteria`, `Criteria.wellFormed_rename` — each of them makes well-formed
  filters only.
* `Criteria.Produced.roundTrip` — so every name in a produced filter is a property name, and its text
  is read back as the same filter.
-/

namespace Criteria

/-! ### The parts of a filter -/

/-- A filter and its parts, those within tests of items included. -/
def allNodes : Criteria → List Criteria
  | .and left right => .and left right :: (left.allNodes ++ right.allNodes)
  | .or left right => .or left right :: (left.allNodes ++ right.allNodes)
  | .not inner => .not inner :: inner.allNodes
  | .any name item => .any name item :: item.allNodes
  | leaf => [leaf]

/-- A filter is well formed if all its parts that are about a property have a property name. -/
theorem wellFormed_iff_allNodes (criteria : Criteria) :
    criteria.WellFormed
      ↔ ∀ node ∈ criteria.allNodes, ∀ name, node.propertyName? = some name → IsPropertyName name := by
  induction criteria with
  | and left right ihl ihr =>
    simp [WellFormed, allNodes, propertyName?, ihl, ihr, or_imp, forall_and]
  | or left right ihl ihr =>
    simp [WellFormed, allNodes, propertyName?, ihl, ihr, or_imp, forall_and]
  | not inner ih => simp [WellFormed, allNodes, propertyName?, ih]
  | property name test => simp [WellFormed, allNodes, propertyName?]
  | any name item ih => simp [WellFormed, allNodes, propertyName?, ih]
  | currentUser => simp [WellFormed, allNodes, propertyName?]

/-! ### Leaves -/

/-- A leaf is built with a property name or not at all. -/
theorem wellFormed_ofTest (name : String) (test : PropertyTest) :
    Makes WellFormed (ofTest name test) := by
  cases h : ofTest name test with
  | error => exact True.intro
  | ok criteria =>
    obtain ⟨hname, rfl⟩ := checked_eq_ok.1 h
    exact hname

/-- A test of items is built with a property name or not at all. -/
theorem wellFormed_ofItems (name : String) {item : Criteria} (hitem : item.WellFormed) :
    Makes WellFormed (ofItems name item) := by
  cases h : ofItems name item with
  | error => exact True.intro
  | ok criteria =>
    obtain ⟨hname, rfl⟩ := checked_eq_ok.1 h
    exact ⟨hname, hitem⟩

/-- Well-formed filters stay well formed when they are joined or negated. -/
theorem wellFormed_isStable : IsStable WellFormed where
  join := fun connective _ _ hl hr => by
    cases connective with
    | and => exact ⟨hl, hr⟩
    | or => exact ⟨hl, hr⟩
  not := fun _ h => h

end Criteria

open Criteria

/-! ### Filter texts -/

/-- A test of a property is well formed. -/
theorem wellFormed_propertyCriteria (culture : Culture) (body : Span) :
    Makes WellFormed (propertyCriteria culture body) := by
  unfold propertyCriteria
  split
  case h_1 => exact makes_bind fun test => wellFormed_ofTest _ test
  case h_2 => exact True.intro

/-- **What is read from the front of a text is well formed**, by whatever culture. -/
theorem wellFormed_readExpression (culture : Culture) (span : Span) :
    Makes (fun found => found.1.WellFormed) (readExpression culture span) := by
  -- Every filter inside is read from a shorter stretch of text.
  induction hlength : span.chars.length using Nat.strongRecOn generalizing span with
  | ind length ih =>
    subst hlength
    have hread : ∀ inner : Span, inner.chars.length < span.chars.length →
        Makes (fun found => found.1.WellFormed) (readExpression culture inner) :=
      fun inner hshorter => ih _ hshorter inner rfl
    rw [readExpression_eq]
    split
    case h_1 rest hchars =>
      have hshorter := Span.length_lt_of_skipBlanks hchars
      refine (hread _ hshorter).bind fun (left, afterLeft) hleft hwfLeft => ?_
      refine makes_bind fun joined => ?_
      have hword : (afterWord afterLeft).chars.length < span.chars.length :=
        Nat.lt_of_le_of_lt (length_afterWord_le afterLeft)
          (Nat.lt_trans (length_lt_of_readExpression hleft) hshorter)
      refine (hread _ hword).bind fun (right, afterRight) _ hwfRight => ?_
      exact makes_bind fun after => wellFormed_isStable.join joined left right hwfLeft hwfRight
    case h_2 rest hchars =>
      have hshorter := Span.length_lt_of_skipBlanks hchars
      split
      case h_1 => exact True.intro
      case h_2 body after hclosing =>
        have hbody := (length_closingBracket?_lt hclosing).1
        refine Ends.map ?_ fun criteria _ hwf => hwf
        unfold readBracketed
        split
        case h_1 name inner hinner =>
          have hinner := Span.length_itemsTest?_lt hinner
          refine (hread inner (by simp only at hinner; omega)).bind fun (item, after) _ hwf => ?_
          exact makes_bind fun _ => wellFormed_ofItems name hwf
        case h_2 => exact wellFormed_propertyCriteria culture _
    case h_3 blank rest hchars =>
      split
      case isTrue =>
        have hshorter : rest.length < span.chars.length := by
          have hle := span.length_skipBlanks_le
          rw [hchars] at hle
          simp only [List.length_cons] at hle
          omega
        refine (hread _ hshorter).bind fun (inner, afterInner) _ hwf => ?_
        exact makes_bind fun after => hwf
      case isFalse => exact True.intro
    case h_4 =>
      unfold readCurrentUser
      split
      · exact True.intro
      · split <;> exact True.intro

/-- The filter of a text is well formed. -/
theorem Criteria.wellFormed_of_parse {culture : Culture} {text : String} {criteria : Criteria}
    (h : parse culture text = .ok (some criteria)) : criteria.WellFormed := by
  have hwhole : Makes WellFormed (wholeExpression culture (Span.ofString text)) := by
    rw [wholeExpression_eq]
    refine (wellFormed_readExpression culture _).bind fun (found, after) _ hwf => ?_
    exact makes_bind fun _ => hwf
  unfold parse at h
  split at h
  case isTrue => cases h
  case isFalse =>
    cases hread : wholeExpression culture (Span.ofString text) with
    | error =>
      rw [hread] at h
      cases h
    | ok found =>
      rw [hread] at h
      cases h
      exact hwhole.of_eq_ok hread

/-! ### Compact arrays -/

namespace CompactArray

/-- A leaf of a compact array is well formed. -/
theorem wellFormed_leaf (name word : String) (operand : Json) :
    Makes WellFormed (leaf name word operand) := by
  unfold leaf
  split
  case isTrue =>
    split
    case h_1 low high =>
      exact makes_bind fun low => makes_bind fun high => wellFormed_ofTest name _
    case h_2 => exact True.intro
  case isFalse =>
    refine makes_bind fun value => ?_
    split
    case h_1 => exact wellFormed_ofTest name _
    case h_2 => exact wellFormed_ofTest name _
    case h_3 =>
      split
      case isTrue => exact (wellFormed_ofTest name _).bind fun inner _ hwf => hwf
      case isFalse => exact True.intro

/-- **The filter of a compact array is well formed.** -/
theorem wellFormed_toCriteria (document : Json) : Makes WellFormed (toCriteria document) :=
  toCriteria_makes wellFormed_isStable (fun _ _ _ _ => True.intro)
    (fun name word operand _ => wellFormed_leaf name word operand) True.intro

end CompactArray

/-! ### Operator trees -/

namespace OperatorTree

/-- The filter for a day is well formed. -/
theorem wellFormed_onDay (name : String) (operand : OperatorTree) :
    Makes WellFormed (onDay name operand) := by
  unfold onDay
  refine makes_bind fun day => ?_
  split
  case h_1 moment =>
    split
    case h_1 => exact True.intro
    case h_2 next _ =>
      refine (wellFormed_ofTest name _).bind fun lower _ hlower => ?_
      exact (wellFormed_ofTest name _).bind fun upper _ hupper => ⟨hlower, hupper⟩
  case h_2 => exact True.intro

/-- A disjunction of well-formed filters is well formed. -/
theorem wellFormed_foldl_or {first : Criteria} {rest : List Criteria} (hfirst : first.WellFormed)
    (hrest : ∀ filter ∈ rest, filter.WellFormed) : (rest.foldl .or first).WellFormed := by
  induction rest generalizing first with
  | nil => exact hfirst
  | cons next rest ih =>
    obtain ⟨hnext, hrest⟩ := List.forall_mem_cons.1 hrest
    exact ih ⟨hfirst, hnext⟩ hrest

/-- The filter for several days is well formed. -/
theorem wellFormed_onSameDay (name : String) (days : List OperatorTree) :
    Makes WellFormed (onSameDay name days) := by
  unfold onSameDay
  refine (Ends.mapM fun day _ => wellFormed_onDay name day).bind fun filters _ hfilters => ?_
  cases filters with
  | nil => exact True.intro
  | cons first rest =>
    obtain ⟨hfirst, hrest⟩ := List.forall_mem_cons.1 hfilters
    exact wellFormed_foldl_or hfirst hrest

/-- The filter of a function is well formed. -/
theorem wellFormed_functionCriteria (operator : FunctionOperator) (operands : List OperatorTree) :
    Makes WellFormed (functionCriteria operator operands) := by
  unfold functionCriteria
  split
  case h_1 => split <;> exact True.intro
  case h_2 => exact True.intro
  case h_3 => exact True.intro
  case h_4 =>
    refine makes_bind fun name => ?_
    split
    case h_1 => exact wellFormed_ofTest name _
    case h_2 => exact wellFormed_ofTest name _
    case h_3 => exact True.intro
    case h_4 => exact makes_bind fun argument => wellFormed_ofTest name _
    case h_5 => exact wellFormed_onSameDay name _
    case h_6 => exact True.intro

mutual

/-- **The filter of an operator tree is well formed.** -/
theorem wellFormed_toCriteria (tree : OperatorTree) : Makes WellFormed tree.toCriteria := by
  cases tree with
  | group connective operands =>
    cases operands with
    | nil => exact True.intro
    | cons first rest =>
      rw [toCriteria]
      refine (wellFormed_toCriteria first).bind fun joined _ hjoined => ?_
      exact wellFormed_joinCriteria connective hjoined rest
  | unary operator operand =>
    cases operator with
    | isNull =>
      rw [toCriteria]
      exact makes_bind fun name => wellFormed_ofTest name .isNull
    | not =>
      -- The reader looks ahead: a negation before a test for null is one test.
      by_cases hnull : ∃ subject, operand = .unary .isNull subject
      · obtain ⟨subject, rfl⟩ := hnull
        rw [toCriteria]
        exact makes_bind fun name => wellFormed_ofTest name .isNotNull
      · rw [toCriteria]
        · exact (wellFormed_toCriteria operand).bind fun inner _ hinner => hinner
        · exact fun subject heq => hnull ⟨subject, heq⟩
    | _ => exact True.intro
  | binary operator left right =>
    cases operator with
    | comparison operator =>
      rw [toCriteria]
      exact makes_bind fun name => makes_bind fun value => wellFormed_ofTest name _
    | _ => exact True.intro
  | oneOf left operands =>
    rw [toCriteria]
    exact makes_bind fun values => makes_bind fun name => wellFormed_ofTest name _
  | between test low high =>
    rw [toCriteria]
    exact makes_bind fun name => makes_bind fun low => makes_bind fun high =>
      wellFormed_ofTest name (.between low high)
  | function operator operands =>
    rw [toCriteria]
    exact wellFormed_functionCriteria operator operands
  | property => exact True.intro
  | value => exact True.intro

/-- Joining the filters of trees to a well-formed filter makes a well-formed one. -/
theorem wellFormed_joinCriteria (connective : Connective) {joined : Criteria}
    (hjoined : joined.WellFormed) (operands : List OperatorTree) :
    Makes WellFormed (joinCriteria connective joined operands) := by
  cases operands with
  | nil => exact hjoined
  | cons next rest =>
    rw [joinCriteria]
    refine (wellFormed_toCriteria next).bind fun right _ hright => ?_
    exact wellFormed_joinCriteria connective
      (wellFormed_isStable.join connective joined right hjoined hright) rest

end

end OperatorTree

/-! ### Renamed filters -/

namespace Criteria

/-- A property is renamed to a property name or not at all. -/
theorem isPropertyName_renamed (lookup : String → Option String) (name : String) :
    Makes IsPropertyName (renamed lookup name) := by
  unfold renamed
  split
  case h_1 => exact True.intro
  case h_2 canonical _ =>
    cases hname : checkPropertyName canonical with
    | error => exact True.intro
    | ok => exact checkPropertyName_eq_ok.1 hname

/-- **Renaming keeps a filter well formed**, whatever the look-up. -/
theorem wellFormed_rename (lookup : String → Option String) {criteria : Criteria}
    (h : criteria.WellFormed) : Makes WellFormed (criteria.rename lookup) := by
  induction criteria with
  | and left right ihl ihr =>
    refine (ihl h.1).bind fun left _ hl => ?_
    exact (ihr h.2).bind fun right _ hr => ⟨hl, hr⟩
  | or left right ihl ihr =>
    refine (ihl h.1).bind fun left _ hl => ?_
    exact (ihr h.2).bind fun right _ hr => ⟨hl, hr⟩
  | not inner ih => exact (ih h).bind fun inner _ hinner => hinner
  | property name test =>
    exact (isPropertyName_renamed lookup name).bind fun canonical _ hname => hname
  | any name item =>
    -- The names inside belong to the items and stay.
    exact (isPropertyName_renamed lookup name).bind fun canonical _ hname => ⟨hname, h.2⟩
  | currentUser => exact True.intro

/-! ### Produced filters -/

/-- A filter that comes from a text by the conventions of some culture, from a compact array, from an
    operator tree, or from a look-up that renames the properties of a well-formed filter. -/
inductive Produced (criteria : Criteria) : Prop
  | text (culture : Culture) (text : String) (h : parse culture text = .ok (some criteria))
  | array (document : Json) (h : CompactArray.toCriteria document = .ok criteria)
  | tree (tree : OperatorTree) (h : tree.toCriteria = .ok criteria)
  | renamed (lookup : String → Option String) (original : Criteria)
      (hwf : original.WellFormed) (h : original.rename lookup = .ok criteria)

/-- **Produced filters are well formed.** -/
theorem Produced.wellFormed {criteria : Criteria} (h : criteria.Produced) :
    criteria.WellFormed := by
  cases h with
  | text culture text h => exact wellFormed_of_parse h
  | array document h => exact (CompactArray.wellFormed_toCriteria document).of_eq_ok h
  | tree tree h => exact (OperatorTree.wellFormed_toCriteria tree).of_eq_ok h
  | renamed lookup original hwf h => exact (wellFormed_rename lookup hwf).of_eq_ok h

end Criteria

/-- A test for null or empty text is built without the argument, whatever it is. -/
theorem PropertyTest.ofFunction_isNullOrEmpty (argument : Value) :
    ofFunction .isNullOrEmpty argument = ofFunction .isNullOrEmpty .null := rfl

/-- A function test is built of a function and a value, the value null for a function without an argument. -/
theorem PropertyTest.exists_ofFunction {test : PropertyTest} (h : test.kindName = "Function") :
    ∃ function argument, test = ofFunction function argument
      ∧ (function = .isNullOrEmpty → argument = .null) := by
  cases test with
  | text function argument => exact ⟨.text function, argument, rfl, fun heq => nomatch heq⟩
  | isNullOrEmpty => exact ⟨.isNullOrEmpty, .null, rfl, fun _ => rfl⟩
  | _ => simp [kindName] at h

namespace Criteria

/-- **Every filter that is produced has property names only and is its own reading.** Whichever way it
    comes from, all its properties, also within tests of items, have names of one or more word
    characters and dots, every function test is built of a function and a value, null for a test for null
    or empty text, which drops any other, and the text of the filter is read back as the same filter. -/
theorem Produced.roundTrip {criteria : Criteria} (h : criteria.Produced) :
    (∀ node ∈ criteria.allNodes,
        (∀ name, node.propertyName? = some name →
          name.toList ≠ [] ∧ ∀ c ∈ name.toList, isWord c = true ∨ c = '.')
        ∧ (∀ name test, node = .property name test → test.kindName = "Function" →
            ∃ function argument, test = .ofFunction function argument
              ∧ (function = .isNullOrEmpty → argument = .null))
        ∧ ∀ name argument, node = .property name (.ofFunction .isNullOrEmpty argument) →
            node = .property name (.ofFunction .isNullOrEmpty .null))
      ∧ parse .standard criteria.text = .ok (some criteria) := by
  refine ⟨fun node hnode => ⟨fun name hname => ?_, ?_, ?_⟩, parse_text_of_wellFormed h.wellFormed⟩
  · obtain ⟨hne, hchars⟩ :=
      (wellFormed_iff_allNodes criteria).1 h.wellFormed node hnode name hname
    refine ⟨hne, fun c hc => ?_⟩
    have hchar := hchars c hc
    rw [isNameChar, Bool.or_eq_true, beq_iff_eq] at hchar
    exact hchar
  · rintro name test - hfunction
    exact PropertyTest.exists_ofFunction hfunction
  · rintro name argument hnode
    rw [hnode, PropertyTest.ofFunction_isNullOrEmpty argument]

/-- A filter that comes from all four. -/
def commonFilter : Criteria :=
  .and (.property "Größe" (.compare .less (.float (.ofInt 1))))
    (.not (.property "a.b" (.text .contains (.string "]'"))))

theorem Produced.roundTrip_commonFilter :
    parse { Culture.standard with decimalSeparator := ',' }
        "([Größe < 1,0] AND not ([a.b Contains ']''']))" = .ok (some commonFilter)
      ∧ CompactArray.toCriteria
          (.array [.array [.string "Größe", .string "<", .float (.ofInt 1)],
            .array [.string "a.b", .string "notcontains", .string "]'"]]) = .ok commonFilter
      ∧ (OperatorTree.group .and
          [.binary (.comparison .less) (.property "Größe") (.value (.float (.ofInt 1))),
           .unary .not (.function (.property (.text .contains))
            [.property "a.b", .property "]'"])]).toCriteria = .ok commonFilter
      ∧ (Criteria.and (.property "s" (.compare .less (.float (.ofInt 1))))
          (.not (.property "t" (.text .contains (.string "]'"))))).rename
            (fun name => if name = "s" then some "Größe" else some "a.b") = .ok commonFilter
      ∧ parse .standard commonFilter.text = .ok (some commonFilter) := by
  have htext : parse { Culture.standard with decimalSeparator := ',' }
      "([Größe < 1,0] AND not ([a.b Contains ']''']))" = .ok (some commonFilter) :=
    eq_ok_of_toOption (by decide +kernel)
  refine ⟨htext, eq_ok_of_toOption (by decide +kernel), eq_ok_of_toOption (by decide +kernel),
    eq_ok_of_toOption (by decide +kernel), (Produced.text _ _ htext).roundTrip.2⟩

end Criteria

end RecordFilter
