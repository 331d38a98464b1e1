import RecordFilter.Proofs.Calendar.Iso
import RecordFilter.Proofs.CompactArray.Cycle
import RecordFilter.Proofs.Condition.Binding
import RecordFilter.Proofs.Condition.Search

namespace RecordFilter

open Text

/-!
# What a filter means after a compact array

A compact array has no tests for null or empty text, and its dates are strings. What comes back from
one is bound to a record type like the filter that was written, with two exceptions: where a test for
null or empty text is about a member that holds no text, the empty text fits no such member, and where a
text is searched for a date-time, it is searched for another text.

* `Criteria.TestsMeet` — a demand on all tests of a filter and the members they are about.
* `Value.coerce?_arrayForm`, `Condition.compileRelation_arrayForm` — a date comes back as a string that
  the culture of filter texts reads as the date.
* `Criteria.BoundFor` — a filter is bound in place of a condition.
* `CompactArray.boundFor_testForm`, `boundFor_arrayForm` — how the array form is bound.
* `CompactArray.ofCriteria_meaning` — what comes back from the array of a filter means.
-/

/-! ### Demands on the tests of a filter -/

namespace Criteria

/-- All tests of a filter, and the members that they are about, meet a demand. The tests inside a test
    of items are about the items and do not count. -/
def TestsMeet (type : RecordType) (demand : Target → PropertyTest → Prop) (criteria : Criteria) :
    Prop :=
  ∀ name test target, Criteria.property name test ∈ criteria.nodes →
    Target.resolve type name = .ok target → demand target test

variable {type : RecordType} {demand : Target → PropertyTest → Prop}

/-- The tests of joined filters are those of both. -/
theorem testsMeet_join (connective : Connective) (left right : Criteria) :
    (connective.join left right).TestsMeet type demand
      ↔ left.TestsMeet type demand ∧ right.TestsMeet type demand := by
  have hnodes : ∀ name test, .property name test ∈ (connective.join left right).nodes
      ↔ .property name test ∈ left.nodes ∨ .property name test ∈ right.nodes := by
    intro name test
    cases connective <;> simp [Connective.join, nodes]
  simp only [TestsMeet, hnodes, or_imp, forall_and]

/-- The tests of a negation are those of the filter inside. -/
theorem testsMeet_not (inner : Criteria) :
    (Criteria.not inner).TestsMeet type demand ↔ inner.TestsMeet type demand := by
  simp [TestsMeet, nodes]

/-- The only test of a property test is the test itself. -/
theorem testsMeet_property {name : String} {test : PropertyTest} {target : Target}
    (h : Target.resolve type name = .ok target) :
    (Criteria.property name test).TestsMeet type demand ↔ demand target test := by
  constructor
  · intro hmeet
    exact hmeet name test target List.mem_cons_self h
  · rintro hdemand other test' target' hmem htarget
    cases List.mem_singleton.1 hmem
    rw [h] at htarget
    cases htarget
    exact hdemand

end Criteria

/-- A test for null or empty text is about a member that holds a text. -/
def Target.HoldsTextIfEmptied (target : Target) (test : PropertyTest) : Prop :=
  test = .isNullOrEmpty → target.kind = .string

/-- A text test with a date-time is not about a member that holds a text. -/
def Target.HoldsNoTextIfDated (target : Target) (test : PropertyTest) : Prop :=
  ∀ function moment, test = .text function (.dateTime moment) → target.kind ≠ .string

/-! ### Binding to members -/

/-- A value that fits a member also fits it, as the same operand, when it comes back from a compact
    array. -/
theorem Value.coerce?_arrayForm {member : Member} {value operand : Value}
    (h : value.coerce? .standard member = some operand) :
    value.arrayForm.coerce? .standard member = some operand := by
  cases value with
  | dateTime moment =>
    -- Only members that hold dates are compared with dates, and also with strings that are dates.
    cases hkind : member.kind with
    | dateTime =>
      unfold coerce? at h ⊢
      rw [hkind] at h ⊢
      cases h
      exact congrArg (Option.map Value.dateTime) (Culture.dateTime?_isoText moment)
    | _ =>
      unfold coerce? at h
      rw [hkind] at h
      cases h
  | _ => exact h

namespace Condition

/-- A relation to a value is bound alike when the value comes back from a compact array. -/
theorem compileRelation_arrayForm {target : Target} {relation : Relation} {value : Value}
    {condition : Condition} (h : compileRelation .standard target relation value = .ok condition) :
    compileRelation .standard target relation value.arrayForm = .ok condition := by
  obtain ⟨operand, hoperand, hordered, rfl⟩ := compileRelation_eq_ok.1 h
  exact compileRelation_eq_ok.2 ⟨operand, Value.coerce?_arrayForm hoperand, hordered, rfl⟩

/-- Only members that hold texts are compared with the empty text: it is no date. -/
theorem compileRelation_empty {target : Target} {condition : Condition} :
    compileRelation .standard target .equal (.string "") = .ok condition
      ↔ target.kind = .string ∧ condition = target.compare .equal (.string "") := by
  have hdate : Culture.standard.dateTime? "".toList = none := by decide +kernel
  unfold compileRelation Value.coerce Value.coerce?
  rw [show target.member.kind = target.kind from rfl]
  cases target.kind with
  | string =>
    constructor
    · intro h
      cases h
      exact ⟨rfl, rfl⟩
    · rintro ⟨-, rfl⟩
      rfl
  | dateTime =>
    dsimp only
    rw [hdate]
    exact ⟨nofun, fun h => nomatch h.1⟩
  | _ => exact ⟨nofun, fun h => nomatch h.1⟩

/-- A comparison with null needs a member that may be null. -/
theorem compileRelation_null {culture : Culture} {target : Target} {relation : Relation}
    {condition : Condition} (h : compileRelation culture target relation .null = .ok condition) :
    target.member.isNullable = true ∧ condition = target.compare relation .null := by
  obtain ⟨operand, hoperand, -, rfl⟩ := compileRelation_eq_ok.1 h
  have hnull : Value.coerce? culture target.member .null
      = if target.member.isNullable then some .null else none := by
    unfold Value.coerce?
    split <;> first | rfl | contradiction
  rw [hnull] at hoperand
  split at hoperand
  case isTrue hnullable =>
    cases hoperand
    exact ⟨hnullable, rfl⟩
  case isFalse => cases hoperand

/-- A comparison is bound alike when its value comes back from a compact array. -/
theorem compile_comparison {setting : Setting} (hculture : setting.culture = .standard)
    {type : RecordType} {name : String} {target : Target}
    (hresolve : Target.resolve type name = .ok target) {operator : ComparisonOperator}
    {relation : Relation} (hrelation : operator.relation? = some relation) {value : Value}
    {condition : Condition} (h : compileRelation .standard target relation value = .ok condition) :
    compile setting type (.property name (.compare operator value.arrayForm)) = .ok condition := by
  rw [compile_property hresolve, compileTest, hrelation, hculture]
  exact compileRelation_arrayForm h

/-- An equality is bound alike when it comes back from a compact array. -/
theorem compile_equalityForm {setting : Setting} (hculture : setting.culture = .standard)
    {type : RecordType} {name : String} {target : Target}
    (hresolve : Target.resolve type name = .ok target) {value : Value} {condition : Condition}
    (h : compileRelation .standard target .equal value = .ok condition) :
    compile setting type (value.equalityForm name) = .ok condition := by
  cases value with
  | null =>
    obtain ⟨hnullable, rfl⟩ := compileRelation_null h
    rw [Value.equalityForm, compile_property hresolve, compileTest, if_pos hnullable]
  | _ => exact compile_comparison hculture hresolve rfl h

/-- Alternatives are bound alike when they come back from a compact array, one after the other. -/
theorem compile_alternatives {setting : Setting} (hculture : setting.culture = .standard)
    {type : RecordType} {name : String} {target : Target}
    (hresolve : Target.resolve type name = .ok target) {values : List Value} {found : Criteria}
    {start condition : Condition} (hfound : compile setting type found = .ok start)
    (h : values.foldlM (fun found value => do
      return .or found (← compileRelation .standard target .equal value)) start = .ok condition) :
    compile setting type
        (values.foldl (fun found value => .or found (value.equalityForm name)) found)
      = .ok condition := by
  induction values generalizing found start with
  | nil =>
    cases h
    exact hfound
  | cons value rest ih =>
    rw [List.foldlM_cons] at h
    obtain ⟨next, hnext, h⟩ := bind_eq_ok.1 h
    obtain ⟨equality, hequality, heq⟩ := bind_eq_ok.1 hnext
    cases heq
    refine ih ?_ h
    rw [compile, hfound, compile_equalityForm hculture hresolve hequality]
    rfl

/-- A text test with a date-time answers alike on a member that holds no text when the date-time
    comes back from a compact array: it finds nothing. -/
theorem evaluate_compileText_dateTime {target : Target} (h : target.kind ≠ .string)
    (function : TextFunction) (moment : DateTime) :
    (compileText .standard target function (.string moment.isoText)).evaluate
      = (compileText .standard target function (.dateTime moment)).evaluate := by
  unfold compileText
  cases hkind : target.kind with
  | string => exact absurd hkind h
  | dateTime =>
    have hcolon : ∀ separator, ':' ∈ (String.ofList (moment.text separator)).toList := by
      intro separator
      rw [String.toList_ofList]
      exact moment.colon_mem_text separator
    exact evaluate_text_shortDate (by decide) target.path function (hcolon 'T') (hcolon ' ')
  | _ => rfl

/-! ### Joined filters -/

/-- Joins two conditions. -/
def joined : Connective → Condition → Condition → Condition
  | .and => .and
  | .or => .or

/-- Joined filters are bound if both are. -/
theorem compile_join {setting : Setting} {type : RecordType} (connective : Connective)
    {left right : Criteria} {condition : Condition} :
    compile setting type (connective.join left right) = .ok condition
      ↔ ∃ first second, compile setting type left = .ok first
          ∧ compile setting type right = .ok second ∧ condition = joined connective first second := by
  have hunfold : compile setting type (connective.join left right)
      = do return joined connective (← compile setting type left) (← compile setting type right) := by
    cases connective <;> rfl
  rw [hunfold, bind_eq_ok]
  constructor
  · rintro ⟨first, hfirst, h⟩
    obtain ⟨second, hsecond, h⟩ := bind_eq_ok.1 h
    cases h
    exact ⟨first, second, hfirst, hsecond, rfl⟩
  · rintro ⟨first, second, hfirst, hsecond, rfl⟩
    exact ⟨first, hfirst, bind_eq_ok.2 ⟨second, hsecond, rfl⟩⟩

/-- A negation is bound if the filter inside is. -/
theorem compile_not {setting : Setting} {type : RecordType} {inner : Criteria}
    {condition : Condition} :
    compile setting type (.not inner) = .ok condition
      ↔ ∃ bound, compile setting type inner = .ok bound ∧ condition = .not bound := by
  rw [compile, bind_eq_ok]
  constructor
  · rintro ⟨bound, hbound, h⟩
    cases h
    exact ⟨bound, hbound, rfl⟩
  · rintro ⟨bound, hbound, rfl⟩
    exact ⟨bound, hbound, rfl⟩

/-- Joined conditions answer by the answers of both. -/
theorem evaluate_joined (connective : Connective) {first first' second second' : Condition}
    (hfirst : first.evaluate = first'.evaluate) (hsecond : second.evaluate = second'.evaluate) :
    (joined connective first second).evaluate = (joined connective first' second').evaluate := by
  funext record
  cases connective <;> simp only [joined, evaluate, hfirst, hsecond]

end Condition

/-- A filter is bound in place of a condition: exactly if the first proposition holds, and to one that
    answers alike if the second one does. -/
structure Criteria.BoundFor (setting : Setting) (type : RecordType) (criteria : Criteria)
    (condition : Condition) (bound alike : Prop) : Prop where
  exists_iff : (∃ condition', Condition.compile setting type criteria = .ok condition') ↔ bound
  evaluate_eq : alike → ∀ condition', Condition.compile setting type criteria = .ok condition' →
    condition'.evaluate = condition.evaluate

/-- A filter is bound in place of a condition if it is bound to one that answers alike. -/
theorem Criteria.BoundFor.of_eq_ok {setting : Setting} {type : RecordType} {criteria : Criteria}
    {condition condition' : Condition} {bound alike : Prop}
    (h : Condition.compile setting type criteria = .ok condition') (hbound : bound)
    (heval : alike → condition'.evaluate = condition.evaluate) :
    criteria.BoundFor setting type condition bound alike := by
  refine ⟨⟨fun _ => hbound, fun _ => ⟨condition', h⟩⟩, fun halike other hother => ?_⟩
  rw [h] at hother
  cases hother
  exact heval halike

/-- Joined filters are bound in place of joined conditions. -/
theorem Criteria.BoundFor.join {setting : Setting} {type : RecordType} {left right : Criteria}
    {first second : Condition} {boundLeft alikeLeft boundRight alikeRight : Prop}
    (hl : left.BoundFor setting type first boundLeft alikeLeft)
    (hr : right.BoundFor setting type second boundRight alikeRight) (connective : Connective) :
    (connective.join left right).BoundFor setting type (Condition.joined connective first second)
      (boundLeft ∧ boundRight) (alikeLeft ∧ alikeRight) := by
  refine ⟨?_, fun ⟨hleft, hright⟩ condition hcondition => ?_⟩
  · rw [← hl.exists_iff, ← hr.exists_iff]
    constructor
    · rintro ⟨condition, hcondition⟩
      obtain ⟨first', second', hfirst, hsecond, _⟩ :=
        (Condition.compile_join connective).1 hcondition
      exact ⟨⟨first', hfirst⟩, ⟨second', hsecond⟩⟩
    · rintro ⟨⟨first', hfirst⟩, ⟨second', hsecond⟩⟩
      exact ⟨_, (Condition.compile_join connective).2 ⟨first', second', hfirst, hsecond, rfl⟩⟩
  · obtain ⟨first', second', hfirst, hsecond, rfl⟩ :=
      (Condition.compile_join connective).1 hcondition
    exact Condition.evaluate_joined connective (hl.evaluate_eq hleft first' hfirst)
      (hr.evaluate_eq hright second' hsecond)

/-- A negation is bound in place of a negation. -/
theorem Criteria.BoundFor.not {setting : Setting} {type : RecordType} {inner : Criteria}
    {condition : Condition} {bound alike : Prop}
    (h : inner.BoundFor setting type condition bound alike) :
    (Criteria.not inner).BoundFor setting type (.not condition) bound alike := by
  refine ⟨?_, fun halike other hother => ?_⟩
  · rw [← h.exists_iff]
    constructor
    · rintro ⟨other, hother⟩
      obtain ⟨condition', hcondition', _⟩ := Condition.compile_not.1 hother
      exact ⟨condition', hcondition'⟩
    · rintro ⟨condition', hcondition'⟩
      exact ⟨_, Condition.compile_not.2 ⟨condition', hcondition', rfl⟩⟩
  · obtain ⟨condition', hcondition', rfl⟩ := Condition.compile_not.1 hother
    funext record
    rw [Condition.evaluate, Condition.evaluate, h.evaluate_eq halike condition' hcondition']

namespace CompactArray

open Criteria Condition

section

variable {setting : Setting} {type : RecordType} {name : String} {target : Target}
  (hresolve : Target.resolve type name = .ok target)
include hresolve

/-! ### Tests -/

/-- A test for null or empty text comes back as a disjunction, of which only texts allow the second
    part. -/
theorem boundFor_isNullOrEmpty (hculture : setting.culture = .standard) {condition : Condition}
    (h : compileTest setting target .isNullOrEmpty = .ok condition) :
    (PropertyTest.isNullOrEmpty.arrayForm name).BoundFor setting type condition
      (target.kind = .string) True := by
  have hempty : ∀ bound, compile setting type (.property name (.compare .equal (.string "")))
      = .ok bound → target.kind = .string := by
    intro bound hbound
    rw [compile_property hresolve, compileTest, hculture] at hbound
    exact (compileRelation_empty.1 hbound).1
  by_cases hkind : target.kind = .string
  · have hnullable : target.member.isNullable = true := by
      rw [Member.isNullable, show target.member.kind = .string from hkind]
      exact Bool.or_true _
    have hnull : compile setting type (.property name .isNull)
        = .ok (target.compare .equal .null) := by
      rw [compile_property hresolve, compileTest, if_pos hnullable]
    have hequal : compile setting type (.property name (.compare .equal (.string "")))
        = .ok (target.compare .equal (.string "")) := by
      rw [compile_property hresolve, compileTest, hculture]
      exact compileRelation_empty.2 ⟨hkind, rfl⟩
    have hboth := (compile_join .or).2 ⟨_, _, hnull, hequal, rfl⟩
    refine .of_eq_ok hboth hkind fun _ => ?_
    cases h
    rw [compileNullOrEmpty, hkind]
    rfl
  · have hnone : ∀ bound,
        compile setting type (PropertyTest.isNullOrEmpty.arrayForm name) ≠ .ok bound := by
      intro bound hbound
      obtain ⟨_, second, _, hsecond, _⟩ := (compile_join .or).1 hbound
      exact hkind (hempty second hsecond)
    refine ⟨iff_of_false (fun hbound => ?_) hkind, fun _ bound hbound => absurd hbound (hnone bound)⟩
    obtain ⟨bound, hbound⟩ := hbound
    exact hnone bound hbound

/-- Every other test is bound when it comes back, and answers alike unless it searches a text for a
    date-time. -/
theorem exists_compile_testForm (hculture : setting.culture = .standard) {test : PropertyTest}
    {document : Json} (harray : testJson name test = .ok document) (hne : test ≠ .isNullOrEmpty)
    {condition : Condition} (h : compileTest setting target test = .ok condition) :
    ∃ condition', compile setting type (test.arrayForm name) = .ok condition'
      ∧ (target.HoldsNoTextIfDated test → condition'.evaluate = condition.evaluate) := by
  cases test with
  | compare operator value =>
    refine ⟨condition, ?_, fun _ => rfl⟩
    rw [compileTest, hculture] at h
    cases operator with
    | equal => exact compile_equalityForm hculture hresolve h
    | notEqual =>
      cases value with
      | null =>
        obtain ⟨hnullable, rfl⟩ := compileRelation_null h
        show compile setting type (.property name .isNotNull) = _
        rw [compile_property hresolve, compileTest, if_pos hnullable]
      | _ => exact compile_comparison hculture hresolve rfl h
    | like => cases harray
    | _ => exact compile_comparison hculture hresolve rfl h
  | text function argument =>
    have hform : compile setting type (.property name (.text function argument.arrayForm))
        = .ok (compileText .standard target function argument.arrayForm) := by
      rw [compile_property hresolve, compileTest, hculture]
    refine ⟨_, hform, fun hdated => ?_⟩
    rw [compileTest, hculture] at h
    cases h
    cases argument with
    | dateTime moment =>
      exact evaluate_compileText_dateTime (hdated function moment rfl) function moment
    | _ => rfl
  | isNullOrEmpty => exact absurd rfl hne
  | between low high =>
    obtain ⟨aboveLow, hlow, h⟩ := bind_eq_ok.1 h
    obtain ⟨belowHigh, hhigh, h⟩ := bind_eq_ok.1 h
    cases h
    rw [hculture] at hlow hhigh
    exact ⟨_, (compile_join .and).2 ⟨aboveLow, belowHigh,
      compile_comparison hculture hresolve rfl hlow,
      compile_comparison hculture hresolve rfl hhigh, rfl⟩, fun _ => rfl⟩
  | oneOf values =>
    cases values with
    | nil => cases harray
    | cons first rest =>
      obtain ⟨start, hstart, h⟩ := bind_eq_ok.1 h
      rw [hculture] at hstart h
      exact ⟨condition, compile_alternatives hculture hresolve
        (compile_equalityForm hculture hresolve hstart) h, fun _ => rfl⟩
  | isNull =>
    refine ⟨condition, ?_, fun _ => rfl⟩
    show compile setting type (.property name .isNull) = _
    rw [compile_property hresolve]
    exact h
  | isNotNull =>
    rcases (sameOutcome_isNotNull name).compile_cases setting type with
      ⟨fault, hfault, _⟩ | ⟨bound, bound', hbound, hbound', heval⟩
    · rw [compile_property hresolve, h] at hfault
      cases hfault
    · rw [compile_property hresolve, h] at hbound
      cases hbound
      exact ⟨bound', hbound', fun _ => heval.symm⟩
  | within => cases harray

/-- **How a test is bound when it comes back from a compact array.** -/
theorem boundFor_testForm (hculture : setting.culture = .standard) {test : PropertyTest}
    {document : Json} (harray : testJson name test = .ok document) {condition : Condition}
    (h : compileTest setting target test = .ok condition) :
    (test.arrayForm name).BoundFor setting type condition (target.HoldsTextIfEmptied test)
      (target.HoldsNoTextIfDated test) := by
  by_cases hempty : test = .isNullOrEmpty
  · subst hempty
    obtain ⟨hbound, heval⟩ := boundFor_isNullOrEmpty hresolve hculture h
    refine ⟨hbound.trans ⟨fun hkind _ => hkind, fun hkind => hkind rfl⟩, fun _ => ?_⟩
    exact heval True.intro
  · obtain ⟨condition', hform, heval⟩ :=
      exists_compile_testForm hresolve hculture harray hempty h
    exact .of_eq_ok hform (fun heq => absurd heq hempty) heval

end

/-! ### Filters -/

/-- **How a filter is bound when it comes back from a compact array.** -/
theorem boundFor_arrayForm {setting : Setting} (hculture : setting.culture = .standard)
    {type : RecordType} {criteria : Criteria} {document : Json}
    (harray : ofCriteria criteria = .ok document) {condition : Condition}
    (h : compile setting type criteria = .ok condition) :
    criteria.arrayForm.BoundFor setting type condition
      (criteria.TestsMeet type Target.HoldsTextIfEmptied)
      (criteria.TestsMeet type Target.HoldsNoTextIfDated) := by
  induction criteria generalizing document condition with
  | and left right ihl ihr =>
    obtain ⟨l, r, hl, hr, rfl⟩ := pairJson_eq_ok.1 harray
    obtain ⟨first, second, hfirst, hsecond, rfl⟩ := (compile_join .and).1 h
    have hjoin := (ihl hl hfirst).join (ihr hr hsecond) .and
    rw [← testsMeet_join .and, ← testsMeet_join .and] at hjoin
    exact hjoin
  | or left right ihl ihr =>
    obtain ⟨l, r, hl, hr, rfl⟩ := pairJson_eq_ok.1 harray
    obtain ⟨first, second, hfirst, hsecond, rfl⟩ := (compile_join .or).1 h
    have hjoin := (ihl hl hfirst).join (ihr hr hsecond) .or
    rw [← testsMeet_join .or, ← testsMeet_join .or] at hjoin
    exact hjoin
  | not inner ih =>
    obtain ⟨t, ht, _⟩ := bind_eq_ok.1 harray
    obtain ⟨bound, hbound, rfl⟩ := compile_not.1 h
    rw [testsMeet_not, testsMeet_not]
    exact (ih ht hbound).not
  | property name test =>
    obtain ⟨target, hresolve, htest⟩ := bind_eq_ok.1 h
    rw [testsMeet_property hresolve, testsMeet_property hresolve]
    exact boundFor_testForm hresolve hculture harray htest
  | any => cases harray
  | currentUser => cases harray

/-- **What comes back from the array of a filter means.** The array of a well-formed filter describes
    a filter again. If the filter can be bound to a type, the one that comes back can be bound exactly
    if every test for null or empty text is about a member that holds a text, and both then have the
    same answer or evaluation error on every record, unless a text is searched for a date-time. -/
theorem ofCriteria_meaning {setting : Setting} (hculture : setting.culture = .standard)
    {type : RecordType} {criteria : Criteria} (hwf : criteria.WellFormed) {document : Json}
    (harray : ofCriteria criteria = .ok document) {condition : Condition}
    (h : compile setting type criteria = .ok condition) :
    ∃ criteria', toCriteria document = .ok criteria'
      ∧ ((∃ condition', compile setting type criteria' = .ok condition')
          ↔ criteria.TestsMeet type Target.HoldsTextIfEmptied)
      ∧ (criteria.TestsMeet type Target.HoldsNoTextIfDated →
          ∀ condition', compile setting type criteria' = .ok condition' →
            ∀ record, condition'.evaluate record = condition.evaluate record) := by
  obtain ⟨hbound, heval⟩ := boundFor_arrayForm hculture harray h
  refine ⟨criteria.arrayForm, toCriteria_of_ofCriteria hwf harray, hbound, ?_⟩
  intro hdated condition' hcondition' record
  rw [heval hdated condition' hcondition']

/-! ### Where the meaning changes -/

/-- A type with a text, a date and a number that may be null. -/
def rowType : RecordType :=
  ⟨"Row", [⟨"Name", .string, false⟩, ⟨"Born", .dateTime, true⟩, ⟨"Count", .integer, true⟩]⟩

/-- The culture of filter texts, on some day. -/
def plainSetting : Setting :=
  ⟨.standard, ⟨2024, 2, 29, by decide⟩⟩

/-- The first moment of that day. -/
def dayStart : Value :=
  .dateTime (.midnight plainSetting.today)

/-- A filter that has a test for the empty text on a text only, and looks for a date-time in a date
    only. -/
def rowFilter : Criteria :=
  .or (.property "Name" .isNullOrEmpty)
    (.not (.and (.property "Born" (.compare .less dayStart))
      (.property "Born" (.text .contains dayStart))))

theorem ofCriteria_meaning_rowFilter :
    ∃ document condition criteria' condition', ofCriteria rowFilter = .ok document
      ∧ compile plainSetting rowType rowFilter = .ok condition
      ∧ toCriteria document = .ok criteria'
      ∧ compile plainSetting rowType criteria' = .ok condition'
      ∧ ∀ record, condition'.evaluate record = condition.evaluate record := by
  have hwf : rowFilter.WellFormed := by decide +kernel
  have harray : ofCriteria rowFilter = .ok _ := rfl
  have hcompile : compile plainSetting rowType rowFilter = .ok _ := rfl
  have hname : Target.resolve rowType "Name" = .ok ⟨⟨"Name", []⟩, ⟨"Name", .string, false⟩⟩ := rfl
  have hborn : Target.resolve rowType "Born" = .ok ⟨⟨"Born", []⟩, ⟨"Born", .dateTime, true⟩⟩ := rfl
  obtain ⟨criteria', hread, hbound, heval⟩ :=
    ofCriteria_meaning (show plainSetting.culture = .standard from rfl) hwf harray hcompile
  have hempty : rowFilter.TestsMeet rowType Target.HoldsTextIfEmptied := by
    refine (testsMeet_join .or _ _).2 ⟨(testsMeet_property hname).2 fun _ => rfl, ?_⟩
    exact (testsMeet_not _).2 ((testsMeet_join .and _ _).2
      ⟨(testsMeet_property hborn).2 nofun, (testsMeet_property hborn).2 nofun⟩)
  have hdated : rowFilter.TestsMeet rowType Target.HoldsNoTextIfDated := by
    refine (testsMeet_join .or _ _).2 ⟨(testsMeet_property hname).2 ?_, ?_⟩
    · rintro function moment htest
      cases htest
    refine (testsMeet_not _).2 ((testsMeet_join .and _ _).2
      ⟨(testsMeet_property hborn).2 ?_, (testsMeet_property hborn).2 ?_⟩)
    · rintro function moment htest
      cases htest
    · rintro function moment - hkind
      cases hkind
  obtain ⟨condition', hcondition'⟩ := hbound.2 hempty
  exact ⟨_, _, criteria', condition', harray, hcompile, hread, hcondition',
    heval hdated condition' hcondition'⟩

/-- A count that is null or empty is bound, but what comes back from its array compares the count with
    the empty text and is not. A date-time that is looked for in a text is written with a space, but what
    comes back looks for it with a `T`. -/
theorem ofCriteria_changes_meaning :
    ((Criteria.property "Count" .isNullOrEmpty).WellFormed
      ∧ ∃ document criteria' condition,
          ofCriteria (.property "Count" .isNullOrEmpty) = .ok document
            ∧ compile plainSetting rowType (.property "Count" .isNullOrEmpty) = .ok condition
            ∧ toCriteria document = .ok criteria'
            ∧ ∀ condition', compile plainSetting rowType criteria' ≠ .ok condition')
      ∧ (Criteria.property "Name" (.text .contains dayStart)).WellFormed
      ∧ ∃ document criteria' condition condition' record,
          ofCriteria (.property "Name" (.text .contains dayStart)) = .ok document
            ∧ compile plainSetting rowType (.property "Name" (.text .contains dayStart))
              = .ok condition
            ∧ toCriteria document = .ok criteria'
            ∧ compile plainSetting rowType criteria' = .ok condition'
            ∧ condition.evaluate record = .ok true ∧ condition'.evaluate record = .ok false := by
  have hcount : (Criteria.property "Count" .isNullOrEmpty).WellFormed := by decide +kernel
  have hname : (Criteria.property "Name" (.text .contains dayStart)).WellFormed := by
    decide +kernel
  refine ⟨⟨hcount, _, _, _, rfl, rfl, toCriteria_of_ofCriteria hcount rfl, ?_⟩, hname, _, _, _, _,
    fun _ => some (.text "2024-02-29 00:00:00"), rfl, rfl, toCriteria_of_ofCriteria hname rfl, rfl,
    ?_, ?_⟩
  · intro condition' h
    have hnone : (compile plainSetting rowType
        (Criteria.property "Count" .isNullOrEmpty).arrayForm).toOption = none := by
      decide +kernel
    rw [h] at hnone
    cases hnone
  · exact eq_ok_of_toOption (by decide +kernel)
  · exact eq_ok_of_toOption (by decide +kernel)

end CompactArray

end RecordFilter
