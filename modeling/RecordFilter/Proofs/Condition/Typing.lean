import RecordFilter.Proofs.Condition.Binding

namespace RecordFilter

/-!
# Compiled filters are well-typed

* `Condition.Typed` — every comparison, text test and test of items in a condition suits the member
  that its path leads to.
* `Condition.Tests` — a condition that tests one member, and everything in it suits the member.
* `Condition.Examines` — a condition that does so and leaves nothing to constants.
* `Condition.examines_of_compileTest`, `tests_of_compileTest` — compiling a test of a property gives such
  conditions only, or a constant.
* `Condition.typed_of_compile` — so compiling a filter gives typed conditions only.
-/

/-! ### Typed conditions -/

/-- Members of the kind are compared with the operand. Everything is compared with null. -/
inductive MemberKind.Suits : MemberKind → Value → Prop
  | null (kind : MemberKind) : MemberKind.Suits kind .null
  | string (text : String) : MemberKind.Suits .string (.string text)
  | integer (number : Int64) : MemberKind.Suits .integer (.int number)
  | enumeration (number : Int64) : MemberKind.Suits .enumeration (.int number)
  | float (number : Double) : MemberKind.Suits .float (.float number)
  | decimal (number : Double) : MemberKind.Suits .decimal (.float number)
  | boolean (truth : Bool) : MemberKind.Suits .boolean (.bool truth)
  | dateTime (moment : DateTime) : MemberKind.Suits .dateTime (.dateTime moment)

/-- Members of the kind have a text in the rendering. -/
inductive MemberKind.Renders : MemberKind → Rendering → Prop
  | plain : MemberKind.Renders .string .plain
  | shortDate (culture : Culture) : MemberKind.Renders .dateTime (.shortDate culture)

namespace Condition

/-- Every part of the condition suits the member that its path leads to. -/
inductive Typed : RecordType → Condition → Prop
  | constant {type : RecordType} (value : Bool) : Typed type (.constant value)
  | and {type : RecordType} {left right : Condition} (hl : Typed type left)
      (hr : Typed type right) : Typed type (.and left right)
  | or {type : RecordType} {left right : Condition} (hl : Typed type left)
      (hr : Typed type right) : Typed type (.or left right)
  | not {type : RecordType} {inner : Condition} (h : Typed type inner) : Typed type (.not inner)
  | compare {type : RecordType} {path : MemberPath} {member : Member} {operand : Value}
      (hm : type.resolvePath path = .ok member) (hs : member.kind.Suits operand)
      (relation : Relation) : Typed type (.compare path relation operand)
  | text {type : RecordType} {path : MemberPath} {member : Member} {rendering : Rendering}
      (hm : type.resolvePath path = .ok member) (hr : member.kind.Renders rendering)
      (function : TextFunction) (needle : String) :
      Typed type (.text path function needle rendering)
  | any {type itemType : RecordType} {path : MemberPath} {member : Member} {item : Condition}
      (hm : type.resolvePath path = .ok member) (hk : member.kind = .collection itemType)
      (hi : Typed itemType item) : Typed type (.any path item)

end Condition

/-! ### Compiling -/

/-- Every interval has a bound. -/
theorem DateInterval.bounds_bounded (interval : DateInterval) (today : Date) :
    Makes (fun span => span ≠ ⟨none, none⟩) (interval.bounds today) := by
  refine makes_bind fun anchors => ?_
  cases interval with
  | today | yesterday | laterThisWeek | nextWeek | laterThisMonth => exact makes_bind fun _ => nofun
  | tomorrow => exact makes_bind fun _ => makes_bind fun _ => nofun
  | _ => exact nofun

/-- A coerced value suits the kind of the member. -/
theorem Value.suits_of_coerce? {culture : Culture} {target : Target} {value operand : Value}
    (h : value.coerce? culture target.member = some operand) : target.kind.Suits operand := by
  unfold coerce? at h
  unfold Target.kind
  split at h
  case h_1 =>
    split at h
    · cases h
      exact .null _
    · cases h
  case h_7 hkind =>
    -- A text is coerced only if the culture reads it as a moment.
    obtain ⟨moment, _, rfl⟩ := Option.map_eq_some_iff.1 h
    rw [hkind]
    exact .dateTime moment
  case h_12 => cases h
  all_goals
    rename_i hkind
    cases h
    rw [hkind]
    constructor

namespace Condition

variable {setting : Setting} {culture : Culture} {type : RecordType} {target : Target}
  {condition : Condition}

/-- The condition combines comparisons and text tests of one member, all of which suit its kind. -/
inductive Tests (target : Target) : Condition → Prop
  | constant (value : Bool) : Tests target (.constant value)
  | and {left right : Condition} (hl : Tests target left) (hr : Tests target right) :
      Tests target (.and left right)
  | or {left right : Condition} (hl : Tests target left) (hr : Tests target right) :
      Tests target (.or left right)
  | compare {operand : Value} (hs : target.kind.Suits operand) (relation : Relation) :
      Tests target (.compare target.path relation operand)
  | text {rendering : Rendering} (hr : target.kind.Renders rendering) (function : TextFunction)
      (needle : String) : Tests target (.text target.path function needle rendering)

/-- The condition is made of comparisons and text tests of one member only, all of which suit its kind. So it
    reads the member before anything else. -/
inductive Examines (target : Target) : Condition → Prop
  | compare {operand : Value} (hs : target.kind.Suits operand) (relation : Relation) :
      Examines target (.compare target.path relation operand)
  | text {rendering : Rendering} (hr : target.kind.Renders rendering) (function : TextFunction)
      (needle : String) : Examines target (.text target.path function needle rendering)
  | and {left right : Condition} (hl : Examines target left) (hr : Examines target right) :
      Examines target (.and left right)
  | or {left right : Condition} (hl : Examines target left) (hr : Examines target right) :
      Examines target (.or left right)

/-- What examines a member tests it. -/
theorem Examines.tests (h : Examines target condition) : Tests target condition := by
  induction h with
  | compare hs relation => exact .compare hs relation
  | text hr function needle => exact .text hr function needle
  | and _ _ ihl ihr => exact .and ihl ihr
  | or _ _ ihl ihr => exact .or ihl ihr

/-- A compiled relation examines its member. -/
theorem examines_of_compileRelation {relation : Relation} {value : Value}
    (h : compileRelation culture target relation value = .ok condition) :
    Examines target condition := by
  obtain ⟨operand, hoperand, -, rfl⟩ := compileRelation_eq_ok.1 h
  exact .compare (Value.suits_of_coerce? hoperand) relation

/-- A compiled pattern examines its member, unless it matches nothing. -/
theorem examines_of_compileLike {value : Value}
    (h : compileLike culture target value = .ok condition) :
    Examines target condition ∨ condition = .constant false := by
  unfold compileLike at h
  split at h
  case h_1 pattern hkind =>
    split at h
    · cases h
      exact Or.inr rfl
    -- A pattern without a wildcard at its ends asks for equality.
    · refine Or.inl ?_
      split at h
      · cases h
        refine .text ?_ _ _
        rw [hkind]
        exact .plain
      · exact examines_of_compileRelation h
  case h_2 =>
    cases h
    exact Or.inr rfl

/-- A compiled text test examines its member, unless the member has no text. -/
theorem examines_compileText (function : TextFunction) (argument : Value) :
    Examines target (compileText culture target function argument)
      ∨ compileText culture target function argument = .constant false := by
  unfold compileText
  split
  case h_1 hkind =>
    refine Or.inl (.text ?_ _ _)
    rw [hkind]
    exact .plain
  case h_2 hkind =>
    refine Or.inl (.text ?_ _ _)
    rw [hkind]
    exact .shortDate culture
  case h_3 => exact Or.inr rfl

/-- Every member may be compared with null. -/
theorem examines_compare_null (relation : Relation) :
    Examines target (target.compare relation .null) :=
  .compare (.null _) relation

/-- A compiled test for null or the empty text examines its member, unless the member is never either. -/
theorem examines_compileNullOrEmpty :
    Examines target (compileNullOrEmpty target) ∨ compileNullOrEmpty target = .constant false := by
  unfold compileNullOrEmpty
  dsimp only
  split
  case h_1 hkind =>
    refine Or.inl (.or (examines_compare_null .equal) (.compare ?_ .equal))
    rw [hkind]
    exact .string ""
  case h_2 =>
    split
    · exact Or.inl (examines_compare_null .equal)
    · exact Or.inr rfl

/-- A compiled list of values examines its member, unless it is empty. -/
theorem examines_of_compileOneOf {values : List Value}
    (h : compileOneOf culture target values = .ok condition) :
    Examines target condition ∨ condition = .constant false := by
  cases values with
  | nil =>
    cases h
    exact Or.inr rfl
  | cons first rest =>
    unfold compileOneOf at h
    obtain ⟨start, hstart, h⟩ := bind_eq_ok.1 h
    -- Every further value adds an equality to what examines the member so far.
    refine Or.inl (foldlM_keeps (fun before value after hstep hbefore => ?_)
      (examines_of_compileRelation hstart) h)
    obtain ⟨equality, hequality, hstep⟩ := bind_eq_ok.1 hstep
    cases hstep
    exact .or hbefore (examines_of_compileRelation hequality)

/-- A span of time with a bound examines a member that holds moments. -/
theorem examines_ofSpan (hkind : target.kind = .dateTime) {span : DateSpan}
    (hbounded : span ≠ ⟨none, none⟩) : Examines target (ofSpan target span) := by
  have hmoment : ∀ relation moment, Examines target (target.compare relation (.dateTime moment)) := by
    intro relation moment
    refine .compare ?_ relation
    rw [hkind]
    exact .dateTime moment
  obtain ⟨lower, upper⟩ := span
  -- A bound is left out where the span is open.
  cases lower with
  | none =>
    cases upper with
    | none => exact absurd rfl hbounded
    | some upper => exact hmoment _ upper
  | some lower =>
    cases upper with
    | none => exact hmoment _ lower
    | some upper => exact .and (hmoment _ lower) (hmoment _ upper)

/-- A compiled date interval examines its member. -/
theorem examines_of_compileInterval {today : Date} {interval : DateInterval}
    (h : compileInterval today target interval = .ok condition) : Examines target condition := by
  unfold compileInterval at h
  split at h
  case h_1 hkind =>
    obtain ⟨span, hspan, h⟩ := bind_eq_ok.1 h
    cases h
    exact examines_ofSpan hkind ((interval.bounds_bounded today).of_eq_ok hspan)
  case h_2 => cases h

/-- **A compiled test examines the member that it is bound to, or it is settled without a record**: for no where
    no member passes, and for yes where a member that is never null is tested for not null. -/
theorem examines_of_compileTest {test : PropertyTest}
    (h : compileTest setting target test = .ok condition) :
    (Examines target condition ∨ condition = .constant false)
      ∨ (test = .isNotNull ∧ target.member.isNullable = false) ∧ condition = .constant true := by
  cases test with
  | compare operator value =>
    rw [compileTest] at h
    split at h
    · exact Or.inl (Or.inl (examines_of_compileRelation h))
    · exact Or.inl (examines_of_compileLike h)
  | text function argument =>
    cases h
    exact Or.inl (examines_compileText function argument)
  | isNullOrEmpty =>
    cases h
    exact Or.inl examines_compileNullOrEmpty
  | between low high =>
    unfold compileTest at h
    obtain ⟨above, habove, h⟩ := bind_eq_ok.1 h
    obtain ⟨below, hbelow, h⟩ := bind_eq_ok.1 h
    cases h
    exact Or.inl (Or.inl
      (.and (examines_of_compileRelation habove) (examines_of_compileRelation hbelow)))
  | oneOf values => exact Or.inl (examines_of_compileOneOf h)
  | isNull =>
    cases h
    split
    · exact Or.inl (Or.inl (examines_compare_null .equal))
    · exact Or.inl (Or.inr rfl)
  | isNotNull =>
    cases h
    split
    case isTrue => exact Or.inl (Or.inl (examines_compare_null .notEqual))
    case isFalse hnullable => exact Or.inr ⟨⟨rfl, Bool.eq_false_iff.2 hnullable⟩, rfl⟩
  | within interval => exact Or.inl (Or.inl (examines_of_compileInterval h))

/-- **A compiled test tests the member that it is bound to**, and nothing else. -/
theorem tests_of_compileTest {test : PropertyTest}
    (h : compileTest setting target test = .ok condition) : Tests target condition := by
  rcases examines_of_compileTest h with (hexamines | rfl) | ⟨-, rfl⟩
  · exact hexamines.tests
  · exact .constant false
  · exact .constant true

/-- Tests of a member are typed where their path leads to the member. -/
theorem Tests.typed (h : Tests target condition)
    (ht : type.resolvePath target.path = .ok target.member) : Typed type condition := by
  induction h with
  | constant value => exact .constant value
  | and _ _ ihl ihr => exact .and ihl ihr
  | or _ _ ihl ihr => exact .or ihl ihr
  | compare hs relation => exact .compare ht hs relation
  | text hr function needle => exact .text ht hr function needle

/-- **A compiled filter is typed.** -/
theorem typed_of_compile {criteria : Criteria} (h : compile setting type criteria = .ok condition) :
    Typed type condition := by
  replace h := compile_eq_ok.1 h
  induction h with
  | and _ _ ihl ihr => exact .and ihl ihr
  | or _ _ ihl ihr => exact .or ihl ihr
  | not _ ih => exact .not ih
  | property ht h => exact (tests_of_compileTest h).typed (Target.resolve_eq_ok.1 ht).2
  | any ht hk _ ih => exact .any (Target.resolve_eq_ok.1 ht).2 hk ih

end Condition

end RecordFilter
