import RecordFilter.Proofs.RecordType.Path

namespace RecordFilter

/-!
# What a filter is compiled to

* `Value.coerce_eq_ok`, `Condition.compileRelation_eq_ok` — what a relation to a value is compiled to.
* `Condition.Binds` — part by part, the condition that a filter becomes on a record type.
* `Condition.compile_eq_ok` — compiling succeeds with exactly this condition.

What holds of every compiled filter is proved along `Condition.Binds`, one case per part of a filter.
-/

/-! ### Relations -/

section

variable {culture : Culture} {target : Target} {value : Value}

/-- A value is brought to the representation of a member's kind if it has one. -/
theorem Value.coerce_eq_ok {operand : Value} :
    value.coerce culture target = .ok operand
      ↔ value.coerce? culture target.member = some operand := by
  unfold coerce
  cases value.coerce? culture target.member with
  | none => simp
  | some found => simp

/-- A value is null in every representation if it is null, and in none otherwise. -/
theorem Value.isNull_of_coerce? {member : Member} {operand : Value}
    (h : value.coerce? culture member = some operand) : operand.isNull = value.isNull := by
  unfold coerce? at h
  split at h
  case h_1 =>
    split at h
    · cases h
      rfl
    · cases h
  case h_7 =>
    obtain ⟨moment, _, rfl⟩ := Option.map_eq_some_iff.1 h
    rfl
  case h_12 => cases h
  all_goals
    cases h
    rfl

/-- A relation to a value is compiled if the value has a representation, and if the member has an order where
    the relation needs one. -/
theorem Condition.compileRelation_eq_ok {relation : Relation} {condition : Condition} :
    compileRelation culture target relation value = .ok condition
      ↔ ∃ operand, value.coerce? culture target.member = some operand
        ∧ (relation.isOrdering && !target.kind.isOrdered) = false
        ∧ condition = target.compare relation operand := by
  unfold compileRelation
  rw [bind_eq_ok]
  simp only [Value.coerce_eq_ok]
  refine exists_congr fun operand => and_congr_right fun _ => ?_
  cases relation.isOrdering && !target.kind.isOrdered with
  | true => exact ⟨nofun, fun h => nomatch h.1⟩
  | false => exact ⟨fun h => ⟨rfl, (Except.ok.inj h).symm⟩, fun h => h.2 ▸ rfl⟩

end

/-! ### Filters -/

namespace Condition

/-- Unfolding lemma: a test is bound to the member that its name leads to. -/
theorem compile_property {setting : Setting} {type : RecordType} {name : String} {target : Target}
    (h : Target.resolve type name = .ok target) (test : PropertyTest) :
    compile setting type (.property name test) = compileTest setting target test := by
  rw [compile, h]
  rfl

/-- Part by part, the condition that a filter becomes on a record type: a leaf is bound to the member
    that its name leads to, and the filter inside of a test of items to the type of the items. -/
inductive Binds (setting : Setting) : RecordType → Criteria → Condition → Prop
  | and {type : RecordType} {left right : Criteria} {first second : Condition}
      (hl : Binds setting type left first) (hr : Binds setting type right second) :
      Binds setting type (.and left right) (.and first second)
  | or {type : RecordType} {left right : Criteria} {first second : Condition}
      (hl : Binds setting type left first) (hr : Binds setting type right second) :
      Binds setting type (.or left right) (.or first second)
  | not {type : RecordType} {inner : Criteria} {condition : Condition}
      (h : Binds setting type inner condition) : Binds setting type (.not inner) (.not condition)
  | property {type : RecordType} {name : String} {test : PropertyTest} {target : Target}
      {condition : Condition} (ht : Target.resolve type name = .ok target)
      (h : compileTest setting target test = .ok condition) :
      Binds setting type (.property name test) condition
  | any {type itemType : RecordType} {name : String} {item : Criteria} {target : Target}
      {condition : Condition} (ht : Target.resolve type name = .ok target)
      (hk : target.kind = .collection itemType) (h : Binds setting itemType item condition) :
      Binds setting type (.any name item) (.any target.path condition)

variable {setting : Setting} {type : RecordType} {criteria : Criteria} {condition : Condition}

/-- What a filter is compiled to is what it becomes part by part. -/
theorem binds_of_compile (h : compile setting type criteria = .ok condition) :
    Binds setting type criteria condition := by
  -- The type changes at a test of items.
  induction criteria generalizing type condition with
  | and left right ihl ihr =>
    unfold compile at h
    obtain ⟨first, hl, h⟩ := bind_eq_ok.1 h
    obtain ⟨second, hr, h⟩ := bind_eq_ok.1 h
    cases h
    exact .and (ihl hl) (ihr hr)
  | or left right ihl ihr =>
    unfold compile at h
    obtain ⟨first, hl, h⟩ := bind_eq_ok.1 h
    obtain ⟨second, hr, h⟩ := bind_eq_ok.1 h
    cases h
    exact .or (ihl hl) (ihr hr)
  | not inner ih =>
    unfold compile at h
    obtain ⟨compiled, hi, h⟩ := bind_eq_ok.1 h
    cases h
    exact .not (ih hi)
  | property name test =>
    unfold compile at h
    obtain ⟨target, htarget, h⟩ := bind_eq_ok.1 h
    exact .property htarget h
  | any name item ih =>
    unfold compile at h
    obtain ⟨target, htarget, h⟩ := bind_eq_ok.1 h
    split at h
    case h_1 itemType hkind =>
      obtain ⟨compiled, hi, h⟩ := bind_eq_ok.1 h
      cases h
      exact .any htarget hkind (ih hi)
    case h_2 => cases h
  | currentUser => cases h

/-- **Compiling succeeds with exactly the condition that the filter becomes part by part.** -/
theorem compile_eq_ok :
    compile setting type criteria = .ok condition ↔ Binds setting type criteria condition := by
  refine ⟨binds_of_compile, fun h => ?_⟩
  induction h with
  | and _ _ ihl ihr =>
    rw [compile, ihl, ihr]
    rfl
  | or _ _ ihl ihr =>
    rw [compile, ihl, ihr]
    rfl
  | not _ ih =>
    rw [compile, ih]
    rfl
  | property ht h => rw [compile_property ht, h]
  | any ht hk _ ih =>
    rw [compile, ht, ok_bind, hk]
    dsimp only
    rw [ih]
    rfl

end Condition

end RecordFilter
