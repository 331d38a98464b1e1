import RecordFilter.Proofs.Condition.Soundness
import RecordFilter.Proofs.Criteria.Validity
import RecordFilter.Proofs.RecordType.Growth

namespace RecordFilter

open Text

/-!
# Filters outlive the growth of a type

* `Condition.compileTest_eq_of_growsTo` — a test is bound alike to a member and to the member that it
  has grown to.
* `Condition.Binds.growsTo` — so a filter becomes the same condition on a type that has grown.
* `Criteria.isValidOn_of_growsTo` — and it passes the quick check on the grown type as well.
-/

/-! ### Tests of one member -/

section Member

variable {old new : Member}

namespace Member.GrowsTo

/-- The kind keeps its name. -/
theorem kindName_eq (h : old.GrowsTo new) : new.kind.name = old.kind.name := by
  rcases h.kind_cases with hk | ⟨_, _, hold, hnew⟩ | ⟨_, _, hold, hnew⟩
  · rw [hk]
  · rw [hold, hnew]
    rfl
  · rw [hold, hnew]
    rfl

/-- The values keep their order. -/
theorem isOrdered_eq (h : old.GrowsTo new) : new.kind.isOrdered = old.kind.isOrdered := by
  rcases h.kind_cases with hk | ⟨_, _, hold, hnew⟩ | ⟨_, _, hold, hnew⟩
  · rw [hk]
  · rw [hold, hnew]
    rfl
  · rw [hold, hnew]
    rfl

/-- The member is compared with the same values. -/
theorem coerce?_eq (h : old.GrowsTo new) (culture : Culture) (value : Value) :
    value.coerce? culture new = value.coerce? culture old := by
  unfold Value.coerce?
  rw [h.isNullable_eq]
  rcases h.kind_cases with hk | ⟨_, _, hold, hnew⟩ | ⟨_, _, hold, hnew⟩
  · rw [hk]
  -- Objects and collections are compared with null only, whatever they hold.
  · rw [hold, hnew]
    cases value <;> rfl
  · rw [hold, hnew]
    cases value <;> rfl

end Member.GrowsTo

namespace Condition

variable {culture : Culture} {path : MemberPath}

/-- A relation is bound alike. -/
theorem compileRelation_eq_of_growsTo (h : old.GrowsTo new) (relation : Relation) (value : Value) :
    compileRelation culture ⟨path, new⟩ relation value
      = compileRelation culture ⟨path, old⟩ relation value := by
  have hcoerce : value.coerce culture ⟨path, new⟩ = value.coerce culture ⟨path, old⟩ := by
    unfold Value.coerce
    simp only [Target.kind, h.coerce?_eq, h.kindName_eq]
  unfold compileRelation
  rw [hcoerce]
  simp only [Target.kind, Target.compare, h.isOrdered_eq, h.kindName_eq]
  rfl

/-- A pattern is bound alike. -/
theorem compileLike_eq_of_growsTo (h : old.GrowsTo new) (value : Value) :
    compileLike culture ⟨path, new⟩ value = compileLike culture ⟨path, old⟩ value := by
  unfold compileLike
  simp only [Target.kind, compileRelation_eq_of_growsTo h]
  rcases h.kind_cases with hk | ⟨_, _, hold, hnew⟩ | ⟨_, _, hold, hnew⟩
  · rw [hk]
  · rw [hold, hnew]
  · rw [hold, hnew]

/-- A text test is bound alike. -/
theorem compileText_eq_of_growsTo (h : old.GrowsTo new) (function : TextFunction)
    (argument : Value) :
    compileText culture ⟨path, new⟩ function argument
      = compileText culture ⟨path, old⟩ function argument := by
  unfold compileText
  simp only [Target.kind]
  rcases h.kind_cases with hk | ⟨_, _, hold, hnew⟩ | ⟨_, _, hold, hnew⟩
  · rw [hk]
  · rw [hold, hnew]
    cases argument.plainText? <;> rfl
  · rw [hold, hnew]
    cases argument.plainText? <;> rfl

/-- A test for null or the empty text is bound alike. -/
theorem compileNullOrEmpty_eq_of_growsTo (h : old.GrowsTo new) :
    compileNullOrEmpty ⟨path, new⟩ = compileNullOrEmpty ⟨path, old⟩ := by
  unfold compileNullOrEmpty
  simp only [Target.kind, Target.compare, h.isNullable_eq]
  rcases h.kind_cases with hk | ⟨_, _, hold, hnew⟩ | ⟨_, _, hold, hnew⟩
  · rw [hk]
  · rw [hold, hnew]
    rfl
  · rw [hold, hnew]
    rfl

/-- A list of values is bound alike. -/
theorem compileOneOf_eq_of_growsTo (h : old.GrowsTo new) (values : List Value) :
    compileOneOf culture ⟨path, new⟩ values = compileOneOf culture ⟨path, old⟩ values := by
  cases values with
  | nil => rfl
  | cons first rest => simp only [compileOneOf, compileRelation_eq_of_growsTo h]

/-- A date interval is bound alike. -/
theorem compileInterval_eq_of_growsTo (h : old.GrowsTo new) (today : Date)
    (interval : DateInterval) :
    compileInterval today ⟨path, new⟩ interval = compileInterval today ⟨path, old⟩ interval := by
  unfold compileInterval
  simp only [Target.kind]
  rcases h.kind_cases with hk | ⟨_, _, hold, hnew⟩ | ⟨_, _, hold, hnew⟩
  · rw [hk]
    rfl
  · rw [hold, hnew]
    rfl
  · rw [hold, hnew]
    rfl

/-- **A test is bound alike to a member and to what the member has grown to**, and fails alike. -/
theorem compileTest_eq_of_growsTo (h : old.GrowsTo new) (setting : Setting) (test : PropertyTest) :
    compileTest setting ⟨path, new⟩ test = compileTest setting ⟨path, old⟩ test := by
  cases test with
  | compare operator value =>
    simp only [compileTest, compileRelation_eq_of_growsTo h, compileLike_eq_of_growsTo h]
  | text function argument => simp only [compileTest, compileText_eq_of_growsTo h]
  | isNullOrEmpty => simp only [compileTest, compileNullOrEmpty_eq_of_growsTo h]
  | between low high => simp only [compileTest, compileRelation_eq_of_growsTo h]
  | oneOf values => simp only [compileTest, compileOneOf_eq_of_growsTo h]
  | isNull => simp only [compileTest, h.isNullable_eq, Target.compare]
  | isNotNull => simp only [compileTest, h.isNullable_eq, Target.compare]
  | within interval => simp only [compileTest, compileInterval_eq_of_growsTo h]

end Condition

end Member

/-! ### Filters -/

variable {type grown : RecordType} {criteria : Criteria}

/-- A name that has a target has it in a type that has grown: the path is the same, and the member is
    the same or has grown. -/
theorem Target.exists_resolve_of_growsTo (h : type.GrowsTo grown) {name : String} {target : Target}
    (hold : Target.resolve type name = .ok target) :
    ∃ new, Target.resolve grown name = .ok ⟨target.path, new⟩ ∧ target.member.GrowsTo new := by
  obtain ⟨hpath, hmember⟩ := Target.resolve_eq_ok.1 hold
  obtain ⟨new, hnew, hgrows⟩ := h.resolvePath hmember
  exact ⟨new, Target.resolve_eq_ok.2 ⟨hpath, hnew⟩, hgrows⟩

/-- **A filter becomes the same condition on a type that has grown.** -/
theorem Condition.Binds.growsTo {setting : Setting} {condition : Condition}
    (h : Binds setting type criteria condition) (hg : type.GrowsTo grown) :
    Binds setting grown criteria condition := by
  induction h generalizing grown with
  | and _ _ ihl ihr => exact .and (ihl hg) (ihr hg)
  | or _ _ ihl ihr => exact .or (ihl hg) (ihr hg)
  | not _ ih => exact .not (ih hg)
  | property ht h =>
    obtain ⟨new, hnew, hgrows⟩ := Target.exists_resolve_of_growsTo hg ht
    exact .property hnew ((compileTest_eq_of_growsTo hgrows _ _).trans h)
  | any ht hk _ ih =>
    -- The items are records of a type that may have grown, too.
    obtain ⟨new, hnew, hgrows⟩ := Target.exists_resolve_of_growsTo hg ht
    obtain ⟨itemType, hkind, hitem⟩ := RecordType.exists_grown_of_collection hgrows hk
    have hany := Binds.any hnew hkind (ih hitem)
    exact hany

namespace Criteria

/-- A name begins with a member of a type that has grown if it begins with one of the type. -/
theorem hasFirstMember_of_growsTo (hg : type.GrowsTo grown) {name : String}
    (h : hasFirstMember type name = true) : hasFirstMember grown name = true := by
  unfold hasFirstMember at h ⊢
  cases hsplit : splitOn '.' name.toList with
  | nil =>
    rw [hsplit] at h
    exact h
  | cons first rest =>
    rw [hsplit] at h
    obtain ⟨old, hold⟩ := Option.isSome_iff_exists.1 h
    obtain ⟨new, hnew, _⟩ := hg.exists_find? hold
    dsimp only
    rw [hnew]
    rfl

/-- **A filter that passes the quick check on a type passes it on a type that has grown.** -/
theorem isValidOn_of_growsTo (hg : type.GrowsTo grown) (h : criteria.isValidOn type = true) :
    criteria.isValidOn grown = true := by
  induction criteria generalizing type grown with
  | and left right ihl ihr =>
    rw [isValidOn, Bool.and_eq_true] at h ⊢
    exact ⟨ihl hg h.1, ihr hg h.2⟩
  | or left right ihl ihr =>
    rw [isValidOn, Bool.and_eq_true] at h ⊢
    exact ⟨ihl hg h.1, ihr hg h.2⟩
  | not inner ih => exact ih hg h
  | property name test => exact hasFirstMember_of_growsTo hg h
  | any name item ih =>
    rw [isValidOn, Bool.and_eq_true] at h ⊢
    refine ⟨hasFirstMember_of_growsTo hg h.1, ?_⟩
    replace h := h.2
    split at h
    case h_1 path member hresolve =>
      obtain ⟨hpath, hmember⟩ := RecordType.resolve_eq_ok.1 hresolve
      obtain ⟨new, hnew, hgrows⟩ := hg.resolvePath hmember
      rw [RecordType.resolve_eq_ok.2 ⟨hpath, hnew⟩]
      dsimp only
      split at h
      case h_1 itemType hkind =>
        obtain ⟨grownItem, hkind', hitem⟩ := RecordType.exists_grown_of_collection hgrows hkind
        rw [hkind']
        exact ih hitem h
      case h_2 => cases h
    case h_2 => cases h
  | currentUser => rfl

end Criteria

namespace RecordType

/-- **A type may grow under its filters.** Let a type get further members of other names, and let the
    types of its objects and of the items of its collections do so, too, at any depth. Every filter that
    is compiled against the type is compiled to the same condition against the grown one, and every
    filter that is valid on the type is valid on the grown one. -/
theorem GrowsTo.keeps_filters (h : type.GrowsTo grown) (criteria : Criteria) :
    (∀ setting condition, Condition.compile setting type criteria = .ok condition →
        Condition.compile setting grown criteria = .ok condition)
      ∧ (criteria.isValidOn type = true → criteria.isValidOn grown = true) := by
  refine ⟨fun setting condition hcompile => ?_, Criteria.isValidOn_of_growsTo h⟩
  exact Condition.compile_eq_ok.2 ((Condition.compile_eq_ok.1 hcompile).growsTo h)

/-- `Condition.orderType` with a note, and further members in the customer and in the lines. -/
def grownOrderType : RecordType where
  name := "Order"
  members := [
    ⟨"Note", .string, false⟩,
    ⟨"Lines", .collection ⟨"Line",
      [⟨"Product", .object ⟨"Product", [⟨"Name", .string, false⟩]⟩, false⟩,
       ⟨"Quantity", .integer, true⟩]⟩, false⟩,
    ⟨"Customer", .object ⟨"Customer",
      [⟨"Name", .string, false⟩, ⟨"Since", .dateTime, true⟩]⟩, false⟩,
    ⟨"Total", .decimal, false⟩]

theorem GrowsTo.keeps_filters_order :
    Condition.orderType.GrowsTo grownOrderType
      ∧ Condition.compile Condition.orderSetting grownOrderType Condition.orderCriteria
        = .ok Condition.orderCondition
      ∧ Condition.orderCriteria.isValidOn grownOrderType = true := by
  have hgrows : Condition.orderType.GrowsTo grownOrderType := by
    refine growsTo_of_members fun member hmem => ?_
    simp only [Condition.orderType, List.mem_cons, List.not_mem_nil, or_false] at hmem
    rcases hmem with rfl | rfl | rfl
    · exact ⟨_, rfl, .same rfl rfl⟩
    · refine ⟨_, rfl, .object rfl rfl (growsTo_of_members fun member hmem => ?_)⟩
      cases List.mem_singleton.1 hmem
      exact ⟨_, rfl, .same rfl rfl⟩
    · refine ⟨_, rfl, .collection rfl rfl (growsTo_of_members fun member hmem => ?_)⟩
      cases List.mem_singleton.1 hmem
      exact ⟨_, rfl, .same rfl rfl⟩
  have hkeeps := GrowsTo.keeps_filters hgrows Condition.orderCriteria
  exact ⟨hgrows, hkeeps.1 _ _ rfl, hkeeps.2 (by decide +kernel)⟩

end RecordType

end RecordFilter
