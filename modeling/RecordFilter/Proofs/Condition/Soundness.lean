import RecordFilter.Condition.Evaluate
import RecordFilter.Proofs.Condition.Typing
import RecordFilter.Proofs.RecordType.Conformance

namespace RecordFilter

/-!
# Well-typed conditions are safe

* `MemberKind.Holds.exists_compareField` — a value of a kind compares with the operands that suit the kind.
* `Condition.MeetsNull` — a condition runs into a null object or a null collection of a record.
* `Condition.Typed.evaluate` — on a conforming record, a typed condition has an answer unless it
  does.
* `Condition.evaluate_of_compile` — so a compiled filter fails on the nulls of a conforming record
  only.
-/

/-! ### Comparisons and text tests -/

namespace MemberKind.Holds

variable {kind : MemberKind} {field : FieldValue} {operand : Value}

/-- A value of a kind compares with the operands that suit the kind, unless one of them is null. -/
theorem exists_order (hf : kind.Holds field) (hs : kind.Suits operand)
    (hfield : field.isNull = false) (hoperand : operand.isNull = false) :
    ∃ order, field.order operand = some order := by
  cases hf with
  | null => cases hfield
  -- Nothing but null suits objects and collections.
  | object | collection =>
    cases hs
    cases hoperand
  | _ =>
    cases hs
    · cases hoperand
    · exact ⟨_, rfl⟩

/-- Comparing a value of a kind with an operand that suits the kind gives an answer. -/
theorem exists_compareField (hf : kind.Holds field) (hs : kind.Suits operand) (path : MemberPath)
    (relation : Relation) :
    ∃ answer, Condition.compareField path relation field operand = .ok answer := by
  unfold Condition.compareField
  split
  case h_1 => exact ⟨_, rfl⟩
  case h_2 hfield hoperand =>
    obtain ⟨order, horder⟩ := hf.exists_order hs hfield hoperand
    rw [horder]
    exact ⟨_, rfl⟩
  case h_3 => exact ⟨_, rfl⟩

end MemberKind.Holds

namespace Member

variable {member : Member} {field : FieldValue}

/-- Testing the text of a value that fits a member gives an answer if the member has a text. -/
theorem Fits.exists_testField {rendering : Rendering} (hf : member.Fits field)
    (hr : member.kind.Renders rendering) (path : MemberPath) (function : TextFunction)
    (needle : String) :
    ∃ answer, Condition.testField path function needle rendering field = .ok answer := by
  generalize hkind : member.kind = kind at hr
  cases hr with
  | plain =>
    cases hf with
    | null => exact ⟨_, rfl⟩
    | text => exact ⟨_, rfl⟩
    | _ h => simp [hkind] at h
  | shortDate culture =>
    cases hf with
    | null => exact ⟨_, rfl⟩
    | dateTime => exact ⟨_, rfl⟩
    | _ h => simp [hkind] at h

end Member

namespace Condition

/-! ### Tests of items -/

/-- A test of items has an answer, or fails where the test fails on one of them. -/
theorem ends_anyItem {test : Record → Except FilterError Bool} {cause : FilterError → Prop}
    {items : List Record} (h : ∀ item ∈ items, Ends (fun _ => True) cause (test item)) :
    Ends (fun _ => True) cause (anyItem test items) := by
  induction items with
  | nil => trivial
  | cons item rest ih =>
    refine (h item (List.mem_cons_self ..)).bind fun found _ _ => ?_
    cases found with
    | true => trivial
    | false => exact ih fun other hother => h other (List.mem_cons_of_mem item hother)

/-! ### Nulls -/

/-- Evaluating the condition on the record runs into a null object along a path, or into a null
    collection whose items are tested, which is the fault. -/
inductive MeetsNull : Condition → Record → FilterError → Prop
  | and_left {left right : Condition} {record : Record} {fault : FilterError}
      (h : MeetsNull left record fault) : MeetsNull (.and left right) record fault
  | and_right {left right : Condition} {record : Record} {fault : FilterError}
      (h : MeetsNull right record fault) : MeetsNull (.and left right) record fault
  | or_left {left right : Condition} {record : Record} {fault : FilterError}
      (h : MeetsNull left record fault) : MeetsNull (.or left right) record fault
  | or_right {left right : Condition} {record : Record} {fault : FilterError}
      (h : MeetsNull right record fault) : MeetsNull (.or left right) record fault
  | not {inner : Condition} {record : Record} {fault : FilterError}
      (h : MeetsNull inner record fault) : MeetsNull (.not inner) record fault
  | compare {path : MemberPath} {record : Record} {segment : String}
      (h : NullAlong record path.first path.rest segment) (relation : Relation) (operand : Value) :
      MeetsNull (.compare path relation operand) record
        (.evaluation (.nullReference segment path.text))
  | text {path : MemberPath} {record : Record} {segment : String}
      (h : NullAlong record path.first path.rest segment) (function : TextFunction)
      (needle : String) (rendering : Rendering) :
      MeetsNull (.text path function needle rendering) record
        (.evaluation (.nullReference segment path.text))
  | any {path : MemberPath} {record : Record} {segment : String}
      (h : NullAlong record path.first path.rest segment) (item : Condition) :
      MeetsNull (.any path item) record (.evaluation (.nullReference segment path.text))
  | any_null {path : MemberPath} {record : Record} (h : readMember record path = .ok .null)
      (item : Condition) :
      MeetsNull (.any path item) record (.evaluation (.nullCollection path.text))
  | any_item {path : MemberPath} {record inner : Record} {items : List Record} {item : Condition}
      {fault : FilterError} (h : readMember record path = .ok (.collection items))
      (hmem : inner ∈ items) (hi : MeetsNull item inner fault) :
      MeetsNull (.any path item) record fault

variable {type : RecordType} {condition : Condition} {record : Record}

/-- What a condition runs into is a null object or a null collection. -/
theorem MeetsNull.cases_fault {fault : FilterError} (h : condition.MeetsNull record fault) :
    (∃ segment path, fault = .evaluation (.nullReference segment path))
      ∨ ∃ path, fault = .evaluation (.nullCollection path) := by
  induction h with
  | and_left _ ih => exact ih
  | and_right _ ih => exact ih
  | or_left _ ih => exact ih
  | or_right _ ih => exact ih
  | not _ ih => exact ih
  | compare => exact Or.inl ⟨_, _, rfl⟩
  | text => exact Or.inl ⟨_, _, rfl⟩
  | any => exact Or.inl ⟨_, _, rfl⟩
  | any_null => exact Or.inr ⟨_, rfl⟩
  | any_item _ _ _ ih => exact ih

/-! ### Evaluation -/

/-- **A typed condition has an answer on a conforming record**, unless it runs into a null object or
    a null collection, and then the record is not populated. -/
theorem Typed.evaluate (h : condition.Typed type) (hc : type.Conforms record) :
    Ends (fun _ => True) (fun fault => condition.MeetsNull record fault ∧ ¬ type.Populated record)
      (condition.evaluate record) := by
  -- The record changes at a test of items, together with its type.
  induction h generalizing record with
  | constant value => trivial
  | and _ _ ihl ihr =>
    refine Ends.bind ((ihl hc).mono_error ?_) ?_
    · rintro fault ⟨hnull, hnot⟩
      exact ⟨.and_left hnull, hnot⟩
    · intro answer _ _
      cases answer with
      | false => trivial
      | true =>
        refine (ihr hc).mono_error ?_
        rintro fault ⟨hnull, hnot⟩
        exact ⟨.and_right hnull, hnot⟩
  | or _ _ ihl ihr =>
    refine Ends.bind ((ihl hc).mono_error ?_) ?_
    · rintro fault ⟨hnull, hnot⟩
      exact ⟨.or_left hnull, hnot⟩
    · intro answer _ _
      cases answer with
      | true => trivial
      | false =>
        refine (ihr hc).mono_error ?_
        rintro fault ⟨hnull, hnot⟩
        exact ⟨.or_right hnull, hnot⟩
  | not _ ih =>
    refine Ends.bind ((ih hc).mono_error ?_) ?_
    · rintro fault ⟨hnull, hnot⟩
      exact ⟨.not hnull, hnot⟩
    · intro answer _ _
      trivial
  | compare hm hs relation =>
    refine Ends.bind ((readMember_of_conforms hc hm).mono_error ?_) ?_
    · rintro fault ⟨segment, rfl, hnull, hnot⟩
      exact ⟨.compare hnull relation _, hnot⟩
    · rintro field - ⟨hfits, -⟩
      obtain ⟨answer, hanswer⟩ := hfits.holds.exists_compareField hs _ relation
      rw [hanswer]
      trivial
  | text hm hr function needle =>
    refine Ends.bind ((readMember_of_conforms hc hm).mono_error ?_) ?_
    · rintro fault ⟨segment, rfl, hnull, hnot⟩
      exact ⟨.text hnull function needle _, hnot⟩
    · rintro field - ⟨hfits, -⟩
      obtain ⟨answer, hanswer⟩ := hfits.exists_testField hr _ function needle
      rw [hanswer]
      trivial
  | any hm hk _ ih =>
    refine Ends.bind ((readMember_of_conforms hc hm).mono_error ?_) ?_
    · rintro fault ⟨segment, rfl, hnull, hnot⟩
      exact ⟨.any hnull _, hnot⟩
    · rintro field hread ⟨hfits, hfilled⟩
      rcases hfits.collection_cases hk with rfl | ⟨items, rfl, hitems⟩
      -- The collection is null, which it is not in a populated record.
      · refine ⟨.any_null hread _, fun hp => ?_⟩
        obtain ⟨_, hnull, _⟩ := (hfilled hp).populated_of_collection hk
        cases hnull
      -- An item that runs into a null is an item of the record.
      · refine ends_anyItem fun item hitem => ?_
        refine (ih (hitems item hitem)).mono_error ?_
        rintro fault ⟨hnull, hnot⟩
        refine ⟨.any_item hread hitem hnull, fun hp => hnot ?_⟩
        obtain ⟨_, heq, hpopulated⟩ := (hfilled hp).populated_of_collection hk
        cases heq
        exact hpopulated item hitem

/-- **Compiled filters are safe.** On a record that conforms to the type, a compiled filter meets no
    value of an unexpected kind and misses no member. It has an answer, or it runs into a null
    object or a null collection of the record; on a populated record it has an answer. -/
theorem evaluate_of_compile {setting : Setting} {criteria : Criteria}
    (hcompile : compile setting type criteria = .ok condition) (hc : type.Conforms record) :
    (∀ fault, condition.evaluate record ≠ .error (.typeMismatch fault))
      ∧ (∀ name, condition.evaluate record ≠ .error (.evaluation (.noMember name)))
      ∧ ((∃ answer, condition.evaluate record = .ok answer)
          ∨ ∃ fault, condition.evaluate record = .error fault ∧ condition.MeetsNull record fault)
      ∧ (type.Populated record → ∃ answer, condition.evaluate record = .ok answer) := by
  have hends := (typed_of_compile hcompile).evaluate hc
  rcases hends.ok_or_error with ⟨answer, hok, -⟩ | ⟨fault, herror, hnull, hnot⟩
  · rw [hok]
    exact ⟨nofun, nofun, Or.inl ⟨answer, rfl⟩, fun _ => ⟨answer, rfl⟩⟩
  · rw [herror]
    refine ⟨?_, ?_, Or.inr ⟨fault, rfl, hnull⟩, fun hp => absurd hp hnot⟩
    · rintro mismatch heq
      cases heq
      rcases hnull.cases_fault with ⟨_, _, h⟩ | ⟨_, h⟩ <;> cases h
    · rintro name heq
      cases heq
      rcases hnull.cases_fault with ⟨_, _, h⟩ | ⟨_, h⟩ <;> cases h

/-- The name of a customer that is null cannot be read, not even to compare it with null. -/
example :
    (Condition.compare ⟨"Customer", ["Name"]⟩ .notEqual .null).evaluate
        (fun name => if name = "Customer" then some .null else none) =
      .error (.evaluation (.nullReference "Customer" "Customer.Name")) := by
  rfl

/-- A type with an object and a collection. -/
def orderType : RecordType where
  name := "Order"
  members := [
    ⟨"Total", .decimal, false⟩,
    ⟨"Customer", .object ⟨"Customer", [⟨"Name", .string, false⟩]⟩, false⟩,
    ⟨"Lines", .collection ⟨"Line", [⟨"Quantity", .integer, true⟩]⟩, false⟩]

/-- A record of the type, whose object and collection are there. -/
def order : Record := fun name =>
  if name = "Total" then some (.int 7)
  else if name = "Customer" then
    some (.object fun name => if name = "Name" then some (.text "Ada") else none)
  else if name = "Lines" then
    some (.collection [fun name => if name = "Quantity" then some .null else none])
  else none

theorem order_conforms : orderType.Conforms order := by
  refine RecordType.conforms_of_members fun member hmem => ?_
  simp only [orderType, List.mem_cons, List.not_mem_nil, or_false] at hmem
  rcases hmem with rfl | rfl | rfl
  · exact ⟨_, rfl, .int (Or.inr (Or.inr rfl)) 7⟩
  · refine ⟨_, rfl, .object rfl (RecordType.conforms_of_members fun member hmem => ?_)⟩
    cases List.mem_singleton.1 hmem
    exact ⟨_, rfl, .text rfl "Ada"⟩
  · refine ⟨_, rfl, .collection rfl fun item hitem => ?_⟩
    cases List.mem_singleton.1 hitem
    refine RecordType.conforms_of_members fun member hmem => ?_
    cases List.mem_singleton.1 hmem
    exact ⟨_, rfl, .null rfl⟩

theorem order_populated : orderType.Populated order := by
  refine RecordType.populated_of_members fun member hmem => ?_
  simp only [orderType, List.mem_cons, List.not_mem_nil, or_false] at hmem
  rcases hmem with rfl | rfl | rfl
  · exact ⟨_, rfl, .scalar (by simp) (by simp) _⟩
  · refine ⟨_, rfl, .object rfl (RecordType.populated_of_members fun member hmem => ?_)⟩
    cases List.mem_singleton.1 hmem
    exact ⟨_, rfl, .scalar (by simp) (by simp) _⟩
  · refine ⟨_, rfl, .collection rfl fun item hitem => ?_⟩
    cases List.mem_singleton.1 hitem
    refine RecordType.populated_of_members fun member hmem => ?_
    cases List.mem_singleton.1 hmem
    exact ⟨_, rfl, .scalar (by simp) (by simp) _⟩

/-- A filter on the total, the customer's name and the quantities of the lines. -/
def orderCriteria : Criteria :=
  .and (.property "Total" (.compare .greater (.int 5)))
    (.or (.property "Customer.Name" (.compare .like (.string "B%")))
      (.any "Lines" (.property "Quantity" .isNull)))

/-- What the filter is compiled to. -/
def orderCondition : Condition :=
  .and (.compare ⟨"Total", []⟩ .greater (.float (Double.ofInt 5)))
    (.or (.text ⟨"Customer", ["Name"]⟩ .startsWith "B" .plain)
      (.any ⟨"Lines", []⟩ (.compare ⟨"Quantity", []⟩ .equal .null)))

/-- What a filter on orders is read with. -/
def orderSetting : Setting where
  culture := .standard
  today := ⟨2024, 6, 12, by decide⟩

theorem evaluate_of_compile_order :
    compile orderSetting orderType orderCriteria = .ok orderCondition
      ∧ orderType.Conforms order ∧ orderType.Populated order
      ∧ ∃ answer, orderCondition.evaluate order = .ok answer := by
  have hcompile : compile orderSetting orderType orderCriteria = .ok orderCondition := by rfl
  refine ⟨hcompile, order_conforms, order_populated, ?_⟩
  exact (evaluate_of_compile hcompile order_conforms).2.2.2 order_populated

end Condition

end RecordFilter
