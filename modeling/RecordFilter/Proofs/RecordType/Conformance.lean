import RecordFilter.Record
import RecordFilter.Proofs.RecordType.Path

namespace RecordFilter

/-!
# Records of a type

* `RecordType.Conforms` — a record has every member of a type, with values of the member's kind.
* `RecordType.Populated` — no object and no collection in a record is null, at any depth.
* `MemberKind.Holds` — a value is of a kind, whatever is inside of it, or null.
* `NullAlong` — the names of a path run into a null object.
* `readMember_of_conforms` — a path that leads to a member of the type leads to a value of the
  member's kind in the record, unless it runs into a null object.
-/

mutual

/-- The record has every member of the type, and every value fits its member. -/
inductive RecordType.Conforms : RecordType → Record → Prop
  | intro {type : RecordType} {record : Record}
      (total : ∀ name member, type.find? name = some member → (record name).isSome)
      (fits : ∀ name member value, type.find? name = some member → record name = some value →
        Member.Fits member value) : RecordType.Conforms type record

/-- The value is of the member's kind. Null fits the members that may be null, and members that hold
    doubles may hold integers. -/
inductive Member.Fits : Member → FieldValue → Prop
  | null {member : Member} (h : member.isNullable) : Member.Fits member .null
  | text {member : Member} (h : member.kind = .string) (value : String) :
      Member.Fits member (.text value)
  | int {member : Member}
      (h : member.kind = .integer ∨ member.kind = .float ∨ member.kind = .decimal) (value : Int64) : Member.Fits member (.int value)
  | float {member : Member} (h : member.kind = .float ∨ member.kind = .decimal) (value : Double) :
      Member.Fits member (.float value)
  | bool {member : Member} (h : member.kind = .boolean) (value : Bool) :
      Member.Fits member (.bool value)
  | dateTime {member : Member} (h : member.kind = .dateTime) (value : DateTime) :
      Member.Fits member (.dateTime value)
  | enumeration {member : Member} (h : member.kind = .enumeration) (value : Int64) :
      Member.Fits member (.enumeration value)
  | object {member : Member} {nested : RecordType} {record : Record}
      (h : member.kind = .object nested) (hc : RecordType.Conforms nested record) :
      Member.Fits member (.object record)
  | collection {member : Member} {itemType : RecordType} {items : List Record}
      (h : member.kind = .collection itemType)
      (hc : ∀ item ∈ items, RecordType.Conforms itemType item) :
      Member.Fits member (.collection items)

end

mutual

/-- No object and no collection in the record is null, at any depth. -/
inductive RecordType.Populated : RecordType → Record → Prop
  | intro {type : RecordType} {record : Record}
      (filled : ∀ name member value, type.find? name = some member → record name = some value →
        Member.Filled member value) : RecordType.Populated type record

/-- The member holds a scalar, or an object or a collection that is not null and in which none is.
    -/
inductive Member.Filled : Member → FieldValue → Prop
  | scalar {member : Member} (ho : ∀ nested, member.kind ≠ .object nested)
      (hc : ∀ itemType, member.kind ≠ .collection itemType) (value : FieldValue) :
      Member.Filled member value
  | object {member : Member} {nested : RecordType} {record : Record}
      (h : member.kind = .object nested) (hp : RecordType.Populated nested record) :
      Member.Filled member (.object record)
  | collection {member : Member} {itemType : RecordType} {items : List Record}
      (h : member.kind = .collection itemType)
      (hp : ∀ item ∈ items, RecordType.Populated itemType item) :
      Member.Filled member (.collection items)

end

/-- The value is of the kind, or null. Kinds of doubles hold integers as well. What is inside of an object or of
    a collection does not matter. -/
inductive MemberKind.Holds : MemberKind → FieldValue → Prop
  | null (kind : MemberKind) : MemberKind.Holds kind .null
  | text (value : String) : MemberKind.Holds .string (.text value)
  | int (value : Int64) : MemberKind.Holds .integer (.int value)
  | intFloat (value : Int64) : MemberKind.Holds .float (.int value)
  | intDecimal (value : Int64) : MemberKind.Holds .decimal (.int value)
  | float (value : Double) : MemberKind.Holds .float (.float value)
  | decimal (value : Double) : MemberKind.Holds .decimal (.float value)
  | bool (value : Bool) : MemberKind.Holds .boolean (.bool value)
  | dateTime (value : DateTime) : MemberKind.Holds .dateTime (.dateTime value)
  | enumeration (value : Int64) : MemberKind.Holds .enumeration (.enumeration value)
  | object (nested : RecordType) (record : Record) :
      MemberKind.Holds (.object nested) (.object record)
  | collection (itemType : RecordType) (items : List Record) :
      MemberKind.Holds (.collection itemType) (.collection items)

/-- The names of a path run into a null object: the segment is null, and the path goes on after it.
    -/
inductive NullAlong : Record → String → List String → String → Prop
  | here {record : Record} {name next : String} {rest : List String}
      (h : record name = some .null) : NullAlong record name (next :: rest) name
  | inside {record nested : Record} {name next segment : String} {rest : List String}
      (h : record name = some (.object nested)) (hn : NullAlong nested next rest segment) :
      NullAlong record name (next :: rest) segment

/-! ### Objects and collections -/

namespace Member

variable {member : Member} {value : FieldValue}

/-- A value that fits a member is of its kind, or null. -/
theorem Fits.holds (h : member.Fits value) : member.kind.Holds value := by
  cases h with
  | null => exact .null _
  | int h =>
    rcases h with h | h | h <;> rw [h]
    · exact .int _
    · exact .intFloat _
    · exact .intDecimal _
  | float h =>
    rcases h with h | h <;> rw [h]
    · exact .float _
    · exact .decimal _
  | _ h =>
    rw [h]
    constructor

/-- A member that holds records of a type is null or such a record. -/
theorem Fits.object_cases {nested : RecordType} (h : member.Fits value)
    (hkind : member.kind = .object nested) :
    value = .null ∨ ∃ record, value = .object record ∧ nested.Conforms record := by
  cases h with
  | null => exact Or.inl rfl
  | object h hc =>
    rw [hkind] at h
    cases h
    exact Or.inr ⟨_, rfl, hc⟩
  | _ h => simp [hkind] at h

/-- A member that holds lists of records of a type is null or such a list. -/
theorem Fits.collection_cases {itemType : RecordType} (h : member.Fits value)
    (hkind : member.kind = .collection itemType) :
    value = .null
      ∨ ∃ items, value = .collection items ∧ ∀ item ∈ items, itemType.Conforms item := by
  cases h with
  | null => exact Or.inl rfl
  | collection h hc =>
    rw [hkind] at h
    cases h
    exact Or.inr ⟨_, rfl, hc⟩
  | _ h => simp [hkind] at h

/-- A filled member that holds a record holds a populated one. -/
theorem Filled.populated_of_object {nested : RecordType} (h : member.Filled value)
    (hkind : member.kind = .object nested) :
    ∃ record, value = .object record ∧ nested.Populated record := by
  cases h with
  | scalar ho => exact absurd hkind (ho nested)
  | object h hp =>
    rw [hkind] at h
    cases h
    exact ⟨_, rfl, hp⟩
  | collection h => simp [hkind] at h

/-- A filled member that holds a list of records holds populated ones. -/
theorem Filled.populated_of_collection {itemType : RecordType} (h : member.Filled value)
    (hkind : member.kind = .collection itemType) :
    ∃ items, value = .collection items ∧ ∀ item ∈ items, itemType.Populated item := by
  cases h with
  | scalar _ hc => exact absurd hkind (hc itemType)
  | object h => simp [hkind] at h
  | collection h hp =>
    rw [hkind] at h
    cases h
    exact ⟨_, rfl, hp⟩

end Member

/-! ### Lookup -/

namespace RecordType

variable {type : RecordType} {name : String} {member : Member} {record : Record}

/-- A record conforms to a type if it has a value that fits for every member. -/
theorem conforms_of_members
    (h : ∀ member ∈ type.members, ∃ value, record member.name = some value ∧ member.Fits value) :
    type.Conforms record := by
  constructor
  · intro name member hfind
    obtain ⟨hmem, rfl⟩ := mem_of_find? hfind
    obtain ⟨value, hvalue, _⟩ := h member hmem
    rw [hvalue]
    rfl
  · intro name member value hfind hvalue
    obtain ⟨hmem, rfl⟩ := mem_of_find? hfind
    obtain ⟨found, hfound, hfits⟩ := h member hmem
    rw [hfound] at hvalue
    cases hvalue
    exact hfits

/-- A record is populated if every member is filled. -/
theorem populated_of_members
    (h : ∀ member ∈ type.members, ∃ value, record member.name = some value ∧ member.Filled value) :
    type.Populated record := by
  constructor
  intro name member value hfind hvalue
  obtain ⟨hmem, rfl⟩ := mem_of_find? hfind
  obtain ⟨found, hfound, hfilled⟩ := h member hmem
  rw [hfound] at hvalue
  cases hvalue
  exact hfilled

end RecordType

/-! ### Paths -/

/-- A conforming record has a value that fits. -/
theorem RecordType.Conforms.exists_value {type : RecordType} {record : Record} {name : String}
    {member : Member} (hc : type.Conforms record) (h : type.member name = .ok member) :
    ∃ value, record name = some value ∧ member.Fits value
      ∧ (type.Populated record → member.Filled value) := by
  have hfind := RecordType.member_eq_ok.1 h
  obtain ⟨total, fits⟩ := hc
  obtain ⟨value, hvalue⟩ := Option.isSome_iff_exists.1 (total name member hfind)
  refine ⟨value, hvalue, fits name member value hfind hvalue, fun hp => ?_⟩
  obtain ⟨filled⟩ := hp
  exact filled name member value hfind hvalue

/-- A path that leads to a member of the type leads to a value that fits the member, or it runs into
    a null object. -/
theorem readFrom_of_conforms {type : RecordType} {record : Record} {name : String}
    {rest : List String} {member : Member} (path : MemberPath) (hc : type.Conforms record)
    (h : type.resolveFrom name rest = .ok member) :
    Ends (fun value => member.Fits value ∧ (type.Populated record → member.Filled value))
      (fun fault => ∃ segment, fault = .evaluation (.nullReference segment path.text)
        ∧ NullAlong record name rest segment ∧ ¬ type.Populated record)
      (readFrom path record name rest) := by
  -- The names that are left make a path in the nested type and in the nested record.
  induction rest generalizing type record name with
  | nil =>
    obtain ⟨value, hvalue, hfits, hfilled⟩ := hc.exists_value h
    rw [readFrom, hvalue]
    exact ⟨hfits, hfilled⟩
  | cons next rest ih =>
    obtain ⟨found, hfound, h⟩ := bind_eq_ok.1 h
    obtain ⟨value, hvalue, hfits, hfilled⟩ := hc.exists_value hfound
    split at h
    case h_1 nested hkind =>
      rcases hfits.object_cases hkind with rfl | ⟨inner, rfl, hinner⟩
      · rw [readFrom, hvalue]
        refine ⟨name, rfl, .here hvalue, fun hp => ?_⟩
        obtain ⟨_, hnull, _⟩ := (hfilled hp).populated_of_object hkind
        cases hnull
      -- The path goes on in the object, whose nulls are nulls of the record.
      · have hpopulated : type.Populated record → nested.Populated inner := by
          intro hp
          obtain ⟨_, heq, hinner⟩ := (hfilled hp).populated_of_object hkind
          cases heq
          exact hinner
        rw [readFrom, hvalue]
        refine (ih hinner h).mono ?_ ?_
        · rintro value ⟨hfits, hfilled⟩
          exact ⟨hfits, fun hp => hfilled (hpopulated hp)⟩
        · rintro fault ⟨segment, rfl, hnull, hnot⟩
          exact ⟨segment, rfl, .inside hvalue hnull, fun hp => hnot (hpopulated hp)⟩
    case h_2 => cases h

/-- **Reading a member of the type from a conforming record** gives a value that fits the member, or
    fails at a null object. -/
theorem readMember_of_conforms {type : RecordType} {record : Record} {path : MemberPath}
    {member : Member} (hc : type.Conforms record) (h : type.resolvePath path = .ok member) :
    Ends (fun value => member.Fits value ∧ (type.Populated record → member.Filled value))
      (fun fault => ∃ segment, fault = .evaluation (.nullReference segment path.text)
        ∧ NullAlong record path.first path.rest segment ∧ ¬ type.Populated record)
      (readMember record path) :=
  readFrom_of_conforms path hc h

end RecordFilter
