import RecordFilter.Proofs.RecordType.Path

namespace RecordFilter

/-!
# Types that grow

A type grows when it gets further members, and when the types of its objects and of the items of its
collections grow.

* `RecordType.GrowsTo` — a type has every member of another one, perhaps with types that have grown.
* `RecordType.growsTo_of_members` — it is enough to look at the members one by one.
* `RecordType.GrowsTo.resolvePath` — a path leads to the same member as before, or to one with a type
  that has grown.
-/

mutual

/-- The second type has every member of the first one, and perhaps others of other names. -/
inductive RecordType.GrowsTo : RecordType → RecordType → Prop
  | intro {type grown : RecordType}
      (kept : ∀ name member, type.find? name = some member → (grown.find? name).isSome)
      (grows : ∀ name old new, type.find? name = some old → grown.find? name = some new →
        Member.GrowsTo old new) : RecordType.GrowsTo type grown

/-- The second member holds the same as the first one, null included. The type of an object, or of the
    items of a collection, may have grown. -/
inductive Member.GrowsTo : Member → Member → Prop
  | same {old new : Member} (hk : new.kind = old.kind) (hn : new.isNullable = old.isNullable) :
      Member.GrowsTo old new
  | object {old new : Member} {type grown : RecordType} (hold : old.kind = .object type)
      (hnew : new.kind = .object grown) (h : RecordType.GrowsTo type grown) :
      Member.GrowsTo old new
  | collection {old new : Member} {itemType grown : RecordType}
      (hold : old.kind = .collection itemType) (hnew : new.kind = .collection grown)
      (h : RecordType.GrowsTo itemType grown) : Member.GrowsTo old new

end

/-! ### Members -/

namespace Member.GrowsTo

variable {old new : Member}

/-- Nullability stays: objects and collections may be null in any case. -/
theorem isNullable_eq (h : old.GrowsTo new) : new.isNullable = old.isNullable := by
  cases h with
  | same hk hn => exact hn
  | object hold hnew => simp [isNullable, hold, hnew, MemberKind.isReference]
  | collection hold hnew => simp [isNullable, hold, hnew, MemberKind.isReference]

/-- The kind stays but for the type inside. -/
theorem kind_cases (h : old.GrowsTo new) :
    new.kind = old.kind
      ∨ (∃ type grown, old.kind = .object type ∧ new.kind = .object grown)
      ∨ ∃ itemType grown, old.kind = .collection itemType ∧ new.kind = .collection grown := by
  cases h with
  | same hk => exact Or.inl hk
  | object hold hnew => exact Or.inr (Or.inl ⟨_, _, hold, hnew⟩)
  | collection hold hnew => exact Or.inr (Or.inr ⟨_, _, hold, hnew⟩)

end Member.GrowsTo

namespace RecordType

/-- Every type grows to itself. -/
theorem GrowsTo.refl (type : RecordType) : type.GrowsTo type := by
  refine .intro (fun name member hfind => by rw [hfind]; rfl) fun name old new hold hnew => ?_
  rw [hold] at hnew
  cases hnew
  exact .same rfl rfl

variable {type grown : RecordType}

/-- A type grows to another one in which every member is found again, the same or grown. -/
theorem growsTo_of_members
    (h : ∀ old ∈ type.members, ∃ new, grown.find? old.name = some new ∧ old.GrowsTo new) :
    type.GrowsTo grown := by
  constructor
  · intro name member hfind
    obtain ⟨hmem, rfl⟩ := mem_of_find? hfind
    obtain ⟨new, hnew, _⟩ := h member hmem
    rw [hnew]
    rfl
  · intro name old new hold hnew
    obtain ⟨hmem, rfl⟩ := mem_of_find? hold
    obtain ⟨found, hfound, hgrows⟩ := h old hmem
    rw [hfound] at hnew
    cases hnew
    exact hgrows

/-- A member is found again. -/
theorem GrowsTo.exists_find? (h : type.GrowsTo grown) {name : String} {old : Member}
    (hold : type.find? name = some old) :
    ∃ new, grown.find? name = some new ∧ old.GrowsTo new := by
  obtain ⟨kept, grows⟩ := h
  obtain ⟨new, hnew⟩ := Option.isSome_iff_exists.1 (kept name old hold)
  exact ⟨new, hnew, grows name old new hold hnew⟩

/-- An object that has grown is an object whose type has grown. -/
theorem exists_grown_of_object {old new : Member} (h : old.GrowsTo new)
    (hold : old.kind = .object type) :
    ∃ grown, new.kind = .object grown ∧ type.GrowsTo grown := by
  cases h with
  | same hk => exact ⟨type, hk.trans hold, .refl type⟩
  | object hold' hnew h =>
    rw [hold] at hold'
    cases hold'
    exact ⟨_, hnew, h⟩
  | collection hold' =>
    rw [hold] at hold'
    cases hold'

/-- A collection that has grown is a collection whose items have a type that has grown. -/
theorem exists_grown_of_collection {old new : Member} (h : old.GrowsTo new)
    (hold : old.kind = .collection type) :
    ∃ grown, new.kind = .collection grown ∧ type.GrowsTo grown := by
  cases h with
  | same hk => exact ⟨type, hk.trans hold, .refl type⟩
  | object hold' =>
    rw [hold] at hold'
    cases hold'
  | collection hold' hnew h =>
    rw [hold] at hold'
    cases hold'
    exact ⟨_, hnew, h⟩

/-! ### Paths -/

/-- Names that lead to a member lead to it in a type that has grown. -/
theorem GrowsTo.resolveFrom (h : type.GrowsTo grown) {name : String} {rest : List String}
    {old : Member} (hold : type.resolveFrom name rest = .ok old) :
    ∃ new, grown.resolveFrom name rest = .ok new ∧ old.GrowsTo new := by
  induction rest generalizing type grown name with
  | nil =>
    obtain ⟨new, hnew, hgrows⟩ := h.exists_find? (member_eq_ok.1 hold)
    exact ⟨new, member_eq_ok.2 hnew, hgrows⟩
  | cons next rest ih =>
    obtain ⟨found, hfound, hold⟩ := bind_eq_ok.1 hold
    obtain ⟨new, hnew, hgrows⟩ := h.exists_find? (member_eq_ok.1 hfound)
    split at hold
    case h_1 nested hkind =>
      -- The path goes on in the type of the object, which may have grown.
      obtain ⟨nested', hkind', hnested⟩ := exists_grown_of_object hgrows hkind
      obtain ⟨last, hlast, hgrows⟩ := ih hnested hold
      refine ⟨last, ?_, hgrows⟩
      rw [RecordType.resolveFrom, member_eq_ok.2 hnew, ok_bind, hkind']
      exact hlast
    case h_2 => cases hold

/-- **A path that leads to a member leads to it in a type that has grown.** -/
theorem GrowsTo.resolvePath (h : type.GrowsTo grown) {path : MemberPath} {old : Member}
    (hold : type.resolvePath path = .ok old) :
    ∃ new, grown.resolvePath path = .ok new ∧ old.GrowsTo new :=
  h.resolveFrom hold

end RecordType

end RecordFilter
