import RecordFilter.Proofs.Grammar.RoundTrip

namespace RecordFilter

/-!
# A filter and its canonical text determine each other

* `Criteria.Constructible` — the filters that can be built with the checked constructors.
* `Criteria.constructible_iff` — they are the well-formed ones.
* `Criteria.text_roundTrip` — the canonical text of such a filter is read back as the same filter,
  so filters written alike are the same filter.
-/

namespace Criteria

/-- The filters that can be built: leaves by the constructors that check the property name, and
    combinations of what was built before. -/
inductive Constructible : Criteria → Prop
  | and {left right : Criteria} (hl : Constructible left) (hr : Constructible right) :
      Constructible (.and left right)
  | or {left right : Criteria} (hl : Constructible left) (hr : Constructible right) :
      Constructible (.or left right)
  | not {inner : Criteria} (h : Constructible inner) : Constructible (.not inner)
  | ofTest {name : String} {test : PropertyTest} {criteria : Criteria}
      (h : ofTest name test = .ok criteria) : Constructible criteria
  | ofItems {name : String} {item criteria : Criteria} (hi : Constructible item)
      (h : ofItems name item = .ok criteria) : Constructible criteria
  | currentUser : Constructible .currentUser

/-- Unfolding lemma: a leaf is built if its name is a property name. -/
theorem checked_eq_ok {name : String} {leaf criteria : Criteria} :
    (do checkPropertyName name; return leaf : Except FilterError Criteria) = .ok criteria
      ↔ IsPropertyName name ∧ criteria = leaf := by
  rw [bind_eq_ok]
  constructor
  · rintro ⟨_, hname, heq⟩
    cases heq
    exact ⟨checkPropertyName_eq_ok.1 hname, rfl⟩
  · rintro ⟨hname, rfl⟩
    exact ⟨(), checkPropertyName_eq_ok.2 hname, rfl⟩

/-- **The filters that can be built are the well-formed ones.** -/
theorem constructible_iff (criteria : Criteria) : criteria.Constructible ↔ criteria.WellFormed := by
  constructor
  · intro h
    induction h with
    | and _ _ ihl ihr => exact ⟨ihl, ihr⟩
    | or _ _ ihl ihr => exact ⟨ihl, ihr⟩
    | not _ ih => exact ih
    | ofTest h =>
      obtain ⟨hname, rfl⟩ := checked_eq_ok.1 h
      exact hname
    | ofItems _ h ih =>
      obtain ⟨hname, rfl⟩ := checked_eq_ok.1 h
      exact ⟨hname, ih⟩
    | currentUser => trivial
  · intro h
    induction criteria with
    | and left right ihl ihr => exact .and (ihl h.1) (ihr h.2)
    | or left right ihl ihr => exact .or (ihl h.1) (ihr h.2)
    | not inner ih => exact .not (ih h)
    | property name test => exact .ofTest (checked_eq_ok.2 ⟨h, rfl⟩)
    | any name item ih => exact .ofItems (ih h.2) (checked_eq_ok.2 ⟨h.1, rfl⟩)
    | currentUser => exact .currentUser

/-- Filters written alike are the same filter. -/
theorem eq_of_text_eq {left right : Criteria} (hl : left.WellFormed) (hr : right.WellFormed)
    (h : left.text = right.text) : left = right := by
  have hleft := parse_text_of_wellFormed hl
  rw [h, parse_text_of_wellFormed hr] at hleft
  cases hleft
  rfl

/-- **The canonical text of a filter is read back as the same filter**, whatever its nesting, names
    and values. Hence two filters have the same text, or count as equal, only when they are the
    same. -/
theorem text_roundTrip {criteria : Criteria} (h : criteria.Constructible) :
    parse .standard criteria.text = .ok (some criteria)
      ∧ ∀ other : Criteria, other.Constructible →
          (criteria.text = other.text ↔ criteria = other)
            ∧ (criteria.sameText other = true ↔ criteria = other) := by
  have hwf := (constructible_iff criteria).1 h
  refine ⟨parse_text_of_wellFormed hwf, fun other hother => ?_⟩
  have hiff : criteria.text = other.text ↔ criteria = other := by
    constructor
    · exact eq_of_text_eq hwf ((constructible_iff other).1 hother)
    · rintro rfl
      rfl
  refine ⟨hiff, ?_⟩
  rw [sameText, beq_iff_eq]
  exact hiff

/-- A filter whose values hold everything that structures a filter text. -/
def intricate : Criteria :=
  .or
    (.any "Orders.Lines"
      (.and
        (.property "Größe" (.oneOf
          [.string "it's ] #1, (a) [b", .string "\n'", .null, .int Int64.minValue, .float .nan,
           .float (.zero true), .float (.infinity true)]))
        (.any "_x" (.property "At" (.between
          (.dateTime ⟨⟨2016, 12, 31, by decide⟩, 23, 59, 59, 1500000000, by decide⟩)
          (.string "' and '"))))))
    (.not (.not (.and .currentUser (.property "Name" (.text .contains (.string "''"))))))

theorem text_roundTrip_intricate :
    intricate.Constructible ∧ parse .standard intricate.text = .ok (some intricate) := by
  have h : intricate.Constructible :=
    (constructible_iff intricate).2 (by decide +kernel)
  exact ⟨h, (text_roundTrip h).1⟩

end Criteria

end RecordFilter
