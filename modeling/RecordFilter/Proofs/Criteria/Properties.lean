import RecordFilter.Criteria.Properties
import RecordFilter.Proofs.Criteria.Text

namespace RecordFilter

/-!
# The names in a filter

The list of a filter's properties drops what is written alike, and then the names that repeat. Neither
loses a name.

* `mem_distinctOn_id`, `find?_distinctOn` — a list without repetitions has the same members, and the same first
  member that passes a test.
* `distinctOn_filterMap` — repetitions may be dropped before a list is mapped.
* `Criteria.nodeNames` — the names at the parts of a filter, with repetitions.
* `Criteria.propertyNames_eq` — the names of a well-formed filter are these, without the repetitions.
-/

section Distinct

variable {α β : Type} [DecidableEq β] {key : α → β} {list : List α} {a : α}

/-- What is left without repetitions was there before. -/
theorem mem_of_mem_distinctOn (h : a ∈ distinctOn key list) : a ∈ list := by
  induction list with
  | nil => exact h
  | cons b rest ih =>
    rcases List.mem_cons.1 h with rfl | h
    · exact List.mem_cons_self
    · exact List.mem_cons_of_mem b (ih (List.mem_filter.1 h).1)

/-- Without repetitions a list has the same members. -/
theorem mem_distinctOn_id {list : List β} {b : β} : b ∈ distinctOn id list ↔ b ∈ list := by
  refine ⟨mem_of_mem_distinctOn, fun h => ?_⟩
  induction list with
  | nil => cases h
  | cons first rest ih =>
    by_cases heq : b = first
    · exact heq ▸ List.mem_cons_self
    -- A member that differs from the first one is among the rest, and is not left out there.
    · have hrest : b ∈ rest := (List.mem_cons.1 h).resolve_left heq
      exact List.mem_cons_of_mem _ (List.mem_filter.2 ⟨ih hrest, decide_eq_true heq⟩)

/-- What may be told from the keys is left out without repetitions or before they are dropped. -/
theorem filter_distinctOn {p : α → Bool} (h : ∀ a b, key a = key b → p a = p b) :
    (distinctOn key list).filter p = distinctOn key (list.filter p) := by
  induction list with
  | nil => rfl
  | cons first rest ih =>
    rw [distinctOn, List.filter_cons, List.filter_cons, List.filter_comm, ih]
    by_cases hp : p first
    · rw [if_pos hp, if_pos hp, distinctOn]
    -- What repeats a member that is left out is left out itself.
    · rw [if_neg hp, if_neg hp, List.filter_eq_self]
      intro b hb
      have hb := (List.mem_filter.1 (mem_of_mem_distinctOn hb)).2
      exact decide_eq_true fun heq => hp (h b first heq ▸ hb)

/-- The first member that passes a test is not lost among the repetitions. -/
theorem find?_distinctOn (list : List β) (p : β → Bool) :
    (distinctOn id list).find? p = list.find? p := by
  induction list with
  | nil => rfl
  | cons first rest ih =>
    rw [distinctOn, List.find?_cons, List.find?_cons, List.find?_filter, ← ih]
    cases hp : p first with
    | true => rfl
    | false =>
      -- Repetitions of the first member do not pass either.
      have hsame : (fun b => decide (decide (id b ≠ id first) = true ∧ p b = true)) = p := by
        funext b
        by_cases heq : b = first
        · simp [heq, hp]
        · simp [heq]
      rw [hsame]

/-- Repetitions may be dropped before a list is mapped, as they are mapped alike. -/
theorem distinctOn_filterMap {γ : Type} [DecidableEq γ] {f : α → Option γ}
    (h : ∀ a ∈ list, ∀ b ∈ list, key a = key b → f a = f b) :
    distinctOn id ((distinctOn key list).filterMap f) = distinctOn id (list.filterMap f) := by
  induction list with
  | nil => rfl
  | cons first rest ih =>
    have ih := ih fun a ha b hb => h a (List.mem_cons_of_mem _ ha) b (List.mem_cons_of_mem _ hb)
    -- What repeats the first member is mapped to the same as it.
    have hsame : ∀ b ∈ distinctOn key rest, key b = key first → f b = f first := fun b hb =>
      h b (List.mem_cons_of_mem _ (mem_of_mem_distinctOn hb)) first List.mem_cons_self
    rw [distinctOn, List.filterMap_cons, List.filterMap_cons]
    cases hfirst : f first with
    | none =>
      dsimp only
      rw [← ih, List.filterMap_filter]
      congr 1
      refine List.filterMap_congr fun b hb => ?_
      by_cases hkey : key b = key first
      · simp [hkey, hsame b hb hkey, hfirst]
      · simp [hkey]
    | some image =>
      dsimp only
      have hdropped : (((distinctOn key rest).filter fun b => key b ≠ key first).filterMap f).filter
            (fun b => id b ≠ id image)
          = ((distinctOn key rest).filterMap f).filter fun b => id b ≠ id image := by
        rw [List.filter_filterMap, List.filter_filterMap, List.filterMap_filter]
        refine List.filterMap_congr fun b hb => ?_
        by_cases hkey : key b = key first
        · simp [hkey, hsame b hb hkey, hfirst, Option.filter]
        · simp [hkey]
      have hcomm : ∀ images : List γ, (distinctOn id images).filter (fun b => id b ≠ id image)
          = distinctOn id (images.filter fun b => id b ≠ id image) :=
        fun images => filter_distinctOn fun a b heq => by rw [heq]
      rw [distinctOn, distinctOn, ← ih, hcomm, hcomm, hdropped]

/-- Repetitions may be dropped before names are changed. -/
theorem distinctOn_map {γ : Type} [DecidableEq γ] (change : β → γ) (list : List β) :
    distinctOn id ((distinctOn id list).map change) = distinctOn id (list.map change) := by
  rw [← List.filterMap_eq_map]
  exact distinctOn_filterMap fun a _ b _ heq => congrArg (some ∘ change) heq

end Distinct

namespace Criteria

variable {criteria : Criteria}

/-- The parts of a well-formed filter are well formed. -/
theorem WellFormed.of_mem_nodes (hwf : criteria.WellFormed) {node : Criteria}
    (h : node ∈ criteria.nodes) : node.WellFormed := by
  induction criteria with
  | and left right ihl ihr =>
    rcases List.mem_cons.1 h with rfl | h
    · exact hwf
    · exact (List.mem_append.1 h).elim (ihl hwf.1) (ihr hwf.2)
  | or left right ihl ihr =>
    rcases List.mem_cons.1 h with rfl | h
    · exact hwf
    · exact (List.mem_append.1 h).elim (ihl hwf.1) (ihr hwf.2)
  | not inner ih =>
    rcases List.mem_cons.1 h with rfl | h
    · exact hwf
    · exact ih hwf h
  | property => rwa [List.mem_singleton.1 h]
  | any => rwa [List.mem_singleton.1 h]
  | currentUser => rwa [List.mem_singleton.1 h]

/-- The name at each part that is about a property, in order and with its repetitions. -/
def nodeNames (criteria : Criteria) : List String :=
  criteria.nodes.filterMap propertyName?

@[simp] theorem nodeNames_and (left right : Criteria) :
    (and left right).nodeNames = left.nodeNames ++ right.nodeNames := by
  simp [nodeNames, nodes, List.filterMap_cons, propertyName?]

@[simp] theorem nodeNames_or (left right : Criteria) :
    (or left right).nodeNames = left.nodeNames ++ right.nodeNames := by
  simp [nodeNames, nodes, List.filterMap_cons, propertyName?]

@[simp] theorem nodeNames_not (inner : Criteria) : (not inner).nodeNames = inner.nodeNames := by
  simp [nodeNames, nodes, List.filterMap_cons, propertyName?]

@[simp] theorem nodeNames_property (name : String) (test : PropertyTest) :
    (property name test).nodeNames = [name] := rfl

@[simp] theorem nodeNames_any (name : String) (item : Criteria) :
    (any name item).nodeNames = [name] := rfl

@[simp] theorem nodeNames_currentUser : currentUser.nodeNames = [] := rfl

/-- **The names of a well-formed filter are listed where they occur for the first time**: dropping what is
    written alike before changes nothing. -/
theorem propertyNames_eq (hwf : criteria.WellFormed) :
    criteria.propertyNames = distinctOn id criteria.nodeNames := by
  have hleaves : (criteria.nodes.filter fun node => node.propertyName?.isSome).filterMap propertyName?
      = criteria.nodeNames := by
    rw [nodeNames, List.filterMap_filter]
    refine List.filterMap_congr fun node _ => ?_
    cases node.propertyName? <;> rfl
  rw [propertyNames, propertyCriteria, ← hleaves]
  refine distinctOn_filterMap fun a ha b hb htext => ?_
  have ha := hwf.of_mem_nodes (List.mem_filter.1 ha).1
  have hb := hwf.of_mem_nodes (List.mem_filter.1 hb).1
  rw [eq_of_text_eq ha hb htext]

/-- No name is lost among the repetitions. -/
theorem mem_nodeNames (hwf : criteria.WellFormed) {name : String} :
    name ∈ criteria.nodeNames ↔ name ∈ criteria.propertyNames := by
  rw [propertyNames_eq hwf, mem_distinctOn_id]

/-- **The names of a well-formed filter are those of its parts.** -/
theorem mem_propertyNames (hwf : criteria.WellFormed) {name : String} :
    name ∈ criteria.propertyNames ↔ ∃ node ∈ criteria.nodes, node.propertyName? = some name := by
  rw [← mem_nodeNames hwf, nodeNames, List.mem_filterMap]

end Criteria

end RecordFilter
