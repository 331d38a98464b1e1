import RecordFilter.CompactArray.Reading
import RecordFilter.Proofs.Except

namespace RecordFilter

/-!
# From the leaves of a compact array to the whole of it

* `Criteria.IsStable` — a property of filters that joining and negating keep.
* `CompactArray.chain_makes` — a chain of filters with such a property makes one that has it, whatever
  the two passes over the chain do.
* `CompactArray.toCriteria_makes` — if all leaves have the property, so has the filter of a document.
-/

/-- A property of filters that is kept when filters are joined or negated. -/
structure Criteria.IsStable (post : Criteria → Prop) : Prop where
  join : ∀ (connective : Connective) (left right : Criteria), post left → post right →
    post (connective.join left right)
  not : ∀ inner : Criteria, post inner → post (.not inner)

namespace CompactArray

variable {post : Criteria → Prop}

/-! ### Chains -/

/-- The filter of a link, if it is one, has the property. -/
def Link.Satisfies (post : Criteria → Prop) : Link → Prop
  | .scalar _ => True
  | .filter reading => Makes post reading

/-- The filter of a link has the property if the link has one. -/
theorem Link.Satisfies.criteria {link : Link} (h : link.Satisfies post) :
    Makes post link.criteria := by
  cases link with
  | scalar => exact True.intro
  | filter => exact h

section

variable (stable : Criteria.IsStable post)
include stable

/-- The conjunction of two links has the property if both have it. -/
theorem conjunction_makes {left right : Link} (hl : left.Satisfies post)
    (hr : right.Satisfies post) : Makes (Link.Satisfies post) (conjunction left right) := by
  unfold conjunction
  refine hr.criteria.bind fun second _ hsecond => ?_
  refine hl.criteria.bind fun first _ hfirst => ?_
  exact stable.join .and first second hfirst hsecond

/-- Two links that are joined, with the links after them. -/
theorem conjunction_cons_makes {left right : Link} {rest : Except FilterError (List Link)}
    (hl : left.Satisfies post) (hr : right.Satisfies post)
    (h : Makes (fun links => ∀ link ∈ links, link.Satisfies post) rest) :
    Makes (fun links => ∀ link ∈ links, link.Satisfies post)
      (do return (← conjunction left right) :: (← rest)) := by
  refine (conjunction_makes stable hl hr).bind fun joined _ hjoined => ?_
  refine h.bind fun links _ hlinks => ?_
  exact List.forall_mem_cons.2 ⟨hjoined, hlinks⟩

/-- The first pass leaves links that have the property. -/
theorem joinAdjacent_makes {links : List Link} (h : ∀ link ∈ links, link.Satisfies post) :
    Makes (fun joined => ∀ link ∈ joined, link.Satisfies post) (joinAdjacent links) := by
  fun_induction joinAdjacent links with
  | case1 => exact True.intro
  | case2 left link hword right rest ih =>
    obtain ⟨hleft, h⟩ := List.forall_mem_cons.1 h
    obtain ⟨hright, hrest⟩ := List.forall_mem_cons.1 (List.forall_mem_cons.1 h).2
    exact conjunction_cons_makes stable hleft hright (ih hrest)
  | case3 left link rest hword hfilters ih =>
    obtain ⟨hleft, h⟩ := List.forall_mem_cons.1 h
    obtain ⟨hlink, hrest⟩ := List.forall_mem_cons.1 h
    exact conjunction_cons_makes stable hleft hlink (ih hrest)
  | case4 left link rest hword hfilters ih =>
    obtain ⟨hleft, hrest⟩ := List.forall_mem_cons.1 h
    refine (ih hrest).bind fun joined _ hjoined => ?_
    exact List.forall_mem_cons.2 ⟨hleft, hjoined⟩
  | case5 => exact h

/-- The second pass makes a filter that has the property. -/
theorem joinRest_makes {joined : Criteria} {links : List Link} (hjoined : post joined)
    (h : ∀ link ∈ links, link.Satisfies post) : Makes post (joinRest joined links) := by
  fun_induction joinRest joined links with
  | case1 => exact hjoined
  | case2 joined link rest hword ih =>
    obtain ⟨hlink, hrest⟩ := List.forall_mem_cons.1 h
    refine hlink.criteria.bind fun right _ hright => ?_
    exact ih right (stable.join .and joined right hjoined hright) hrest
  | case3 => exact True.intro
  | case4 joined link word hword right rest ih =>
    obtain ⟨hright, hrest⟩ := List.forall_mem_cons.1 (List.forall_mem_cons.1 h).2
    refine hright.criteria.bind fun right _ hright => ?_
    -- Any word but the two connectives is an error.
    cases hconnective : connective word with
    | error => exact True.intro
    | ok connective =>
      exact ih right connective (stable.join connective joined right hjoined hright) hrest

/-- **A chain makes a filter that has the property if all its links have it.** -/
theorem chain_makes {links : List Link} (h : ∀ link ∈ links, link.Satisfies post) :
    Makes post (chain links) := by
  unfold chain
  refine (joinAdjacent_makes stable h).bind fun joined _ hjoined => ?_
  cases joined with
  | nil => exact True.intro
  | cons first rest =>
    obtain ⟨hfirst, hrest⟩ := List.forall_mem_cons.1 hjoined
    exact hfirst.criteria.bind fun start _ hstart => joinRest_makes stable hstart hrest

/-! ### Arrays -/

/-- An array makes a filter that has the property if its links and its leaves have it. -/
theorem array_makes {items : List Json} {links : List Link}
    (hleaf : ∀ name word, ∀ operand ∈ items, Makes post (leaf name word operand))
    (hlinks : ∀ link ∈ links, link.Satisfies post) : Makes post (array items links) := by
  unfold array
  split
  case h_1 => exact True.intro
  case h_2 item link => exact (hlinks link List.mem_cons_self).criteria
  case h_3 name operand _ link =>
    split
    case isTrue =>
      refine (hlinks link (by simp)).criteria.bind fun inner _ hinner => ?_
      exact stable.not inner hinner
    case isFalse => exact hleaf name "=" operand (by simp)
  case h_4 _ name word operand => exact hleaf name word operand (by simp)
  case h_5 left right =>
    refine (hlinks left (by simp)).criteria.bind fun first _ hfirst => ?_
    refine (hlinks right (by simp)).criteria.bind fun second _ hsecond => ?_
    exact stable.join .and first second hfirst hsecond
  case h_6 word _ left _ right =>
    refine (hlinks left (by simp)).criteria.bind fun first _ hfirst => ?_
    refine (hlinks right (by simp)).criteria.bind fun second _ hsecond => ?_
    cases connective word with
    | error => exact True.intro
    | ok connective => exact stable.join connective first second hfirst hsecond
  case h_7 => exact True.intro
  case h_8 => exact chain_makes stable hlinks
  case h_9 => exact True.intro

end

/-! ### Documents -/

mutual

/-- An item of an array is a link that has the property, if all leaves of documents that fit have it
    and the item fits. -/
theorem link_satisfies (stable : Criteria.IsStable post) {fits : Json → Prop}
    (hitems : ∀ items, fits (.array items) → ∀ item ∈ items, fits item)
    (hleaf : ∀ name word operand, fits operand → Makes post (leaf name word operand))
    (document : Json) (h : fits document) : (link document).Satisfies post := by
  cases document with
  | array items =>
    rw [link]
    have hfits := hitems items h
    exact array_makes stable
      (fun name word operand hmem => hleaf name word operand (hfits operand hmem))
      (links_satisfy stable hitems hleaf items hfits)
  | _ => exact True.intro

/-- The items of an array are links that have the property. -/
theorem links_satisfy (stable : Criteria.IsStable post) {fits : Json → Prop}
    (hitems : ∀ items, fits (.array items) → ∀ item ∈ items, fits item)
    (hleaf : ∀ name word operand, fits operand → Makes post (leaf name word operand))
    (items : List Json) (h : ∀ item ∈ items, fits item) :
    ∀ link ∈ links items, link.Satisfies post := by
  cases items with
  | nil => exact fun link hlink => absurd hlink List.not_mem_nil
  | cons item rest =>
    obtain ⟨hitem, hrest⟩ := List.forall_mem_cons.1 h
    rw [links]
    exact List.forall_mem_cons.2 ⟨link_satisfies stable hitems hleaf item hitem,
      links_satisfy stable hitems hleaf rest hrest⟩

end

/-- **A document makes a filter that has the property, if the leaves of all documents that fit have
    it.** -/
theorem toCriteria_makes (stable : Criteria.IsStable post) {fits : Json → Prop}
    (hitems : ∀ items, fits (.array items) → ∀ item ∈ items, fits item)
    (hleaf : ∀ name word operand, fits operand → Makes post (leaf name word operand))
    {document : Json} (h : fits document) : Makes post (toCriteria document) := by
  cases document with
  | array items => exact link_satisfies stable hitems hleaf (.array items) h
  | _ => exact True.intro

end CompactArray

end RecordFilter
