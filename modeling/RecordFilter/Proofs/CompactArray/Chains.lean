import RecordFilter.Proofs.CompactArray.RoundTrip

namespace RecordFilter

/-!
# Chains of filters

* `Criteria.Joins` — a filter is made of others in their order, each joined to what is made of those before
  it.
* `CompactArray.joinPairs`, `CompactArray.joinChain` — how the filters of a chain are joined: first pairs by
  conjunction, then what is left from left to right.
* `CompactArray.joins_joinChain` — a chain is made of its filters in their order.
* `CompactArray.chain_chainLinks` — the two passes over a chain join its filters so.
* `CompactArray.toCriteria_chain` — hence an array of four or more items that is a chain describes its filters
  so joined.
-/

/-- A filter is made of a first one and of others in their order, each joined by its connective to what is
    made of those before it. -/
inductive Criteria.Joins : Criteria → List (Connective × Criteria) → Criteria → Prop where
  | single (first : Criteria) : Joins first [] first
  | join {first next left right : Criteria} {before after : List (Connective × Criteria)}
      (connective : Connective) (joinsLeft : Joins first before left)
      (joinsRight : Joins next after right) :
      Joins first (before ++ (connective, next) :: after) (connective.join left right)

namespace CompactArray

open Criteria

/-! ### How a chain is joined -/

/-- What comes after the first filter of a chain: filters, each with the connective in front of it, if there
    is one. -/
abbrev Steps (α : Type) : Type := List (Option Connective × α)

/-- The connectives in front of filters, with a conjunction in the place of those left out. -/
def Steps.explicit (steps : Steps Criteria) : List (Connective × Criteria) :=
  steps.map fun step => (step.1.getD .and, step.2)

@[simp] theorem Steps.explicit_cons (step : Option Connective × Criteria) (steps : Steps Criteria) :
    Steps.explicit (step :: steps) = (step.1.getD .and, step.2) :: steps.explicit := rfl

/-- Joins pairs of neighbours by conjunction, going through the connectives from left to right: wherever there
    is an `and` or none, unless the connective before was used up in this way. -/
def joinPairs (joinedBefore : Bool) (first : Criteria) : Steps Criteria → Criteria × Steps Criteria
  | [] => (first, [])
  | (connective?, next) :: rest =>
    if joinedBefore = false ∧ connective? ≠ some .or then joinPairs true (.and first next) rest
    else
      let (pair, others) := joinPairs false next rest
      (first, (connective?, pair) :: others)

/-- Joins filters from left to right, by conjunction where there is no connective. -/
def joinSteps (first : Criteria) (steps : Steps Criteria) : Criteria :=
  steps.foldl (fun joined step => (step.1.getD .and).join joined step.2) first

/-- Joins the filters of a chain: first pairs, then what is left. -/
def joinChain (first : Criteria) (steps : Steps Criteria) : Criteria :=
  let (start, others) := joinPairs false first steps
  joinSteps start others

/-! ### Nothing is lost or moved -/

/-- The filters of a chain, in their order, make up the filters of a shorter chain. -/
inductive Grouped : List (Connective × Criteria) → Steps Criteria → Prop where
  | nil : Grouped [] []
  | cons {next group : Criteria} {inner rest : List (Connective × Criteria)}
      {others : Steps Criteria} (connective? : Option Connective) (joins : Joins next inner group)
      (grouped : Grouped rest others) :
      Grouped ((connective?.getD .and, next) :: (inner ++ rest)) ((connective?, group) :: others)

/-- Joining pairs makes groups of neighbours. -/
theorem joinPairs_grouped (joinedBefore : Bool) (steps : Steps Criteria) {first left : Criteria}
    {inner : List (Connective × Criteria)} (h : Joins first inner left) :
    ∃ taken rest, steps.explicit = taken ++ rest
      ∧ Joins first (inner ++ taken) (joinPairs joinedBefore left steps).1
      ∧ Grouped rest (joinPairs joinedBefore left steps).2 := by
  -- The group in the making is `left`; joining it to its neighbour makes it one filter longer.
  induction steps generalizing joinedBefore first left inner with
  | nil => exact ⟨[], [], rfl, by rwa [List.append_nil], .nil⟩
  | cons step steps ih =>
    obtain ⟨connective?, next⟩ := step
    rw [joinPairs]
    split
    case isTrue hpair =>
      have hand : connective?.getD .and = .and := by
        rcases connective? with _ | _ | _
        · rfl
        · rfl
        · exact absurd rfl hpair.2
      obtain ⟨taken, rest, hsteps, hjoins, hgrouped⟩ := ih true (h.join .and (.single next))
      refine ⟨(.and, next) :: taken, rest, ?_, ?_, hgrouped⟩
      · rw [Steps.explicit_cons, hand, hsteps, List.cons_append]
      · rwa [List.append_assoc] at hjoins
    case isFalse =>
      obtain ⟨taken, rest, hsteps, hjoins, hgrouped⟩ := ih false (.single next)
      rw [List.nil_append] at hjoins
      refine ⟨[], _, ?_, ?_, .cons connective? hjoins hgrouped⟩
      · rw [Steps.explicit_cons, hsteps, List.nil_append]
      · rwa [List.append_nil]

/-- Joining groups of neighbours keeps all filters in their order. -/
theorem joins_joinSteps {first left : Criteria} {before after : List (Connective × Criteria)}
    {others : Steps Criteria} (h : Joins first before left) (hgrouped : Grouped after others) :
    Joins first (before ++ after) (joinSteps left others) := by
  induction hgrouped generalizing before left with
  | nil => rwa [List.append_nil]
  | @cons next group inner rest others connective? hjoins _ ih =>
    have hstep := ih (h.join (connective?.getD .and) hjoins)
    rwa [List.append_assoc, List.cons_append] at hstep

/-- **A chain is made of its filters in their order**, joined by their connectives. -/
theorem joins_joinChain (first : Criteria) (steps : Steps Criteria) :
    Joins first steps.explicit (joinChain first steps) := by
  obtain ⟨taken, rest, hsteps, hjoins, hgrouped⟩ := joinPairs_grouped false steps (.single first)
  rw [hsteps]
  exact joins_joinSteps hjoins hgrouped

/-! ### The two passes over a chain -/

/-- The word of a connective in an array. -/
def arrayWord : Connective → String
  | .and => "and"
  | .or => "or"

/-- The word of a connective stands for the connective. -/
theorem connective_arrayWord (joined : Connective) : connective (arrayWord joined) = .ok joined := by
  cases joined <;> rfl

/-- The links of a chain after the first one. -/
def stepLinks : Steps Criteria → List Link
  | [] => []
  | (none, next) :: rest => .filter (.ok next) :: stepLinks rest
  | (some joined, next) :: rest =>
    .scalar (.string (arrayWord joined)) :: .filter (.ok next) :: stepLinks rest

/-- The links of a chain. -/
def chainLinks (chain : Criteria × Steps Criteria) : List Link :=
  .filter (.ok chain.1) :: stepLinks chain.2

/-- What the first pass does where there is no `and`. -/
theorem joinAdjacent_of_word? {left link : Link} (hword : link.word? ≠ some "and") (rest : List Link) :
    joinAdjacent (left :: link :: rest)
      = if left.isFilter && link.isFilter then do
          let joined ← conjunction left link
          return joined :: (← joinAdjacent rest)
        else do return left :: (← joinAdjacent (link :: rest)) := by
  cases rest with
  | nil => rw [joinAdjacent, if_neg hword]
  | cons => rw [joinAdjacent, if_neg hword]

/-- The first pass joins two filters side by side and goes on behind them. -/
theorem joinAdjacent_pair {first next : Criteria} {rest others : List Link}
    (h : joinAdjacent rest = .ok others) :
    joinAdjacent (.filter (.ok first) :: .filter (.ok next) :: rest)
      = .ok (.filter (.ok (.and first next)) :: others) := by
  rw [joinAdjacent_of_word? (by simp [Link.word?]), h]
  rfl

/-- The first pass joins two filters with an `and` between them and goes on behind them. -/
theorem joinAdjacent_and {first next : Criteria} {rest others : List Link}
    (h : joinAdjacent rest = .ok others) :
    joinAdjacent (.filter (.ok first) :: .scalar (.string "and") :: .filter (.ok next) :: rest)
      = .ok (.filter (.ok (.and first next)) :: others) := by
  rw [joinAdjacent, h]
  rfl

/-- The first pass leaves a scalar alone that it comes to. -/
theorem joinAdjacent_scalar (scalar : Json) {reading : Except FilterError Criteria}
    {rest others : List Link} (h : joinAdjacent (.filter reading :: rest) = .ok others) :
    joinAdjacent (.scalar scalar :: .filter reading :: rest) = .ok (.scalar scalar :: others) := by
  rw [joinAdjacent_of_word? (by simp [Link.word?]), h]
  rfl

/-- The first pass leaves a filter alone that has an `or` behind it. -/
theorem joinAdjacent_or (reading : Except FilterError Criteria) {rest others : List Link}
    (h : joinAdjacent (.scalar (.string "or") :: rest) = .ok others) :
    joinAdjacent (.filter reading :: .scalar (.string "or") :: rest)
      = .ok (.filter reading :: others) := by
  rw [joinAdjacent_of_word? (by decide), h]
  rfl

/-- A filter that was joined before stays as it is. -/
theorem joinPairs_true_fst (first : Criteria) (steps : Steps Criteria) :
    (joinPairs true first steps).1 = first := by
  cases steps with
  | nil => rfl
  | cons step rest =>
    rw [joinPairs, if_neg fun h => Bool.noConfusion h.1]

/-- The first pass joins pairs of the links of a chain, and so it does with those behind a joined pair. -/
theorem joinAdjacent_links (first : Criteria) (steps : Steps Criteria) :
    joinAdjacent (chainLinks (first, steps)) = .ok (chainLinks (joinPairs false first steps))
      ∧ joinAdjacent (stepLinks steps) = .ok (stepLinks (joinPairs true first steps).2) := by
  -- The pass that joins a pair goes on behind it, so that the two go hand in hand.
  induction steps generalizing first with
  | nil => exact ⟨rfl, rfl⟩
  | cons step rest ih =>
    obtain ⟨connective?, next⟩ := step
    have hbehind := (ih (.and first next)).2
    have hnext : joinAdjacent (.filter (.ok next) :: stepLinks rest)
        = .ok (chainLinks (joinPairs false next rest)) := (ih next).1
    have hpair : chainLinks (joinPairs true (.and first next) rest)
        = .filter (.ok (.and first next)) :: stepLinks (joinPairs true (.and first next) rest).2 := by
      rw [chainLinks, joinPairs_true_fst]
    rcases connective? with _ | _ | _
    · rw [joinPairs, if_pos (by decide), hpair]
      exact ⟨joinAdjacent_pair hbehind, hnext⟩
    · rw [joinPairs, if_pos (by decide), hpair]
      exact ⟨joinAdjacent_and hbehind, joinAdjacent_scalar _ hnext⟩
    · have hscalar := joinAdjacent_scalar (.string "or") hnext
      exact ⟨joinAdjacent_or _ hscalar, hscalar⟩

/-- The second pass joins what is left from left to right. -/
theorem joinRest_stepLinks (first : Criteria) (steps : Steps Criteria) :
    joinRest first (stepLinks steps) = .ok (joinSteps first steps) := by
  induction steps generalizing first with
  | nil => rfl
  | cons step rest ih =>
    obtain ⟨connective?, next⟩ := step
    cases connective? with
    | none =>
      rw [stepLinks, joinRest]
      exact ih (.and first next)
    | some joined =>
      rw [stepLinks, joinRest]
      simp only [Link.word?, Link.criteria, ok_bind, connective_arrayWord]
      exact ih (joined.join first next)

/-- **The two passes over a chain join its filters as described.** -/
theorem chain_chainLinks (first : Criteria) (steps : Steps Criteria) :
    chain (chainLinks (first, steps)) = .ok (joinChain first steps) := by
  rw [chain, (joinAdjacent_links first steps).1]
  exact joinRest_stepLinks _ _

/-! ### Arrays -/

/-- A document that describes a filter, and the filter. -/
structure Described where
  document : Json
  criteria : Criteria
  describes : toCriteria document = .ok criteria

/-- As a link of a chain a document that describes a filter is the filter. -/
theorem Described.link_document (described : Described) :
    link described.document = .filter (.ok described.criteria) := by
  obtain ⟨⟨items, hitems⟩, _⟩ := link_of_toCriteria described.describes
  have hdescribes := described.describes
  rw [hitems] at hdescribes ⊢
  exact congrArg Link.filter hdescribes

/-- The filters that the documents of a chain describe. -/
def Steps.criteria (steps : Steps Described) : Steps Criteria :=
  steps.map fun step => (step.1, step.2.criteria)

@[simp] theorem Steps.criteria_cons (step : Option Connective × Described) (steps : Steps Described) :
    Steps.criteria (step :: steps) = (step.1, step.2.criteria) :: steps.criteria := rfl

/-- The items of an array that come after the first document of a chain. -/
def stepItems : Steps Described → List Json
  | [] => []
  | (none, next) :: rest => next.document :: stepItems rest
  | (some joined, next) :: rest => .string (arrayWord joined) :: next.document :: stepItems rest

/-- The items of a chain of documents are the links of the chain of their filters. -/
theorem links_stepItems (steps : Steps Described) :
    links (stepItems steps) = stepLinks steps.criteria := by
  induction steps with
  | nil => rfl
  | cons step rest ih =>
    obtain ⟨connective?, next⟩ := step
    rw [Steps.criteria_cons]
    cases connective? with
    | none => rw [stepItems, links, next.link_document, ih, stepLinks]
    | some joined =>
      rw [stepItems, links, links, next.link_document, ih, stepLinks]
      rfl

/-- Four or more items are a chain. -/
theorem array_of_four_le {items : List Json} (h : 4 ≤ items.length) (links : List Link) :
    array items links = chain links := by
  match items, h with
  | first :: second :: third :: fourth :: rest, _ => rw [array.eq_def]

/-- A chain of four or more items describes the filter that its filters are joined to. -/
theorem toCriteria_chainItems (first : Described) (steps : Steps Described)
    (h : 4 ≤ (first.document :: stepItems steps).length) :
    toCriteria (.array (first.document :: stepItems steps))
      = .ok (joinChain first.criteria steps.criteria) := by
  rw [toCriteria, array_of_four_le h, links, first.link_document, links_stepItems]
  exact chain_chainLinks first.criteria steps.criteria

/-- **An array of four or more items that is a chain describes its filters joined in pairs and then from left to
    right**, which is made of all of them in their order, joined by the connectives between them. -/
theorem toCriteria_chain (first : Described) (steps : Steps Described)
    (h : 4 ≤ (first.document :: stepItems steps).length) :
    toCriteria (.array (first.document :: stepItems steps))
        = .ok (joinChain first.criteria steps.criteria)
      ∧ Joins first.criteria steps.criteria.explicit
          (joinChain first.criteria steps.criteria) :=
  ⟨toCriteria_chainItems first steps h, joins_joinChain _ _⟩

/-- A test for null in an array. -/
def nullTest (name : String) (hname : IsPropertyName name) : Described :=
  ⟨leafJson name "=" .null, .property name .isNull,
    toCriteria_comparison hname .equal rfl (show scalarJson .null = .ok .null from rfl)⟩

/-- An `and` right behind a pair is left to the second pass, and the last two filters make another pair. -/
theorem toCriteria_chain_mixed :
    toCriteria (.array [leafJson "A" "=" .null, leafJson "B" "=" .null, .string "and",
        leafJson "C" "=" .null, .string "or", leafJson "D" "=" .null, leafJson "E" "=" .null])
      = .ok (.or
          (.and (.and (.property "A" .isNull) (.property "B" .isNull)) (.property "C" .isNull))
          (.and (.property "D" .isNull) (.property "E" .isNull)))
      ∧ Joins (.property "A" .isNull)
          [(.and, .property "B" .isNull), (.and, .property "C" .isNull),
            (.or, .property "D" .isNull), (.and, .property "E" .isNull)]
          (.or
            (.and (.and (.property "A" .isNull) (.property "B" .isNull)) (.property "C" .isNull))
            (.and (.property "D" .isNull) (.property "E" .isNull))) :=
  toCriteria_chain (nullTest "A" (by decide +kernel))
    [(none, nullTest "B" (by decide +kernel)), (some .and, nullTest "C" (by decide +kernel)),
      (some .or, nullTest "D" (by decide +kernel)), (none, nullTest "E" (by decide +kernel))]
    (by decide)

end CompactArray

end RecordFilter
