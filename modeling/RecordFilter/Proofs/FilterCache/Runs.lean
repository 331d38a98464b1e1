import RecordFilter.FilterCache

namespace RecordFilter

open Text

/-!
# A cache answers what the parser answers

* `FilterCache.Operation`, `FilterCache.run` — what is done to a cache one after the other, and the
  answers.
* `FilterCache.Sound` — no entry is blank or stale, and the bound is kept.
* `FilterCache.Sound.get`, `Sound.step`, `Sound.run` — no operation and no run breaks that.
* `FilterCache.Sound.answer_get` — a sound cache answers what the parser answers.
* `FilterCache.Faithful` — what a question for a filter answers and does to the entries.
* `FilterCache.run_sound_faithful` — all of it for every run of a new cache.
-/

namespace FilterCache

/-! ### Operations and runs -/

/-- What is done to a cache. -/
inductive Operation where
  /-- Asks for the filter of a text. -/
  | get (text : String)
  /-- Changes how many filters are kept. -/
  | setCapacity (capacity : Nat)
  /-- Forgets all filters. -/
  | clear

/-- The answer to a question for a filter. -/
abbrev Answer := Except FilterError (Option Criteria)

/-- The answer to an operation, if it asks for a filter, and the cache afterwards. -/
def step (cache : FilterCache) : Operation → Option Answer × FilterCache
  | .get text => (some (cache.get text).1, (cache.get text).2)
  | .setCapacity capacity => (none, cache.setCapacity capacity)
  | .clear => (none, cache.clear)

/-- The answers to operations one after the other, and the cache afterwards. -/
def run (cache : FilterCache) : List Operation → List (Option Answer) × FilterCache
  | [] => ([], cache)
  | operation :: rest =>
    let (answer, after) := cache.step operation
    let (answers, last) := after.run rest
    (answer :: answers, last)

/-- What the parser would answer to an operation. -/
def Operation.parsed : Operation → Option Answer
  | .get text => some (Criteria.parse .standard text)
  | .setCapacity _ => none
  | .clear => none

/-! ### Sound caches -/

/-- Every entry is what the parser makes of its text, which is not blank, and there are no more
    entries than the capacity allows. -/
structure Sound (cache : FilterCache) : Prop where
  /-- At least one filter may be kept. -/
  capacity_pos : 1 ≤ cache.capacity
  /-- The bound is kept. -/
  size_le : cache.size ≤ cache.capacity
  /-- No entry is blank or stale. -/
  entry : ∀ text criteria, cache.entries[text]? = some criteria →
    allBlank text.toList = false ∧ Criteria.parse .standard text = .ok (some criteria)

/-- A blank text is no filter. -/
theorem parse_of_allBlank {culture : Culture} {text : String} (h : allBlank text.toList = true) :
    Criteria.parse culture text = .ok none := by
  unfold Criteria.parse
  rw [if_pos h]

variable {cache : FilterCache} {text : String} {criteria : Criteria}

/-- A new cache is sound. -/
theorem sound_withCapacity (capacity : Nat) : (withCapacity capacity).Sound where
  capacity_pos := Nat.le_max_right capacity 1
  size_le := by
    show (∅ : Std.HashMap String Criteria).size ≤ max capacity 1
    rw [Std.HashMap.size_empty]
    exact Nat.zero_le _
  entry := by
    intro text criteria h
    have hnone : (withCapacity capacity).entries[text]? = none := Std.HashMap.getElem?_empty
    rw [hnone] at h
    cases h

/-- An emptied cache is sound if it may keep a filter. -/
theorem sound_clear (h : 1 ≤ cache.capacity) : cache.clear.Sound where
  capacity_pos := h
  size_le := by
    show (∅ : Std.HashMap String Criteria).size ≤ cache.capacity
    rw [Std.HashMap.size_empty]
    exact Nat.zero_le _
  entry := by
    intro text criteria h
    have hnone : cache.clear.entries[text]? = none := Std.HashMap.getElem?_empty
    rw [hnone] at h
    cases h

/-- A change of the capacity leaves a sound cache sound: it is emptied if it holds too much. -/
theorem Sound.setCapacity (h : cache.Sound) (capacity : Nat) :
    (cache.setCapacity capacity).Sound := by
  have hpos : 1 ≤ max capacity 1 := Nat.le_max_right capacity 1
  unfold FilterCache.setCapacity
  dsimp only
  split
  case isTrue hlarge => exact sound_clear hpos
  case isFalse hsmall => exact ⟨hpos, Nat.le_of_not_lt hsmall, h.entry⟩

/-! ### Questions for a filter -/

/-- Unfolding lemma: a blank text is no filter and changes nothing. -/
theorem get_of_allBlank (h : allBlank text.toList = true) : cache.get text = (.ok none, cache) := by
  unfold get
  rw [if_pos h]

/-- Unfolding lemma: an entry is answered and changes nothing. -/
theorem get_of_entry (hblank : allBlank text.toList = false)
    (h : cache.entries[text]? = some criteria) : cache.get text = (.ok (some criteria), cache) := by
  unfold get
  rw [hblank, if_neg (by decide), h]

/-- Unfolding lemma: a text without an entry is parsed, and a filter is stored. -/
theorem get_of_parse (hblank : allBlank text.toList = false) (hnew : cache.entries[text]? = none)
    (h : Criteria.parse .standard text = .ok (some criteria)) :
    cache.get text = (.ok (some criteria), cache.insert text criteria) := by
  unfold get
  rw [hblank, if_neg (by decide), hnew]
  dsimp only
  rw [h]

/-- Unfolding lemma: a text that cannot be parsed changes nothing. -/
theorem get_of_error {fault : FilterError} (hblank : allBlank text.toList = false)
    (hnew : cache.entries[text]? = none) (h : Criteria.parse .standard text = .error fault) :
    cache.get text = (.error fault, cache) := by
  unfold get
  rw [hblank, if_neg (by decide), hnew]
  dsimp only
  rw [h]

/-- A text that is not blank is a filter or an error. -/
theorem parse_ne_none {culture : Culture} (h : allBlank text.toList = false) :
    Criteria.parse culture text ≠ .ok none := by
  unfold Criteria.parse
  rw [h, if_neg (by decide)]
  -- The parser answers none for blank texts only.
  cases wholeExpression culture (Span.ofString text) <;> simp [Except.map]

/-- What a question for a filter can do: nothing, with the parser's answer, or store a filter that
    the cache did not hold. -/
theorem Sound.get_cases (h : cache.Sound) (text : String) :
    cache.get text = (Criteria.parse .standard text, cache)
        ∧ (allBlank text.toList = true ∨ text ∈ cache.entries
            ∨ ∃ fault, Criteria.parse .standard text = .error fault)
      ∨ ∃ criteria, Criteria.parse .standard text = .ok (some criteria)
          ∧ allBlank text.toList = false ∧ text ∉ cache.entries
          ∧ cache.get text = (.ok (some criteria), cache.insert text criteria) := by
  -- Blank texts are sorted out first, then the entries are searched, then the parser is asked.
  by_cases hblank : allBlank text.toList = true
  · rw [get_of_allBlank hblank, parse_of_allBlank hblank]
    exact Or.inl ⟨rfl, Or.inl hblank⟩
  · rw [Bool.not_eq_true] at hblank
    cases hentry : cache.entries[text]? with
    | some criteria =>
      have hmem : text ∈ cache.entries := by
        rw [Std.HashMap.mem_iff_isSome_getElem?, hentry]
        rfl
      rw [get_of_entry hblank hentry, (h.entry text criteria hentry).2]
      exact Or.inl ⟨rfl, Or.inr (Or.inl hmem)⟩
    | none =>
      have hnew : text ∉ cache.entries := by
        rw [Std.HashMap.mem_iff_isSome_getElem?, hentry]
        decide
      cases hparse : Criteria.parse .standard text with
      | error fault =>
        rw [get_of_error hblank hentry hparse]
        exact Or.inl ⟨rfl, Or.inr (Or.inr ⟨fault, rfl⟩)⟩
      | ok found =>
        cases found with
        | none => exact absurd hparse (parse_ne_none hblank)
        | some criteria =>
          exact Or.inr ⟨criteria, rfl, hblank, hnew, get_of_parse hblank hentry hparse⟩

/-- **A sound cache answers what the parser answers.** -/
theorem Sound.answer_get (h : cache.Sound) (text : String) :
    (cache.get text).1 = Criteria.parse .standard text := by
  rcases h.get_cases text with ⟨hget, _⟩ | ⟨criteria, hparse, _, _, hget⟩
  · rw [hget]
  · rw [hget, hparse]

/-! ### New entries -/

/-- A full cache is emptied before a new text is stored. -/
theorem insert_of_full (hfull : cache.capacity ≤ cache.size) (hnew : text ∉ cache.entries) :
    cache.insert text criteria
      = ⟨cache.capacity, (∅ : Std.HashMap String Criteria).insert text criteria⟩ := by
  have hcontains : cache.entries.contains text = false := by
    rw [Bool.eq_false_iff]
    exact fun h => hnew (Std.HashMap.mem_iff_contains.2 h)
  unfold insert
  rw [hcontains, decide_eq_true hfull]
  rfl

/-- A cache with room keeps what it holds when a text is stored. -/
theorem insert_of_room (hroom : cache.size < cache.capacity) :
    cache.insert text criteria = ⟨cache.capacity, cache.entries.insert text criteria⟩ := by
  unfold insert
  rw [decide_eq_false (Nat.not_le_of_lt hroom)]
  rfl

/-- A new entry is found by its text, and the others as before. -/
theorem getElem?_insert_entries (entries : Std.HashMap String Criteria) (other : String) :
    (entries.insert text criteria)[other]?
      = if other = text then some criteria else entries[other]? := by
  rw [Std.HashMap.getElem?_insert]
  by_cases heq : other = text
  · rw [heq, if_pos rfl, if_pos (beq_self_eq_true text)]
  · rw [if_neg heq, if_neg (by simpa using Ne.symm heq)]

/-- What a new entry leaves in the cache: the entry, and the others unless the cache was full. -/
theorem getElem?_insert (hnew : text ∉ cache.entries) (other : String) :
    (cache.insert text criteria).entries[other]?
      = if other = text then some criteria
        else if cache.capacity ≤ cache.size then none else cache.entries[other]? := by
  by_cases hfull : cache.capacity ≤ cache.size
  · rw [insert_of_full hfull hnew, if_pos hfull, getElem?_insert_entries,
      Std.HashMap.getElem?_empty]
  · rw [insert_of_room (Nat.lt_of_not_le hfull), if_neg hfull, getElem?_insert_entries]

/-- How many entries there are after a new one. -/
theorem size_insert (hnew : text ∉ cache.entries) :
    (cache.insert text criteria).size
      = if cache.capacity ≤ cache.size then 1 else cache.size + 1 := by
  by_cases hfull : cache.capacity ≤ cache.size
  · rw [insert_of_full hfull hnew, if_pos hfull, size, Std.HashMap.size_insert,
      if_neg Std.HashMap.not_mem_empty, Std.HashMap.size_empty]
  · rw [insert_of_room (Nat.lt_of_not_le hfull), if_neg hfull, size, Std.HashMap.size_insert,
      if_neg hnew, size]

/-- A new entry does not change the capacity. -/
theorem capacity_insert (hnew : text ∉ cache.entries) :
    (cache.insert text criteria).capacity = cache.capacity := by
  by_cases hfull : cache.capacity ≤ cache.size
  · rw [insert_of_full hfull hnew]
  · rw [insert_of_room (Nat.lt_of_not_le hfull)]

/-- A new entry leaves a sound cache sound. -/
theorem Sound.insert (h : cache.Sound) (hblank : allBlank text.toList = false)
    (hnew : text ∉ cache.entries) (hparse : Criteria.parse .standard text = .ok (some criteria)) :
    (cache.insert text criteria).Sound where
  capacity_pos := by
    rw [capacity_insert hnew]
    exact h.capacity_pos
  size_le := by
    rw [size_insert hnew, capacity_insert hnew]
    -- One entry is never too many, and one more is not if there was room.
    have hpos := h.capacity_pos
    split
    case isTrue => exact hpos
    case isFalse hroom => omega
  entry := by
    intro other found hfound
    rw [getElem?_insert hnew] at hfound
    split at hfound
    case isTrue heq =>
      cases hfound
      rw [heq]
      exact ⟨hblank, hparse⟩
    case isFalse =>
      split at hfound
      · cases hfound
      · exact h.entry other found hfound

/-! ### Runs -/

/-- A question for a filter leaves a sound cache sound. -/
theorem Sound.get (h : cache.Sound) (text : String) : (cache.get text).2.Sound := by
  rcases h.get_cases text with ⟨hget, _⟩ | ⟨criteria, hparse, hblank, hnew, hget⟩
  · rw [hget]
    exact h
  · rw [hget]
    exact h.insert hblank hnew hparse

/-- **No operation breaks a sound cache**, and its answer is the parser's. -/
theorem Sound.step (h : cache.Sound) (operation : Operation) :
    (cache.step operation).1 = operation.parsed ∧ (cache.step operation).2.Sound := by
  cases operation with
  | get text => exact ⟨congrArg some (h.answer_get text), h.get text⟩
  | setCapacity capacity => exact ⟨rfl, h.setCapacity capacity⟩
  | clear => exact ⟨rfl, sound_clear h.capacity_pos⟩

/-- **No run breaks a sound cache**, and its answers are the parser's. -/
theorem Sound.run (h : cache.Sound) (operations : List Operation) :
    (cache.run operations).1 = operations.map Operation.parsed
      ∧ (cache.run operations).2.Sound := by
  -- Every operation starts from the cache that the ones before it left.
  induction operations generalizing cache with
  | nil => exact ⟨rfl, h⟩
  | cons operation rest ih =>
    obtain ⟨hanswer, hsound⟩ := h.step operation
    obtain ⟨hanswers, hlast⟩ := ih hsound
    refine ⟨?_, hlast⟩
    show (cache.step operation).1 :: ((cache.step operation).2.run rest).1 = _
    rw [hanswer, hanswers, List.map_cons]

/-! ### What a question for a filter does to the entries -/

/-- What a question for a filter answers, and what it does to the entries. -/
structure Faithful (cache : FilterCache) : Prop where
  /-- The answer is the parser's. -/
  answer : ∀ text, (cache.get text).1 = Criteria.parse .standard text
  /-- A blank text, a text that is held and a text that cannot be parsed change nothing. -/
  unchanged : ∀ text, allBlank text.toList = true ∨ text ∈ cache.entries
      ∨ (∃ fault, (cache.get text).1 = .error fault) → (cache.get text).2 = cache
  /-- A filter that was not held is stored. -/
  stored : ∀ text criteria, text ∉ cache.entries → (cache.get text).1 = .ok (some criteria) →
      (cache.get text).2.entries[text]? = some criteria
  /-- If there is room, it is stored next to all earlier entries. -/
  joins : ∀ text criteria, text ∉ cache.entries → (cache.get text).1 = .ok (some criteria) →
      cache.size < cache.capacity → (cache.get text).2.size = cache.size + 1
        ∧ ∀ other, other ≠ text → (cache.get text).2.entries[other]? = cache.entries[other]?
  /-- If the cache is full, it is the only entry. -/
  replaces : ∀ text criteria, text ∉ cache.entries → (cache.get text).1 = .ok (some criteria) →
      cache.size = cache.capacity → (cache.get text).2.size = 1
        ∧ ∀ other, other ≠ text → (cache.get text).2.entries[other]? = none

/-- A filter that was not held is a new entry. -/
theorem Sound.get_eq_insert (h : cache.Sound) (hnew : text ∉ cache.entries)
    (hanswer : (cache.get text).1 = .ok (some criteria)) :
    cache.get text = (.ok (some criteria), cache.insert text criteria) := by
  rw [h.answer_get] at hanswer
  -- Whatever else leaves the cache as it is gives another answer, or was held.
  rcases h.get_cases text with ⟨_, hblank | hmem | ⟨fault, herror⟩⟩ | ⟨found, hparse, _, _, hget⟩
  · rw [parse_of_allBlank hblank] at hanswer
    cases hanswer
  · exact absurd hmem hnew
  · rw [herror] at hanswer
    cases hanswer
  · obtain rfl : found = criteria := by
      rw [hparse] at hanswer
      cases hanswer
      rfl
    exact hget

/-- A sound cache is faithful. -/
theorem Sound.faithful (h : cache.Sound) : cache.Faithful where
  answer := h.answer_get
  unchanged := by
    intro text hquiet
    rcases h.get_cases text with ⟨hget, _⟩ | ⟨criteria, hparse, hblank, hnew, hget⟩
    · rw [hget]
    · rcases hquiet with hall | hmem | ⟨fault, herror⟩
      · rw [hall] at hblank
        cases hblank
      · exact absurd hmem hnew
      · rw [hget] at herror
        cases herror
  stored := by
    intro text criteria hnew hanswer
    rw [h.get_eq_insert hnew hanswer, getElem?_insert hnew, if_pos rfl]
  joins := by
    intro text criteria hnew hanswer hroom
    rw [h.get_eq_insert hnew hanswer]
    refine ⟨?_, fun other hother => ?_⟩
    · rw [size_insert hnew, if_neg (Nat.not_le_of_lt hroom)]
    · rw [getElem?_insert hnew, if_neg hother, if_neg (Nat.not_le_of_lt hroom)]
  replaces := by
    intro text criteria hnew hanswer hfull
    rw [h.get_eq_insert hnew hanswer]
    refine ⟨?_, fun other hother => ?_⟩
    · rw [size_insert hnew, if_pos (Nat.le_of_eq hfull.symm)]
    · rw [getElem?_insert hnew, if_neg hother, if_pos (Nat.le_of_eq hfull.symm)]

/-- **A cache stands for the parser in every run**: its answers are the parser's, and after the run,
    so after every step of a longer one, it is sound and faithful. -/
theorem run_sound_faithful (capacity : Nat) (operations : List Operation) :
    ((withCapacity capacity).run operations).1 = operations.map Operation.parsed
      ∧ ((withCapacity capacity).run operations).2.Sound
      ∧ ((withCapacity capacity).run operations).2.Faithful := by
  obtain ⟨hanswers, hsound⟩ := (sound_withCapacity capacity).run operations
  exact ⟨hanswers, hsound, hsound.faithful⟩

end FilterCache

end RecordFilter
