import RecordFilter.Json.Reader

namespace RecordFilter.Json

/-!
# What a reader of JSON keeps

* `Json.Invariant` — a property of documents at a depth that holds of everything without parts and goes
  from the parts of an array or object to the array or object one level above.
* `Json.Invariant.of_readValue?` — a reader only gives values with such a property.
* `Json.Invariant.of_ofText?` — hence so does a text.

The depth is how many levels of nesting a reader has left, so it decreases from an array to its items.
-/

/-- A property of documents, which may depend on how many levels of nesting are left, that everything
    without parts has, and every array and object whose parts have it one level below. -/
structure Invariant (post : Nat → Json → Prop) : Prop where
  null : ∀ depth, post depth .null
  bool : ∀ depth value, post depth (.bool value)
  number : ∀ depth {token : NumberToken} {document : Json}, token.value? = some document →
    post depth document
  string : ∀ depth value, post depth (.string value)
  array : ∀ {depth items}, (∀ item ∈ items, post depth item) → post (depth + 1) (.array items)
  object : ∀ {depth members}, (∀ member ∈ members, post depth member.2) →
    post (depth + 1) (.object members)

/-! ### Tokens -/

/-- A token with a property: if it is a constant or a number with a value, the value has it at any
    depth. -/
def Token.Has (post : Nat → Json → Prop) (token : Token) : Prop :=
  ∀ document, token = .scalar (some document) → ∀ depth, post depth document

variable {post : Nat → Json → Prop}

/-- A word makes a token with the property. -/
theorem Invariant.of_ofWord? (inv : Invariant post) {word : List Char} {token : Token}
    (h : Token.ofWord? word = some token) : token.Has post := by
  unfold Token.ofWord? at h
  split at h
  case isTrue =>
    rintro document rfl
    cases h
    exact inv.null
  case isFalse =>
    split at h
    case isTrue =>
      rintro document rfl
      cases h
      exact fun depth => inv.bool depth true
    case isFalse =>
      split at h
      case isTrue =>
        rintro document rfl
        cases h
        exact fun depth => inv.bool depth false
      case isFalse =>
        obtain ⟨number, _, rfl⟩ := Option.map_eq_some_iff.1 h
        intro document hvalue depth
        exact inv.number depth (Token.scalar.inj hvalue)

/-- A punctuation character makes a token with any property. -/
theorem Token.has_of_punctuation? {c : Char} {token : Token} (h : punctuation? c = some token) :
    token.Has post := by
  rintro document rfl
  unfold punctuation? at h
  split at h <;> cases h

/-- The tokens of a text have the property. -/
theorem Invariant.of_ofChars? (inv : Invariant post) {text : List Char} {tokens : List Token}
    (h : Token.ofChars? text = some tokens) : ∀ token ∈ tokens, token.Has post := by
  fun_induction Token.ofChars? text generalizing tokens with
  | case1 =>
    cases h
    exact fun token htoken => absurd htoken List.not_mem_nil
  | case2 c rest hspace ih => exact ih h
  | case3 => cases h
  | case4 rest hspace units after hfound ih =>
    obtain ⟨following, hrest, rfl⟩ := Option.map_eq_some_iff.1 h
    refine List.forall_mem_cons.2 ⟨?_, ih hrest⟩
    rintro document htoken
    cases htoken
  | case5 c rest hspace hquote token hfound ih =>
    obtain ⟨following, hrest, rfl⟩ := Option.map_eq_some_iff.1 h
    exact List.forall_mem_cons.2 ⟨Token.has_of_punctuation? hfound, ih hrest⟩
  | case6 c rest hspace hquote hfound ih =>
    obtain ⟨token, htoken, h⟩ := Option.bind_eq_some_iff.1 h
    obtain ⟨following, hrest, h⟩ := Option.bind_eq_some_iff.1 h
    cases h
    exact List.forall_mem_cons.2 ⟨inv.of_ofWord? htoken, ih hrest⟩

/-! ### Documents -/

/-- A reader has read something with one property and leaves tokens with another one. -/
def Reads {α : Type} {tokens : List Token} (post : Nat → Json → Prop) (found : α → Prop)
    (read : Option (α × Rest tokens)) : Prop :=
  ∀ result rest, read = some (result, rest) → found result ∧ ∀ token ∈ rest.val, token.Has post

/-- What is read right away has the property if it has it. -/
theorem Reads.some {α : Type} {tokens : List Token} {found : α → Prop} {result : α}
    {rest : Rest tokens} (h : found result) (hrest : ∀ token ∈ rest.val, token.Has post) :
    Reads post found (some (result, rest)) := by
  intro result' rest' heq
  cases heq
  exact ⟨h, hrest⟩

/-- Nothing is read. -/
theorem Reads.none {α : Type} {tokens : List Token} (found : α → Prop) :
    Reads post found (none : Option (α × Rest tokens)) := by
  intro result rest heq
  cases heq

/-- A reader goes on with what another one has read. -/
theorem Reads.bind {α β : Type} {tokens tokens' : List Token} {found : α → Prop}
    {found' : β → Prop} {read : Option (α × Rest tokens)}
    {next : α × Rest tokens → Option (β × Rest tokens')} (h : Reads post found read)
    (hnext : ∀ result rest, found result → (∀ token ∈ rest.val, token.Has post) →
      Reads post found' (next (result, rest))) :
    Reads post found' (read >>= next) := by
  intro last rest' heq
  obtain ⟨⟨result, rest⟩, hread, heq⟩ := Option.bind_eq_some_iff.1 heq
  obtain ⟨hfound, hrest⟩ := h result rest hread
  exact hnext result rest hfound hrest last rest' heq

/-- What is read after a choice that may fail. -/
theorem Reads.after {α β : Type} {tokens : List Token} {found : α → Prop} {choice : Option β}
    {next : β → Option (α × Rest tokens)} (hnext : ∀ chosen, Reads post found (next chosen)) :
    Reads post found (choice >>= next) := by
  intro result rest heq
  obtain ⟨chosen, _, heq⟩ := Option.bind_eq_some_iff.1 heq
  exact hnext chosen result rest heq

mutual

/-- **A value that is read from tokens with the property has it** at the depth at which it is read. -/
theorem Invariant.of_readValue? (inv : Invariant post) (lenient : Bool) (depth : Nat)
    (tokens : List Token) (h : ∀ token ∈ tokens, token.Has post) :
    Reads post (post depth) (readValue? lenient depth tokens) := by
  unfold readValue?
  split
  case h_1 value rest =>
    exact .some (h _ List.mem_cons_self value rfl depth) (List.forall_mem_cons.1 h).2
  case h_2 rest =>
    split
    · exact .some (inv.null depth) (List.forall_mem_cons.1 h).2
    · exact .none _
  case h_3 value rest => exact .some (inv.string depth value) (List.forall_mem_cons.1 h).2
  case h_4 rest =>
    split
    · exact .some (inv.null depth) (List.forall_mem_cons.1 h).2
    · exact .none _
  case h_5 rest =>
    have hrest := (List.forall_mem_cons.1 h).2
    split
    case isTrue => exact .none _
    case isFalse hdepth =>
      obtain ⟨below, rfl⟩ := Nat.exists_eq_succ_of_ne_zero hdepth
      split
      · refine .some (inv.array fun item hitem => absurd hitem List.not_mem_nil) ?_
        exact (List.forall_mem_cons.1 hrest).2
      · refine (inv.of_readItems? lenient below rest hrest).bind ?_
        rintro items ⟨rest, _⟩ hitems hrest
        exact .some (inv.array hitems) hrest
  case h_6 rest =>
    have hrest := (List.forall_mem_cons.1 h).2
    split
    case isTrue => exact .none _
    case isFalse hdepth =>
      obtain ⟨below, rfl⟩ := Nat.exists_eq_succ_of_ne_zero hdepth
      split
      · refine .some (inv.object fun member hmember => absurd hmember List.not_mem_nil) ?_
        exact (List.forall_mem_cons.1 hrest).2
      · refine (inv.of_readMembers? lenient below rest hrest).bind ?_
        rintro members ⟨rest, _⟩ hmembers hrest
        exact .some (inv.object hmembers) hrest
  case h_7 => exact .none _
termination_by 2 * tokens.length
decreasing_by all_goals subst_vars; simp; omega

/-- Items that are read from tokens with the property have it. -/
theorem Invariant.of_readItems? (inv : Invariant post) (lenient : Bool) (depth : Nat)
    (tokens : List Token) (h : ∀ token ∈ tokens, token.Has post) :
    Reads post (fun items => ∀ item ∈ items, post depth item)
      (readItems? lenient depth tokens) := by
  rw [readItems?]
  refine (inv.of_readValue? lenient depth tokens h).bind ?_
  rintro item ⟨rest, shorter⟩ hitem hrest
  dsimp only
  split
  case h_1 =>
    exact .some (List.forall_mem_singleton.2 hitem) (List.forall_mem_cons.1 hrest).2
  case h_2 rest shorter =>
    refine (inv.of_readItems? lenient depth rest (List.forall_mem_cons.1 hrest).2).bind ?_
    rintro items ⟨rest, _⟩ hitems hrest
    exact .some (List.forall_mem_cons.2 ⟨hitem, hitems⟩) hrest
  case h_3 => exact .none _
termination_by 2 * tokens.length + 1
decreasing_by
  · omega
  · simp at shorter
    omega

/-- Members that are read from tokens with the property have it. -/
theorem Invariant.of_readMembers? (inv : Invariant post) (lenient : Bool) (depth : Nat)
    (tokens : List Token) (h : ∀ token ∈ tokens, token.Has post) :
    Reads post (fun members => ∀ member ∈ members, post depth member.2)
      (readMembers? lenient depth tokens) := by
  unfold readMembers?
  split
  case h_1 name rest =>
    have hrest := (List.forall_mem_cons.1 (List.forall_mem_cons.1 h).2).2
    dsimp only
    -- The members are the same, whatever name the first one gets.
    split
    all_goals
      refine .after fun name => (inv.of_readValue? lenient depth rest hrest).bind ?_
      rintro value ⟨rest, shorter⟩ hvalue hrest
      dsimp only
      split
      case h_1 =>
        exact .some (List.forall_mem_singleton.2 hvalue) (List.forall_mem_cons.1 hrest).2
      case h_2 rest shorter =>
        refine (inv.of_readMembers? lenient depth rest (List.forall_mem_cons.1 hrest).2).bind ?_
        rintro members ⟨rest, _⟩ hmembers hrest
        exact .some (List.forall_mem_cons.2 ⟨hvalue, hmembers⟩) hrest
      case h_3 => exact .none _
  case h_2 => exact .none _
termination_by 2 * tokens.length + 1
decreasing_by
  all_goals subst_vars
  · simp
    omega
  · simp at shorter ⊢
    omega
  · simp
    omega
  · simp at shorter ⊢
    omega

end

/-- **A document that is read from a text has the property** at the depth that a reader allows. -/
theorem Invariant.of_ofText? (inv : Invariant post) {text : String} {document : Json}
    (h : ofText? text = some document) : post maxDepth document := by
  obtain ⟨tokens, htokens, h⟩ := Option.bind_eq_some_iff.1 h
  unfold ofTokens? at h
  split at h
  case h_1 value _ hread =>
    cases h
    exact (inv.of_readValue? false maxDepth tokens (inv.of_ofChars? htokens) _ _ hread).1
  case h_2 => cases h

end RecordFilter.Json
