import RecordFilter.Criteria.Text
import RecordFilter.Proofs.Value.Token

namespace RecordFilter

open Text

/-!
# Layouts of a filter text

A filter may be written with more blanks than its canonical text has.

* `ListLayout` — the values between the parentheses of a list, blanks around them.
* `Spaced` — words with one or more spaces between them.
* `Criteria.Layout` — the texts of a filter that differ from the canonical one in blanks only.
* `Criteria.layout_chars` — the canonical text is one of them.
* `Criteria.Layout.balanced` — the search for a closing bracket passes over every one of them.
-/

/-! ### Values and words -/

/-- What may stand between the parentheses of a value list: the tokens of the values with commas
    between them and blanks around them. -/
inductive ListLayout : List Value → List Char → Prop
  /-- A list without values may hold blanks. -/
  | empty {blanks : List Char} (h : allBlank blanks) : ListLayout [] blanks
  /-- The last value. -/
  | last (value : Value) {before after : List Char} (hb : allBlank before) (ha : allBlank after) :
      ListLayout [value] (before ++ value.chars ++ after)
  /-- A value and a comma before the other values. -/
  | cons (value : Value) {next : Value} {values : List Value} {before after text : List Char}
      (hb : allBlank before) (ha : allBlank after) (h : ListLayout (next :: values) text) :
      ListLayout (value :: next :: values) (before ++ value.chars ++ after ++ ',' :: text)

/-- Words with one or more spaces between them, and any number behind them. -/
inductive Spaced : List (List Char) → List Char → Prop
  /-- The last word. -/
  | last (word : List Char) (count : Nat) : Spaced [word] (word ++ List.replicate count ' ')
  /-- A word before the other words. -/
  | cons (word : List Char) (count : Nat) {next : List Char} {words : List (List Char)}
      {text : List Char} (h : Spaced (next :: words) text) :
      Spaced (word :: next :: words) (word ++ ' ' :: (List.replicate count ' ' ++ text))

/-- The words that stand for a test behind the name of its property. Only the value list leaves a
    choice. -/
inductive PropertyTest.Words : PropertyTest → List (List Char) → Prop
  | compare (operator : ComparisonOperator) (value : Value) :
      Words (.compare operator value) [operator.symbol.toList, value.chars]
  | text (function : TextFunction) (argument : Value) :
      Words (.text function argument) [function.name.toList, argument.chars]
  | isNullOrEmpty : Words .isNullOrEmpty [PropertyFunction.isNullOrEmpty.name.toList]
  | between (low high : Value) :
      Words (.between low high) ["between".toList, low.chars, "and".toList, high.chars]
  | oneOf {values : List Value} {text : List Char} (h : ListLayout values text) :
      Words (.oneOf values) ["in".toList, '(' :: (text ++ [')'])]
  | isNull : Words .isNull ["is".toList, "NULL".toList]
  | isNotNull : Words .isNotNull ["is".toList, "not".toList, "NULL".toList]
  | within (interval : DateInterval) : Words (.within interval) [interval.name.toList]

/-- The word between two joined filters. -/
def Connective.word : Connective → List Char
  | .and => "AND".toList
  | .or => "OR".toList

/-! ### Filters -/

/-- The texts of a filter that differ from its canonical text in blanks only: blanks before every
    filter inside it, before closing parentheses and around connectives, and spaces between the
    words of a property test. -/
inductive Criteria.Layout : Criteria → List Char → Prop
  | join (connective : Connective) {left right : Criteria} {l r b₁ b₂ b₃ b₄ : List Char}
      (h₁ : allBlank b₁) (hl : Layout left l) (h₂ : allBlank b₂) (hne₂ : b₂ ≠ [])
      (h₃ : allBlank b₃) (hne₃ : b₃ ≠ []) (hr : Layout right r) (h₄ : allBlank b₄) :
      Layout (connective.join left right)
        ('(' :: (b₁ ++ l ++ b₂ ++ connective.word ++ b₃ ++ r ++ b₄ ++ [')']))
  | not {inner : Criteria} {text b₁ b₂ : List Char} (h₁ : allBlank b₁) (h : Layout inner text)
      (h₂ : allBlank b₂) : Layout (.not inner) ("not (".toList ++ (b₁ ++ text ++ b₂ ++ [')']))
  | property {name : String} {test : PropertyTest} {words : List (List Char)} {text : List Char}
      (count : Nat) (hw : test.Words words) (hs : Spaced (name.toList :: words) text) :
      Layout (.property name test) ('[' :: (List.replicate count ' ' ++ text ++ [']']))
  | any (name : String) {item : Criteria} {text b₁ b₂ : List Char} (h₁ : allBlank b₁)
      (h : Layout item text) (h₂ : allBlank b₂) :
      Layout (.any name item)
        ('[' :: (name.toList ++ ".Any(".toList ++ b₁ ++ text ++ b₂ ++ [')', ']']))
  | currentUser : Layout .currentUser "CurrentUser".toList

/-! ### Canonical texts -/

/-- Two texts of blanks are blank together. -/
theorem allBlank_append {before after : List Char} (hb : allBlank before) (ha : allBlank after) :
    allBlank (before ++ after) := by
  rw [allBlank, List.all_append, Bool.and_eq_true]
  exact ⟨hb, ha⟩

/-- More blanks may stand in front of a value list. -/
theorem ListLayout.append_blanks {values : List Value} {text blanks : List Char}
    (hb : allBlank blanks) (h : ListLayout values text) : ListLayout values (blanks ++ text) := by
  cases h with
  | empty h => exact .empty (allBlank_append hb h)
  | last _ hb' ha =>
    rw [← List.append_assoc, ← List.append_assoc]
    exact .last _ (allBlank_append hb hb') ha
  | cons _ hb' ha h =>
    rw [← List.append_assoc, ← List.append_assoc, ← List.append_assoc]
    exact .cons _ (allBlank_append hb hb') ha h

/-- The canonical form of a value list is a layout of it. -/
theorem listLayout_listChars (values : List Value) :
    ListLayout values (PropertyTest.listChars values) := by
  have hnone : allBlank [] := rfl
  induction values with
  | nil => exact .empty hnone
  | cons value rest ih =>
    cases rest with
    | nil =>
      have h := ListLayout.last value hnone hnone
      rwa [List.nil_append, List.append_nil] at h
    | cons next rest =>
      -- The space behind the comma is taken as one before the next value.
      have hspace : allBlank [' '] := by decide
      have h := ListLayout.cons value hnone hnone (ih.append_blanks hspace)
      rwa [List.nil_append, List.append_nil] at h

/-- One word is spaced. -/
theorem Spaced.single (word : List Char) : Spaced [word] word := by
  have h := Spaced.last word 0
  rwa [List.replicate_zero, List.append_nil] at h

/-- One space separates a word from the next one. -/
theorem Spaced.space (word : List Char) {next : List Char} {words : List (List Char)}
    {text : List Char} (h : Spaced (next :: words) text) :
    Spaced (word :: next :: words) (word ++ ' ' :: text) := by
  have h := Spaced.cons word 0 h
  rwa [List.replicate_zero, List.nil_append] at h

/-- The canonical form of a property test is its words with one space between them. -/
theorem PropertyTest.exists_words (test : PropertyTest) :
    ∃ word words, test.Words (word :: words) ∧ Spaced (word :: words) test.chars := by
  cases test with
  | compare operator value =>
    exact ⟨_, _, .compare operator value, .space _ (.single _)⟩
  | text function argument =>
    exact ⟨_, _, .text function argument, .space _ (.single _)⟩
  | isNullOrEmpty => exact ⟨_, _, .isNullOrEmpty, .single _⟩
  | between low high =>
    refine ⟨_, _, .between low high, ?_⟩
    have h := Spaced.space "between".toList
      (.space low.chars (.space "and".toList (.single high.chars)))
    simpa using h
  | oneOf values =>
    refine ⟨_, _, .oneOf (listLayout_listChars values), ?_⟩
    have h := Spaced.space "in".toList (.single ('(' :: (listChars values ++ [')'])))
    simpa using h
  | isNull => exact ⟨_, _, .isNull, .space "is".toList (.single "NULL".toList)⟩
  | isNotNull =>
    exact ⟨_, _, .isNotNull, .space "is".toList (.space "not".toList (.single "NULL".toList))⟩
  | within interval => exact ⟨_, _, .within interval, .single _⟩

/-- **The canonical text of a filter is a layout of it.** -/
theorem Criteria.layout_chars (criteria : Criteria) : Layout criteria criteria.chars := by
  have hnone : allBlank [] := rfl
  have hspace : allBlank [' '] := by decide
  have hone : [' '] ≠ [] := by decide
  induction criteria with
  | and left right hl hr =>
    have h := Layout.join .and hnone hl hspace hone hspace hone hr hnone
    simpa [Connective.word, Connective.join] using h
  | or left right hl hr =>
    have h := Layout.join .or hnone hl hspace hone hspace hone hr hnone
    simpa [Connective.word, Connective.join] using h
  | not inner ih =>
    have h := Layout.not hnone ih hnone
    simpa using h
  | property name test =>
    obtain ⟨word, words, hw, hs⟩ := test.exists_words
    have h := Layout.property 0 hw (.space name.toList hs)
    simpa using h
  | any name item ih =>
    have h := Layout.any name hnone ih hnone
    simpa using h
  | currentUser => exact .currentUser

/-! ### What the scans pass over -/

/-- The search for a closing bracket passes over blanks. -/
theorem passes_brackets_of_allBlank {blanks : List Char} (h : allBlank blanks) (depth : Nat) :
    Scan.brackets.Passes (.outside, depth) blanks (.outside, depth) := by
  refine Scan.passes_brackets_of_forall (fun c hc hmem => ?_) depth
  have hdelimiters : ∀ d ∈ ['[', ']', '\'', '#'], isBlank d = false := by decide
  exact ne_of_test (List.all_eq_true.1 h c hc) (hdelimiters c hmem) rfl

/-- Inside parentheses the scan for tokens passes over blanks. -/
theorem passes_tokens_of_allBlank {blanks : List Char} (h : allBlank blanks) (parentheses : Nat) :
    Scan.tokens.Passes ⟨.outside, parentheses + 1⟩ blanks ⟨.outside, parentheses + 1⟩ := by
  refine .of_forall fun c hc => ?_
  have hblank : isBlank c = true := List.all_eq_true.1 h c hc
  have hopen := ne_of_test hblank (show isBlank '(' = false by decide)
  have hclose := ne_of_test hblank (show isBlank ')' = false by decide)
  have hquote := ne_of_test hblank (show isBlank '\'' = false by decide)
  have hhash := ne_of_test hblank (show isBlank '#' = false by decide)
  simp [Scan.tokens, TokenState.after, TokenState.separates, LiteralState.after, hopen, hclose,
    hquote, hhash]

/-- The scan for list items passes over blanks. -/
theorem passes_items_of_allBlank {blanks : List Char} (h : allBlank blanks) :
    Scan.items.Passes .outside blanks .outside := by
  refine .of_forall fun c hc => ?_
  have hblank : isBlank c = true := List.all_eq_true.1 h c hc
  have hcomma := ne_of_test hblank (show isBlank ',' = false by decide)
  have hquote := ne_of_test hblank (show isBlank '\'' = false by decide)
  have hhash := ne_of_test hblank (show isBlank '#' = false by decide)
  simp [Scan.items, LiteralState.after, hcomma, hquote, hhash]

/-- A scan that passes over blanks, value tokens and commas passes over a value list. -/
theorem ListLayout.passes {σ : Type} {scan : Scan σ} {state : σ} {values : List Value}
    {text : List Char} (h : ListLayout values text)
    (hblank : ∀ blanks, allBlank blanks → scan.Passes state blanks state)
    (hvalue : ∀ value : Value, scan.Passes state value.chars state)
    (hcomma : scan.Passes state [','] state) : scan.Passes state text state := by
  induction h with
  | empty h => exact hblank _ h
  | last value hb ha => exact ((hblank _ hb).append (hvalue value)).append (hblank _ ha)
  | cons value hb ha _ ih =>
    refine (((hblank _ hb).append (hvalue value)).append (hblank _ ha)).append ?_
    exact hcomma.append ih

/-- Every word of a property test keeps its delimiters inside literals, or is a value list in
    parentheses. -/
theorem PropertyTest.Words.plain_or_list {test : PropertyTest} {words : List (List Char)}
    (h : test.Words words) : ∀ word ∈ words,
      (word ≠ [] ∧ Scan.literals.Passes .outside word .outside)
        ∨ ∃ values text, ListLayout values text ∧ word = '(' :: (text ++ [')']) := by
  have hplain : ∀ {word : List Char}, (word ≠ [] ∧ ∀ c ∈ word, isPlain c = true) →
      word ≠ [] ∧ Scan.literals.Passes .outside word .outside :=
    fun ⟨hne, hword⟩ => ⟨hne, Value.passes_of_isPlain hword⟩
  have hvalue : ∀ value : Value,
      value.chars ≠ [] ∧ Scan.literals.Passes .outside value.chars .outside :=
    fun value => ⟨value.chars_ne_nil, value.passes_chars⟩
  cases h <;>
    simp only [List.forall_mem_cons, List.not_mem_nil, false_imp_iff, implies_true, and_true]
  case compare operator value =>
    exact ⟨Or.inl (hplain (by cases operator <;> decide +kernel)), Or.inl (hvalue value)⟩
  case text function argument =>
    exact ⟨Or.inl (hplain (by cases function <;> decide +kernel)), Or.inl (hvalue argument)⟩
  case isNullOrEmpty => exact Or.inl (hplain (by decide +kernel))
  case between low high =>
    exact ⟨Or.inl (hplain (by decide +kernel)), Or.inl (hvalue low),
      Or.inl (hplain (by decide +kernel)), Or.inl (hvalue high)⟩
  case oneOf values text hlist =>
    exact ⟨Or.inl (hplain (by decide +kernel)), Or.inr ⟨values, text, hlist, rfl⟩⟩
  case isNull =>
    exact ⟨Or.inl (hplain (by decide +kernel)), Or.inl (hplain (by decide +kernel))⟩
  case isNotNull =>
    exact ⟨Or.inl (hplain (by decide +kernel)), Or.inl (hplain (by decide +kernel)),
      Or.inl (hplain (by decide +kernel))⟩
  case within interval => exact Or.inl (hplain (by cases interval <;> decide +kernel))

/-- Every word of a property test is one token. -/
theorem PropertyTest.Words.isToken {test : PropertyTest} {words : List (List Char)}
    (h : test.Words words) : ∀ word ∈ words, Span.IsToken word := by
  intro word hword
  rcases h.plain_or_list word hword with ⟨hne, hpass⟩ | ⟨values, text, hlist, rfl⟩
  · exact ⟨hne, hpass.tokens 0⟩
  · refine ⟨List.cons_ne_nil _ _, ?_⟩
    -- The parenthesis that opens the list keeps the spaces and commas in it from being looked at.
    have hbody : Scan.tokens.Passes ⟨.outside, 1⟩ text ⟨.outside, 1⟩ :=
      hlist.passes (fun _ hb => passes_tokens_of_allBlank hb 0)
        (fun value => value.passes_chars.tokens 1) (.single rfl)
    exact .cons rfl (hbody.append (.single rfl))

/-- A word of plain characters is one token. -/
theorem isToken_of_isPlain {word : List Char} (hne : word ≠ []) (h : ∀ c ∈ word, isPlain c = true) :
    Span.IsToken word :=
  ⟨hne, (Value.passes_of_isPlain h).tokens 0⟩

/-- The name of a property is one token. -/
theorem isToken_name {name : String} (h : IsPropertyName name) : Span.IsToken name.toList :=
  isToken_of_isPlain h.1 fun c hc => isPlain_of_isNameChar (h.2 c hc)

/-- The search for a closing bracket passes over every word of a property test. -/
theorem PropertyTest.Words.balanced {test : PropertyTest} {words : List (List Char)}
    (h : test.Words words) (depth : Nat) :
    ∀ word ∈ words, Scan.brackets.Passes (.outside, depth) word (.outside, depth) := by
  intro word hword
  -- This scan does not count parentheses, so a value list is passed over piece by piece.
  rcases h.plain_or_list word hword with ⟨_, hpass⟩ | ⟨values, text, hlist, rfl⟩
  · exact hpass.brackets depth
  · have hopen : Scan.brackets.Passes (.outside, depth) ['('] (.outside, depth) :=
      .single (by simp [Scan.brackets])
    have hclose : Scan.brackets.Passes (.outside, depth) [')'] (.outside, depth) :=
      .single (by simp [Scan.brackets])
    refine hopen.append ((hlist.passes ?_ ?_ ?_).append hclose)
    · exact fun _ hb => passes_brackets_of_allBlank hb depth
    · exact fun value => value.passes_chars.brackets depth
    · exact .single (by simp [Scan.brackets])

/-- A scan that passes over words and spaces passes over spaced words. -/
theorem Spaced.passes {σ : Type} {scan : Scan σ} {state : σ} {words : List (List Char)}
    {text : List Char} (h : Spaced words text)
    (hword : ∀ word ∈ words, scan.Passes state word state)
    (hspaces : ∀ count, scan.Passes state (List.replicate count ' ') state) :
    scan.Passes state text state := by
  induction h with
  | last word count =>
    exact (hword word List.mem_cons_self).append (hspaces count)
  | cons word count _ ih =>
    refine (hword word List.mem_cons_self).append ?_
    rw [← List.cons_append]
    exact (hspaces (count + 1)).append (ih fun w hw => hword w (List.mem_cons_of_mem _ hw))

/-- **The tokens of spaced words are the words.** -/
theorem Spaced.map_chars_tokens {words : List (List Char)} {text : List Char}
    (h : Spaced words text) (hword : ∀ word ∈ words, Span.IsToken word) (position : Nat) :
    (⟨position, text⟩ : Span).tokens.map Span.chars = words := by
  induction h generalizing position with
  | last word count =>
    have htoken := hword word List.mem_cons_self
    cases count with
    | zero =>
      rw [List.replicate_zero, List.append_nil, Span.tokens_last htoken, List.map_singleton]
    | succ count =>
      have hspaces := Span.tokens_spaces count (position + byteLength word + 1) []
      rw [List.append_nil] at hspaces
      rw [List.replicate_succ, Span.tokens_cons htoken, hspaces, Span.tokens_nil,
        List.map_singleton]
  | cons word count _ ih =>
    have htoken := hword word List.mem_cons_self
    rw [Span.tokens_cons htoken, Span.tokens_spaces, List.map_cons,
      ih fun w hw => hword w (List.mem_cons_of_mem _ hw)]

/-- Joined filters are well-formed together. -/
theorem Connective.wellFormed_join (connective : Connective) (left right : Criteria) :
    (connective.join left right).WellFormed ↔ left.WellFormed ∧ right.WellFormed := by
  cases connective <;> rfl

/-- The search for a closing bracket passes over words without delimiters. -/
theorem passes_brackets_word {word : List Char}
    (h : ∀ c ∈ word, isPlain c = true ∨ c ∈ ['(', ')', ' ']) (depth : Nat) :
    Scan.brackets.Passes (.outside, depth) word (.outside, depth) := by
  refine Scan.passes_brackets_of_forall (fun c hc hmem => ?_) depth
  have hplain : ∀ d ∈ ['[', ']', '\'', '#'], isPlain d = false := by decide
  rcases h c hc with hc | hc
  -- No delimiter is plain, and parentheses and spaces are none for this scan.
  · exact ne_of_test hc (hplain c hmem) rfl
  · simp only [List.mem_cons, List.not_mem_nil, or_false] at hc hmem
    rcases hc with rfl | rfl | rfl <;> simp at hmem

/-- The search for a closing bracket passes over property names. -/
theorem passes_brackets_name {name : String} (h : IsPropertyName name) (depth : Nat) :
    Scan.brackets.Passes (.outside, depth) name.toList (.outside, depth) :=
  passes_brackets_word (fun c hc => Or.inl (isPlain_of_isNameChar (h.2 c hc))) depth

/-- The search for a closing bracket passes over a property test between brackets. -/
theorem PropertyTest.Words.balanced_spaced {name : String} {test : PropertyTest}
    {words : List (List Char)} {text : List Char} (hn : IsPropertyName name) (hw : test.Words words)
    (hs : Spaced (name.toList :: words) text) (count depth : Nat) :
    Scan.brackets.Passes (.outside, depth) (List.replicate count ' ' ++ text)
      (.outside, depth) := by
  have hspaces : ∀ count,
      Scan.brackets.Passes (.outside, depth) (List.replicate count ' ') (.outside, depth) := by
    intro count
    refine passes_brackets_word (fun c hc => Or.inr ?_) depth
    rw [List.eq_of_mem_replicate hc]
    decide
  refine (hspaces count).append (hs.passes ?_ hspaces)
  intro word hmem
  rcases List.mem_cons.1 hmem with rfl | hmem
  · exact passes_brackets_name hn depth
  · exact hw.balanced depth word hmem

/-- The search for a closing bracket passes over a test of items between brackets if it passes over
    the filter in it. -/
theorem passes_brackets_any {name : String} {text b₁ b₂ : List Char} {depth : Nat}
    (hn : IsPropertyName name) (h₁ : allBlank b₁) (h₂ : allBlank b₂)
    (h : Scan.brackets.Passes (.outside, depth) text (.outside, depth)) :
    Scan.brackets.Passes (.outside, depth)
      (name.toList ++ ".Any(".toList ++ b₁ ++ text ++ b₂ ++ [')']) (.outside, depth) :=
  (((((passes_brackets_name hn depth).append (passes_brackets_word (by decide) depth)).append
    (passes_brackets_of_allBlank h₁ depth)).append h).append
      (passes_brackets_of_allBlank h₂ depth)).append (passes_brackets_word (by decide) depth)

/-- **The search for a closing bracket passes over every layout of a filter**, however many brackets
    are open before it. -/
theorem Criteria.Layout.balanced {criteria : Criteria} {text : List Char} (h : Layout criteria text)
    (hwf : criteria.WellFormed) (depth : Nat) :
    Scan.brackets.Passes (.outside, depth) text (.outside, depth) := by
  have hbracket : ∀ {body : List Char} {depth : Nat},
      Scan.brackets.Passes (.outside, depth + 1) body (.outside, depth + 1) →
        Scan.brackets.Passes (.outside, depth) ('[' :: (body ++ [']'])) (.outside, depth) := by
    intro body depth hbody
    exact .cons (by simp [Scan.brackets]) (hbody.append (.single (by simp [Scan.brackets])))
  induction h generalizing depth with
  | join connective h₁ hl h₂ _ h₃ _ hr h₄ ihl ihr =>
    obtain ⟨hwl, hwr⟩ := (connective.wellFormed_join _ _).1 hwf
    have hword : ∀ c ∈ connective.word, isPlain c = true ∨ c ∈ ['(', ')', ' '] := by
      cases connective <;> decide
    have hbefore := (passes_brackets_word (show ∀ c ∈ ['('], _ by decide) depth).append
      (passes_brackets_of_allBlank h₁ depth)
    have hbetween := ((passes_brackets_of_allBlank h₂ depth).append
      (passes_brackets_word hword depth)).append (passes_brackets_of_allBlank h₃ depth)
    have hafter := (passes_brackets_of_allBlank h₄ depth).append
      (passes_brackets_word (show ∀ c ∈ [')'], _ by decide) depth)
    have h := (((hbefore.append (ihl hwl depth)).append hbetween).append
      (ihr hwr depth)).append hafter
    simpa only [List.append_assoc, List.cons_append, List.nil_append] using h
  | not h₁ h h₂ ih =>
    have hbefore := (passes_brackets_word (show ∀ c ∈ "not (".toList, _ by decide) depth).append
      (passes_brackets_of_allBlank h₁ depth)
    have hafter := (passes_brackets_of_allBlank h₂ depth).append
      (passes_brackets_word (show ∀ c ∈ [')'], _ by decide) depth)
    simpa only [List.append_assoc] using (hbefore.append (ih hwf depth)).append hafter
  | property count hw hs => exact hbracket (hw.balanced_spaced hwf hs count (depth + 1))
  | any name h₁ h h₂ ih =>
    -- One more bracket is open before the filter of the items.
    have hbody := hbracket (passes_brackets_any hwf.1 h₁ h₂ (ih hwf.2 (depth + 1)))
    simpa only [List.append_assoc, List.cons_append, List.nil_append] using hbody
  | currentUser => exact passes_brackets_word (by decide) depth

end RecordFilter
