import RecordFilter.Proofs.Grammar.Layout
import RecordFilter.Proofs.Grammar.Reading
import RecordFilter.Proofs.Grammar.Reread

namespace RecordFilter

open Text

/-!
# What every layout of a filter is read as

A layout is read as the filter with its values as they are read from their tokens, and not at all if one
of them is not. So it reads back if the values do.

* `propertyCriteria_layout` — what a layout of a property test is read as.
* `readExpression_layout` — what a layout of a filter is read as, whatever follows it.
* `Criteria.toOption_parse_layout` — what a text is read as that holds nothing else but blanks.
* `Criteria.parse_layout` — it reads back if its values do.
* `Criteria.parse_text_eq_ok_self_iff` — a canonical text reads back exactly if its values do.

The statements leave out which failure it is, as it depends on where the text stands.
-/

/-! ### Blanks -/

/-- Blanks before a character that is none are dropped. -/
theorem Span.skipBlanks_append {before : List Char} {c : Char} (hb : allBlank before)
    (hc : isBlank c = false) (position : Nat) (rest : List Char) :
    (⟨position, before ++ c :: rest⟩ : Span).skipBlanks
      = ⟨position + byteLength before, c :: rest⟩ := by
  have hblank : ∀ d ∈ before, isBlank d = true := List.all_eq_true.1 hb
  simp only [skipBlanks, dropWhile, List.takeWhile_append_of_pos hblank,
    List.dropWhile_append_of_pos hblank, List.takeWhile_cons, List.dropWhile_cons, hc,
    Bool.false_eq_true, if_false, List.append_nil]

/-- Blanks behind a character that is none are dropped. -/
theorem trimEnd_append {front after : List Char} {c : Char} (ha : allBlank after)
    (hc : isBlank c = false) : trimEnd (front ++ [c] ++ after) = front ++ [c] := by
  have hblank : ∀ d ∈ after.reverse, isBlank d = true :=
    fun d hd => List.all_eq_true.1 ha d (List.mem_reverse.1 hd)
  rw [trimEnd, List.reverse_append, List.dropWhile_append_of_pos hblank, List.reverse_append,
    List.reverse_singleton, List.singleton_append, List.dropWhile_cons, if_neg (by simp [hc]),
    List.reverse_cons, List.reverse_reverse]

/-- Blanks around a text that neither begins nor ends with one are dropped. -/
theorem Span.trim_append {before text after : List Char} {c d : Char} (hb : allBlank before)
    (ha : allBlank after) (hhead : text.head? = some c) (hlast : text.getLast? = some d)
    (hc : isBlank c = false) (hd : isBlank d = false) (position : Nat) :
    (⟨position, before ++ text ++ after⟩ : Span).trim = ⟨position + byteLength before, text⟩ := by
  obtain ⟨rest, hcons⟩ := List.head?_eq_some_iff.1 hhead
  obtain ⟨front, hconcat⟩ := List.getLast?_eq_some_iff.1 hlast
  have hskip : (⟨position, before ++ text ++ after⟩ : Span).skipBlanks
      = ⟨position + byteLength before, text ++ after⟩ := by
    rw [hcons, List.append_assoc, List.cons_append]
    exact skipBlanks_append hb hc position (rest ++ after)
  have htrim : trimEnd (text ++ after) = text := by
    rw [hconcat]
    exact trimEnd_append ha hd
  rw [trim, hskip]
  simp only [htrim]

/-- Blanks around a token are dropped. -/
theorem Span.trim_token {before after : List Char} (hb : allBlank before) (ha : allBlank after)
    (value : Value) (position : Nat) :
    (⟨position, before ++ value.chars ++ after⟩ : Span).trim
      = ⟨position + byteLength before, value.chars⟩ := by
  obtain ⟨first, rest, hcons, hfirst⟩ := value.exists_chars_eq_cons
  obtain ⟨front, last, hconcat, hlast⟩ := value.exists_chars_eq_concat
  exact trim_append hb ha (List.head?_eq_some_iff.2 ⟨rest, hcons⟩)
    (List.getLast?_eq_some_iff.2 ⟨front, hconcat⟩) hfirst hlast position

/-! ### Value lists -/

/-- The items of a value list are read one by one. -/
theorem mapM_listItems (culture : Culture) {values : List Value} {text : List Char}
    (h : ListLayout values text) (hne : values ≠ []) (position : Nat) :
    ((⟨position, text⟩ : Span).listItems.mapM fun item => Value.ofToken culture item.trim).toOption
      = values.mapM (Value.reread? culture) := by
  have hitem : ∀ {before after : List Char} (value : Value), allBlank before → allBlank after →
      Scan.items.Passes .outside (before ++ value.chars ++ after) .outside :=
    fun value hb ha => ((passes_items_of_allBlank hb).append value.passes_chars.items).append
      (passes_items_of_allBlank ha)
  induction h generalizing position with
  | empty => exact absurd rfl hne
  | last value hb ha =>
    rw [Span.listItems_last (hitem value hb ha), List.mapM_cons, List.mapM_cons, toOption_bind,
      Span.trim_token hb ha, value.toOption_ofToken]
    rfl
  | cons value hb ha _ ih =>
    rw [Span.listItems_cons (hitem value hb ha), List.mapM_cons, List.mapM_cons, toOption_bind,
      Span.trim_token hb ha, value.toOption_ofToken, ← ih (List.cons_ne_nil _ _)]
    simp only [toOption_bind]
    rfl

/-- Blanks alone are no value list but the empty one. -/
theorem ListLayout.allBlank_eq_false {values : List Value} {text : List Char}
    (h : ListLayout values text) (hne : values ≠ []) : allBlank text = false := by
  have hfirst : ∀ value : Value, ∃ c ∈ value.chars, isBlank c = false := by
    intro value
    obtain ⟨first, rest, hcons, hfirst⟩ := value.exists_chars_eq_cons
    exact ⟨first, by simp [hcons], hfirst⟩
  cases h with
  | empty => exact absurd rfl hne
  | last value =>
    obtain ⟨c, hc, hblank⟩ := hfirst value
    exact RecordFilter.allBlank_eq_false (by simp [hc]) hblank
  | cons value =>
    obtain ⟨c, hc, hblank⟩ := hfirst value
    exact RecordFilter.allBlank_eq_false (by simp [hc]) hblank

/-- Every layout of a value list is read value by value. -/
theorem valueList_layout (culture : Culture) {values : List Value} {text : List Char}
    (h : ListLayout values text) (position : Nat) :
    (valueList culture ⟨position, '(' :: (text ++ [')'])⟩).toOption
      = values.mapM (Value.reread? culture) := by
  unfold valueList
  simp only [List.getLast?_concat, List.dropLast_concat, if_true]
  -- A blank list would also be one blank item, so it is looked at first.
  by_cases hne : values = []
  · subst hne
    cases h with
    | empty hb =>
      rw [if_pos hb]
      rfl
  · rw [if_neg (by simp [h.allBlank_eq_false hne]), mapM_listItems culture h hne]

/-! ### Property tests -/

/-- What the words of a property test are read as. -/
theorem propertyTest_words (culture : Culture) {test : PropertyTest} {word : List Char}
    {words : List (List Char)} (hw : test.Words (word :: words)) (body : Span) {operator : Span}
    {operands : List Span} (ho : operator.chars = word) (hs : operands.map Span.chars = words) :
    (propertyTest culture body operator operands).toOption = test.reread? culture := by
  have htext : operator.text = String.ofList word := by rw [Span.text, ho]
  have htexts : operands.map Span.text = words.map String.ofList := by
    rw [← hs, List.map_map]
    rfl
  have hone : ∀ {chars : List Char}, operands.map Span.chars = [chars] →
      ∃ position, operands = [⟨position, chars⟩] := by
    intro chars h
    obtain ⟨operand, rfl, rfl⟩ := List.map_eq_singleton_iff.1 h
    exact ⟨operand.start, rfl⟩
  unfold propertyTest
  rw [htext]
  cases hw with
  | compare comparison value =>
    obtain ⟨position, rfl⟩ := hone hs
    have hlookup : ComparisonOperator.ofSymbol? comparison.symbol = some comparison := by
      cases comparison <;> decide
    simp only [String.ofList_toList, hlookup, oneOperand, ok_bind, toOption_bind,
      value.toOption_ofToken]
    exact Option.map_eq_bind.symm
  | text function argument =>
    obtain ⟨position, rfl⟩ := hone hs
    have hsymbol : ComparisonOperator.ofSymbol? function.name = none := by
      cases function <;> decide
    have hlookup : PropertyFunction.ofName? function.name = some (.text function) := by
      cases function <;> decide
    simp only [String.ofList_toList, hsymbol, hlookup, oneOperand, ok_bind, toOption_bind,
      argument.toOption_ofToken]
    exact Option.map_eq_bind.symm
  | isNullOrEmpty =>
    obtain rfl := List.map_eq_nil_iff.1 hs
    rfl
  | between low high =>
    obtain ⟨⟨p₁, _⟩, rest₁, rfl, rfl, hs₁⟩ := List.map_eq_cons_iff.1 hs
    obtain ⟨⟨p₂, _⟩, rest₂, rfl, rfl, hs₂⟩ := List.map_eq_cons_iff.1 hs₁
    obtain ⟨⟨p₃, _⟩, rfl, rfl⟩ := List.map_eq_singleton_iff.1 hs₂
    -- The word in the middle is compared with the conjunction and dropped.
    show (do
      let found ← Value.ofToken culture ⟨p₁, low.chars⟩
      return PropertyTest.between found (← Value.ofToken culture ⟨p₃, high.chars⟩)).toOption = _
    simp only [toOption_bind, low.toOption_ofToken, high.toOption_ofToken]
    rfl
  | @oneOf values text hlist =>
    obtain ⟨position, rfl⟩ := hone hs
    show (do
      return PropertyTest.oneOf
        (← valueList culture ⟨position, '(' :: (text ++ [')'])⟩)).toOption = _
    rw [toOption_bind, valueList_layout culture hlist]
    exact Option.map_eq_bind.symm
  | isNull =>
    simp only [htexts]
    rfl
  | isNotNull =>
    simp only [htexts]
    rfl
  | within interval =>
    obtain rfl := List.map_eq_nil_iff.1 hs
    cases interval <;> rfl

/-- What every layout of a property test is read as. -/
theorem propertyCriteria_layout (culture : Culture) {name : String} {test : PropertyTest}
    {words : List (List Char)} {text : List Char} (hn : IsPropertyName name) (hw : test.Words words)
    (hs : Spaced (name.toList :: words) text) (count position : Nat) :
    (propertyCriteria culture ⟨position, List.replicate count ' ' ++ text⟩).toOption
      = (test.reread? culture).map (.property name) := by
  have htokens := hs.map_chars_tokens (List.forall_mem_cons.2 ⟨isToken_name hn, hw.isToken⟩)
    (position + count)
  obtain ⟨word, rest, rfl⟩ : ∃ word rest, words = word :: rest := by
    cases hw <;> exact ⟨_, _, rfl⟩
  obtain ⟨⟨p₁, _⟩, rest₁, heq₁, rfl, htokens₁⟩ := List.map_eq_cons_iff.1 htokens
  obtain ⟨⟨p₂, _⟩, rest₂, rfl, rfl, htokens₂⟩ := List.map_eq_cons_iff.1 htokens₁
  have hleaf : ∀ found : PropertyTest,
      (Criteria.ofTest (String.ofList name.toList) found).toOption = some (.property name found) := by
    intro found
    rw [String.ofList_toList, Criteria.ofTest, checkPropertyName_eq_ok.2 hn]
    rfl
  unfold propertyCriteria
  rw [Span.tokens_spaces, heq₁]
  dsimp only
  simp only [toOption_bind, propertyTest_words culture hw _ rfl htokens₂, Span.text, hleaf]
  exact Option.map_eq_bind.symm

/-! ### Brackets -/

/-- A name and a space are no test of items. -/
theorem Span.itemsTest?_of_space {lead : List Char} (h : ∀ c ∈ lead, isNameChar c = true)
    (position : Nat) (rest : List Char) :
    (⟨position, lead ++ ' ' :: rest⟩ : Span).itemsTest? = none := by
  have hspace : isNameChar ' ' = false := by decide +kernel
  unfold itemsTest?
  simp only [List.dropWhile_append_of_pos h, List.dropWhile_cons, hspace, Bool.false_eq_true,
    if_false]
  rfl

/-- A test of items is recognised, and its filter is what stands between the parentheses. -/
theorem Span.itemsTest?_any {name : String} (hn : IsPropertyName name) (position : Nat)
    (inner : List Char) :
    ∃ start, (⟨position, name.toList ++ (".Any(".toList ++ (inner ++ [')']))⟩ : Span).itemsTest?
      = some (name, ⟨start, inner⟩) := by
  have hparenthesis : isNameChar '(' = false := by decide +kernel
  have hany : ∀ c ∈ ".Any".toList, isNameChar c = true := by decide +kernel
  have hlead : ∀ c ∈ name.toList ++ ".Any".toList, isNameChar c = true := by
    intro c hc
    rcases List.mem_append.1 hc with hc | hc
    · exact hn.2 c hc
    · exact hany c hc
  have hlength : (name.toList ++ ".Any".toList).length - 4 = name.toList.length := by
    rw [List.length_append]
    rfl
  have htext : name.toList ++ (".Any(".toList ++ (inner ++ [')']))
      = name.toList ++ ".Any".toList ++ '(' :: (inner ++ [')']) := by
    rw [List.append_assoc]
    rfl
  unfold itemsTest?
  rw [htext]
  simp only [List.dropWhile_append_of_pos hlead, List.takeWhile_append_of_pos hlead,
    List.dropWhile_cons, List.takeWhile_cons, hparenthesis, Bool.false_eq_true, if_false,
    List.append_nil, hlength, List.take_left, List.getLast?_concat, List.dropLast_concat]
  rw [if_pos ⟨trivial, hn.1, trivial⟩, String.ofList_toList]
  exact ⟨_, rfl⟩

/-! ### Words and blanks around filters -/

/-- A closing parenthesis is found behind blanks. -/
theorem readClosing_append {blanks : List Char} (h : allBlank blanks) (fault : ParseFault)
    (position : Nat) (rest : List Char) :
    readClosing fault ⟨position, blanks ++ ')' :: rest⟩
      = .ok ⟨position + byteLength blanks + 1, rest⟩ := by
  rw [readClosing_eq, Span.skipBlanks_append h (by decide)]
  rfl

/-- Nothing but blanks is the end of a text. -/
theorem endOfText_of_allBlank {blanks : List Char} (h : allBlank blanks) (position : Nat) :
    endOfText ⟨position, blanks⟩ = .ok () := by
  have hempty : (⟨position, blanks⟩ : Span).skipBlanks.chars = [] :=
    List.dropWhile_eq_nil_iff.2 (List.all_eq_true.1 h)
  rw [endOfText, hempty]
  rfl

/-- Letters are word characters. -/
theorem isWord_of_isLetter {c : Char} (h : isLetter c = true) : isWord c = true := by
  simp only [isLetter, Bool.or_eq_true, Bool.and_eq_true, decide_eq_true_eq, Char.le_def,
    UInt32.le_iff_toNat_le] at h
  have hcode : 97 ≤ c.toNat ∧ c.toNat ≤ 122 ∨ 65 ≤ c.toNat ∧ c.toNat ≤ 90 := h
  unfold isWord CodeSet.contains wordCharacters
  rw [CodeSet.containsCode, if_neg (by omega), if_neg (by omega), CodeSet.containsCode,
    if_neg (by omega)]
  rcases hcode with hlower | hupper
  · rw [if_neg (by omega), CodeSet.containsCode, if_neg (by omega), if_neg (by omega),
      CodeSet.containsCode, if_neg (by omega), if_pos (by omega)]
  · rw [if_pos (by omega)]

/-- A blank ends a word. -/
theorem not_isLetter_of_isBlank {c : Char} (h : isBlank c = true) : isLetter c = false := by
  rw [Bool.eq_false_iff]
  intro hletter
  have hword := isWord_of_isLetter hletter
  rw [not_isWord_of_isBlank h] at hword
  exact absurd hword (by decide)

/-- A connective between blanks is found, and what is left begins behind it. -/
theorem connective_append (joined : Connective) {before after : List Char} (hb : allBlank before)
    (ha : allBlank after) (hne : after ≠ []) (position : Nat) (rest : List Char) :
    ∃ start, connective ⟨position, before ++ (joined.word ++ (after ++ rest))⟩ = .ok joined
      ∧ afterWord ⟨position, before ++ (joined.word ++ (after ++ rest))⟩
          = ⟨start, after ++ rest⟩ := by
  obtain ⟨blank, after, rfl⟩ := List.exists_cons_of_ne_nil hne
  have hstop : isLetter blank = false :=
    not_isLetter_of_isBlank (List.all_eq_true.1 ha blank List.mem_cons_self)
  have hletters : ∀ c ∈ joined.word, isLetter c = true := by cases joined <;> decide
  obtain ⟨first, letters, hword, hfirst⟩ :
      ∃ first letters, joined.word = first :: letters ∧ isBlank first = false := by
    cases joined <;> exact ⟨_, _, rfl, by decide⟩
  have hskip : (⟨position, before ++ (joined.word ++ (blank :: after ++ rest))⟩ : Span).skipBlanks
      = ⟨position + byteLength before, joined.word ++ (blank :: after ++ rest)⟩ := by
    rw [hword]
    exact Span.skipBlanks_append hb hfirst position _
  have htake : (joined.word ++ (blank :: after ++ rest)).takeWhile isLetter = joined.word := by
    rw [List.takeWhile_append_of_pos hletters, List.cons_append, List.takeWhile_cons, hstop]
    simp
  have hdrop : (joined.word ++ (blank :: after ++ rest)).dropWhile isLetter
      = blank :: after ++ rest := by
    rw [List.dropWhile_append_of_pos hletters, List.cons_append, List.dropWhile_cons, hstop]
    simp
  have hfound : connective ⟨position, before ++ (joined.word ++ (blank :: after ++ rest))⟩
      = .ok joined := by
    unfold connective
    simp only [hskip, htake]
    cases joined <;> rfl
  obtain ⟨start, hleft⟩ : ∃ start,
      afterWord ⟨position, before ++ (joined.word ++ (blank :: after ++ rest))⟩
        = ⟨start, blank :: after ++ rest⟩ := by
    rw [afterWord, hskip, Span.dropWhile, hdrop]
    exact ⟨_, rfl⟩
  exact ⟨start, hfound, hleft⟩

/-! ### Filters -/

/-- What a property test between brackets is read as. -/
theorem readBracketed_property (culture : Culture) {name : String} {test : PropertyTest}
    {words : List (List Char)} {text : List Char} (hn : IsPropertyName name) (hw : test.Words words)
    (hs : Spaced (name.toList :: words) text) (count position : Nat) :
    (readBracketed culture ⟨position, List.replicate count ' ' ++ text⟩).toOption
      = (test.reread? culture).map (.property name) := by
  -- The name, or nothing, is followed by a space and not by a parenthesis.
  obtain ⟨lead, more, heq, hlead⟩ :
      ∃ lead more, List.replicate count ' ' ++ text = lead ++ ' ' :: more
        ∧ ∀ c ∈ lead, isNameChar c = true := by
    cases count with
    | zero =>
      cases hs with
      | last => cases hw
      | cons word count h => exact ⟨name.toList, _, rfl, hn.2⟩
    | succ count => exact ⟨[], List.replicate count ' ' ++ text, rfl, by simp⟩
  have hitems := Span.itemsTest?_of_space hlead position more
  rw [← heq] at hitems
  unfold readBracketed
  rw [hitems]
  exact propertyCriteria_layout culture hn hw hs count position

/-- A test of items between brackets is read as the test of what its filter is read as. -/
theorem readBracketed_any {culture : Culture} {name : String} {found : Option Criteria}
    {inner blanks : List Char} (hn : IsPropertyName name) (hb : allBlank blanks)
    (hread : ∀ position, ∃ start, (readExpression culture ⟨position, inner⟩).toOption
      = found.map fun item => (item, ⟨start, blanks⟩)) (position : Nat) :
    (readBracketed culture
        ⟨position, name.toList ++ (".Any(".toList ++ (inner ++ [')']))⟩).toOption
      = found.map (.any name) := by
  obtain ⟨p₁, hitems⟩ := Span.itemsTest?_any hn position inner
  -- The filter is read from where it stands in the whole text.
  obtain ⟨p₂, hread⟩ := hread p₁
  unfold readBracketed
  rw [hitems]
  dsimp only
  rw [toOption_bind, hread]
  cases found with
  | none => rfl
  | some item =>
    simp only [Option.map_some, Option.bind_some, endOfText_of_allBlank hb, ok_bind,
      Criteria.ofItems, checkPropertyName_eq_ok.2 hn]
    rfl

/-- What stands between brackets is read as a filter. -/
theorem readExpression_bracket {culture : Culture} {found : Option Criteria}
    {before body : List Char} (hb : allBlank before)
    (hpass : Scan.brackets.Passes (.outside, 0) body (.outside, 0))
    (hread : ∀ position, (readBracketed culture ⟨position, body⟩).toOption = found)
    (position : Nat) (rest : List Char) :
    ∃ start, (readExpression culture ⟨position, before ++ '[' :: (body ++ ']' :: rest)⟩).toOption
      = found.map fun criteria => (criteria, ⟨start, rest⟩) := by
  rw [readExpression_eq, Span.skipBlanks_append hb (by decide)]
  simp only [closingBracket?_append hpass, toOption_map, hread]
  exact ⟨_, rfl⟩

/-- The word for the current user is a filter, unless it runs on. -/
theorem readExpression_currentUser {culture : Culture} {before rest : List Char}
    (hb : allBlank before) (hr : ∀ c ∈ rest.head?, isWord c = false) (position : Nat) :
    ∃ start, readExpression culture ⟨position, before ++ ("CurrentUser".toList ++ rest)⟩
      = .ok (.currentUser, ⟨start, rest⟩) := by
  have hstarts : startsWithCurrentUser ("CurrentUser".toList ++ rest) = true := by
    have hword : rest.head?.any isWord = false := by
      cases h : rest.head? with
      | none => rfl
      | some c => exact hr c (by simp [h])
    have hdrop : ("CurrentUser".toList ++ rest).drop 11 = rest := rfl
    unfold startsWithCurrentUser
    rw [List.isPrefixOf_iff_prefix.2 (List.prefix_append _ _), hdrop, hword]
    rfl
  have hskip : (⟨position, before ++ ("CurrentUser".toList ++ rest)⟩ : Span).skipBlanks
      = ⟨position + byteLength before, "CurrentUser".toList ++ rest⟩ :=
    Span.skipBlanks_append hb (show isBlank 'C' = false by decide) position _
  rw [readExpression_eq, hskip]
  exact ⟨_, if_pos hstarts⟩

/-- No word goes on behind blanks, nor where none goes on behind them. -/
theorem not_isWord_head {blanks rest : List Char} (hb : allBlank blanks)
    (hr : blanks ≠ [] ∨ ∀ c ∈ rest.head?, isWord c = false) :
    ∀ c ∈ (blanks ++ rest).head?, isWord c = false := by
  intro c hc
  cases blanks with
  | nil =>
    rcases hr with hne | hr
    · exact absurd rfl hne
    · exact hr c hc
  | cons blank blanks =>
    obtain rfl : blank = c := by simpa using hc
    exact not_isWord_of_isBlank (List.all_eq_true.1 hb blank List.mem_cons_self)

/-- **What every layout of a filter is read as**, whatever follows it, unless the word for the current
    user would run on. -/
theorem readExpression_layout (culture : Culture) {criteria : Criteria} {text : List Char}
    (h : criteria.Layout text) (hwf : criteria.WellFormed) {before rest : List Char}
    (hb : allBlank before) (hr : ∀ c ∈ rest.head?, isWord c = false) (position : Nat) :
    ∃ start, (readExpression culture ⟨position, before ++ (text ++ rest)⟩).toOption
      = (criteria.reread? culture).map fun found => (found, ⟨start, rest⟩) := by
  have hclosing : ∀ blanks more : List Char, allBlank blanks →
      ∀ c ∈ (blanks ++ ')' :: more).head?, isWord c = false := by
    intro blanks more hblanks
    refine not_isWord_head hblanks (Or.inr fun c hc => ?_)
    obtain rfl : ')' = c := by simpa using hc
    decide +kernel
  -- What follows a filter is the rest of the text around it, so the rest is general.
  induction h generalizing before rest position with
  | @join joined left right l r b₁ b₂ b₃ b₄ h₁ hl h₂ hne₂ h₃ hne₃ hright h₄ ihl ihr =>
    obtain ⟨hwl, hwr⟩ := (joined.wellFormed_join _ _).1 hwf
    -- The left filter is followed by blanks, the right one perhaps by the parenthesis at once.
    obtain ⟨p₁, hreadl⟩ := ihl hwl h₁ (not_isWord_head h₂ (Or.inl hne₂))
      (position + byteLength before + 1)
    obtain ⟨p₂, hjoined, hafter⟩ :=
      connective_append joined h₂ h₃ hne₃ p₁ (r ++ (b₄ ++ ')' :: rest))
    obtain ⟨p₃, hreadr⟩ := ihr hwr h₃ (hclosing b₄ rest h₄) p₂
    rw [readExpression_eq, List.cons_append, Span.skipBlanks_append hb (by decide),
      joined.reread?_join]
    simp only [List.append_assoc, List.cons_append, List.nil_append]
      at hreadl hjoined hafter hreadr ⊢
    rw [toOption_bind, hreadl]
    cases left.reread? culture with
    | none => exact ⟨0, rfl⟩
    | some foundl =>
      simp only [Option.map_some, Option.bind_some, hjoined, ok_bind, hafter]
      rw [toOption_bind, hreadr]
      cases right.reread? culture with
      | none => exact ⟨0, rfl⟩
      | some foundr =>
        simp only [Option.map_some, Option.bind_some, readClosing_append h₄]
        exact ⟨_, rfl⟩
  | @not inner text b₁ b₂ h₁ h h₂ ih =>
    obtain ⟨p₁, hread⟩ := ih hwf h₁ (hclosing b₂ rest h₂)
      (position + byteLength before + 4 + ' '.utf8Size)
    rw [readExpression_eq, show "not (".toList = ['n', 'o', 't', ' ', '('] from rfl,
      List.cons_append, List.cons_append, Span.skipBlanks_append hb (by decide)]
    simp only [List.append_assoc, List.cons_append, List.nil_append] at hread ⊢
    rw [if_pos (by decide), toOption_bind, hread, Criteria.reread?]
    cases inner.reread? culture with
    | none => exact ⟨0, rfl⟩
    | some found =>
      simp only [Option.map_some, Option.bind_some, readClosing_append h₂]
      exact ⟨_, rfl⟩
  | @property name test words text count hw hs =>
    have hread := readExpression_bracket hb (hw.balanced_spaced hwf hs count 0)
      (readBracketed_property culture hwf hw hs count) position rest
    rw [Criteria.reread?]
    simpa only [List.append_assoc, List.cons_append, List.nil_append] using hread
  | @any name item text b₁ b₂ h₁ h h₂ ih =>
    have hinner : ∀ position, ∃ start,
        (readExpression culture ⟨position, b₁ ++ (text ++ b₂)⟩).toOption
          = (item.reread? culture).map fun found => (found, ⟨start, b₂⟩) := by
      refine ih hwf.2 h₁ fun c hc => ?_
      exact not_isWord_of_isBlank (List.all_eq_true.1 h₂ c (List.mem_of_mem_head? hc))
    have hbody : ∀ position, (readBracketed culture
        ⟨position, name.toList ++ ".Any(".toList ++ b₁ ++ text ++ b₂ ++ [')']⟩).toOption
          = (Criteria.any name item).reread? culture := by
      intro position
      have hread := readBracketed_any hwf.1 h₂ hinner position
      rw [Criteria.reread?]
      simpa only [List.append_assoc] using hread
    have hread := readExpression_bracket hb
      (passes_brackets_any hwf.1 h₁ h₂ (h.balanced hwf.2 0)) hbody position rest
    simpa only [List.append_assoc, List.cons_append, List.nil_append] using hread
  | currentUser =>
    obtain ⟨start, hread⟩ := readExpression_currentUser hb hr position
    rw [hread]
    exact ⟨start, rfl⟩

/-! ### Filter texts -/

namespace Criteria

/-- A layout begins with a character that is no blank. -/
theorem Layout.exists_eq_cons {criteria : Criteria} {text : List Char} (h : criteria.Layout text) :
    ∃ first rest, text = first :: rest ∧ isBlank first = false := by
  cases h with
  | join => exact ⟨'(', _, rfl, by decide⟩
  | not => exact ⟨'n', _, rfl, by decide⟩
  | property => exact ⟨'[', _, rfl, by decide⟩
  | any => exact ⟨'[', _, rfl, by decide⟩
  | currentUser => exact ⟨'C', _, rfl, by decide⟩

/-- **What a text is read as that is a layout of a filter**, blanks before and after it not counted. -/
theorem toOption_parse_layout (culture : Culture) {criteria : Criteria}
    {text before after : List Char} (h : criteria.Layout text) (hwf : criteria.WellFormed)
    (hb : allBlank before) (ha : allBlank after) :
    (parse culture (String.ofList (before ++ (text ++ after)))).toOption
      = (criteria.reread? culture).map some := by
  obtain ⟨first, rest, htext, hfirst⟩ := h.exists_eq_cons
  have hblank : allBlank (before ++ (text ++ after)) = false :=
    allBlank_eq_false (by simp [htext]) hfirst
  have hfollow : ∀ c ∈ after.head?, isWord c = false := fun c hc =>
    not_isWord_of_isBlank (List.all_eq_true.1 ha c (List.mem_of_mem_head? hc))
  obtain ⟨start, hread⟩ := readExpression_layout culture h hwf hb hfollow 0
  unfold parse
  rw [String.toList_ofList, hblank, if_neg (by decide), wholeExpression_eq, Span.ofString,
    String.toList_ofList, toOption_map, toOption_bind, hread]
  cases criteria.reread? culture with
  | none => rfl
  | some found =>
    simp only [Option.map_some, Option.bind_some, endOfText_of_allBlank ha]
    rfl

/-- **Every layout of a filter is a text of the filter**, blanks before and after it not counted,
    for a culture that reads its values back. -/
theorem parse_layout {culture : Culture} {criteria : Criteria} {text before after : List Char}
    (h : criteria.Layout text) (hwf : criteria.WellFormed)
    (hv : ∀ value ∈ criteria.values, value.ReadsBack culture) (hb : allBlank before)
    (ha : allBlank after) :
    parse culture (String.ofList (before ++ (text ++ after))) = .ok (some criteria) := by
  have hself : criteria.reread? culture = some criteria :=
    reread?_eq_some_self_iff.2 fun value hvalue => Value.readsBack_iff.1 (hv value hvalue)
  refine eq_ok_of_toOption ?_
  rw [toOption_parse_layout culture h hwf hb ha, hself]
  rfl

/-- The canonical text of a filter is read as the filter with its values as they are read from their
    tokens, and not at all if one of them is not. -/
theorem toOption_parse_text (culture : Culture) {criteria : Criteria} (hwf : criteria.WellFormed) :
    (parse culture criteria.text).toOption = (criteria.reread? culture).map some := by
  have hnone : allBlank [] := rfl
  have h := toOption_parse_layout culture criteria.layout_chars hwf hnone hnone
  rwa [List.nil_append, List.append_nil] at h

/-- A filter is read back from its canonical text exactly if its values are from their tokens. -/
theorem parse_text_eq_ok_self_iff {culture : Culture} {criteria : Criteria}
    (hwf : criteria.WellFormed) :
    parse culture criteria.text = .ok (some criteria)
      ↔ ∀ value ∈ criteria.values, value.reread? culture = some value := by
  have hparse := toOption_parse_text culture hwf
  rw [← reread?_eq_some_self_iff]
  constructor
  · intro h
    rw [h] at hparse
    obtain ⟨found, hfound, heq⟩ := Option.map_eq_some_iff.1 hparse.symm
    cases heq
    exact hfound
  · intro h
    rw [h] at hparse
    exact eq_ok_of_toOption hparse

/-- Every value of a filter reads back in the culture of filter texts. -/
theorem readsBack_standard (value : Value) : value.ReadsBack .standard :=
  value.ofToken_chars_standard

/-- The canonical text of a filter reads back. -/
theorem parse_text_of_wellFormed {criteria : Criteria} (hwf : criteria.WellFormed) :
    parse .standard criteria.text = .ok (some criteria) :=
  (parse_text_eq_ok_self_iff hwf).2 fun value _ => Value.readsBack_iff.1 (readsBack_standard value)

end Criteria

end RecordFilter
