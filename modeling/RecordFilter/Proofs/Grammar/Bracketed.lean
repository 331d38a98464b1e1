import RecordFilter.Proofs.Grammar.RoundTrip
import RecordFilter.Proofs.Grammar.Stops

namespace RecordFilter

open Text

/-!
# A test of one property between brackets

A filter text that begins with a bracket and ends with one may be something else than one property
criteria: the first bracket may be closed before the end, or not at all. It is one exactly if the scan for
the closing bracket goes through all that stands between them.

* `Criteria.parse_bracket_iff` — a text between brackets is read as the filter that stands between them.
* `Criteria.parse_operand_iff` — a name, a word and the rest: a property test is read by the tokens of the
  rest.
* `Criteria.parse_compare_iff`, `Criteria.parse_oneOf_iff` — comparisons and memberships: the rest is one
  token, and the token is read as a value or as a value list.
-/

/-! ### Brackets -/

/-- The end of a text is reached exactly if nothing but blanks is left. -/
theorem endOfText_eq_ok {span : Span} : endOfText span = .ok () ↔ allBlank span.chars := by
  have hskip : span.skipBlanks.chars.isEmpty = true ↔ allBlank span.chars = true := by
    rw [List.isEmpty_iff, allBlank, List.all_eq_true]
    exact List.dropWhile_eq_nil_iff
  rw [← hskip, endOfText]
  cases span.skipBlanks.chars.isEmpty <;> simp

/-- **A text between brackets is read as the filter that stands between them** exactly if the bracket at
    its end closes the one at its beginning. -/
theorem Criteria.parse_bracket_iff {culture : Culture} {body : List Char} {criteria : Criteria} :
    parse culture (String.ofList ('[' :: (body ++ [']']))) = .ok (some criteria)
      ↔ Scan.brackets.Passes (.outside, 0) body (.outside, 0)
        ∧ readBracketed culture ⟨1, body⟩ = .ok criteria := by
  have hblank : allBlank ('[' :: (body ++ [']'])) = false :=
    allBlank_eq_false List.mem_cons_self (by decide)
  have hskip : (⟨0, '[' :: (body ++ [']'])⟩ : Span).skipBlanks = ⟨0, '[' :: (body ++ [']'])⟩ :=
    Span.skipBlanks_append (show allBlank [] from rfl) (by decide) 0 _
  unfold parse
  rw [String.toList_ofList, hblank, if_neg (by decide), map_eq_ok, wholeExpression_eq, Span.ofString,
    String.toList_ofList, readExpression_eq, hskip]
  constructor
  · rintro ⟨found, hread, heq⟩
    obtain rfl := Option.some.inj heq
    cases hclosing : closingBracket? (body ++ [']']) with
    | none =>
      simp only [hclosing] at hread
      cases hread
    | some parts =>
      obtain ⟨inner, after⟩ := parts
      simp only [hclosing] at hread
      obtain ⟨_, hinner, hrest⟩ := bind_eq_ok.1 hread
      obtain ⟨criteria, hbracketed, rfl⟩ := map_eq_ok.1 hinner
      obtain ⟨_, hend, heq⟩ := bind_eq_ok.1 hrest
      obtain rfl := Except.ok.inj heq
      -- The last bracket is no blank, so nothing can be left behind the closing one.
      have htext : body ++ [']'] = inner ++ ']' :: after := eq_of_closingBracketFrom? hclosing
      have hafter : after = [] := by
        by_contra hne
        have hlast := congrArg List.getLast? htext
        rw [List.getLast?_concat, List.getLast?_append_cons, List.getLast?_cons,
          List.getLast?_eq_some_getLast hne] at hlast
        have hmem : ']' ∈ after := Option.some.inj hlast ▸ List.getLast_mem hne
        have hblank : allBlank after = true := endOfText_eq_ok.1 hend
        rw [allBlank_eq_false hmem (by decide)] at hblank
        cases hblank
      rw [hafter] at htext
      obtain rfl := List.append_cancel_right htext
      exact ⟨passes_of_closingBracketFrom? hclosing, hbracketed⟩
  · rintro ⟨hpass, hbracketed⟩
    refine ⟨criteria, ?_, rfl⟩
    simp only [closingBracket?_append hpass, Nat.zero_add, hbracketed]
    rfl

/-! ### The name, a word and the rest -/

/-- A property test is what is read from the tokens behind the name. -/
theorem readBracketed_operand {culture : Culture} {name : String} (hn : IsPropertyName name)
    {word : List Char} (hw : Span.IsToken word) (position : Nat) (rest : List Char) :
    readBracketed culture ⟨position, name.toList ++ ' ' :: (word ++ ' ' :: rest)⟩
      = (propertyTest culture ⟨position, name.toList ++ ' ' :: (word ++ ' ' :: rest)⟩
          ⟨position + byteLength name.toList + 1, word⟩
          (⟨position + byteLength name.toList + 1 + byteLength word + 1, rest⟩ : Span).tokens).map
            (.property name) := by
  unfold readBracketed propertyCriteria
  rw [Span.itemsTest?_of_space hn.2, Span.tokens_cons (isToken_name hn), Span.tokens_cons hw]
  dsimp only
  cases propertyTest culture _ _ _ with
  | error => rfl
  | ok test =>
    rw [ok_bind, Span.text, String.ofList_toList, Criteria.ofTest, checkPropertyName_eq_ok.2 hn]
    rfl

/-- **Between brackets a name, a word and the rest are a property test** exactly if the scan for the
    closing bracket goes through the rest, and the test is read from its tokens. -/
theorem Criteria.parse_operand_iff {culture : Culture} {name : String} (hn : IsPropertyName name)
    {word : List Char} (hne : word ≠ []) (hword : ∀ c ∈ word, isPlain c = true) (rest : List Char) :
    ∃ body operator position, operator.chars = word ∧ ∀ test,
      (parse culture (String.ofList ('[' :: (name.toList ++ ' ' :: (word ++ ' ' :: rest) ++ [']'])))
          = .ok (some (.property name test))
        ↔ Scan.brackets.Passes (.outside, 0) rest (.outside, 0)
          ∧ propertyTest culture body operator (⟨position, rest⟩ : Span).tokens = .ok test) := by
  have hspace : Scan.brackets.Passes (.outside, 0) [' '] (.outside, 0) := .single rfl
  have hlead := ((passes_brackets_name hn 0).append hspace).append
    ((passes_brackets_word (fun c hc => .inl (hword c hc)) 0).append hspace)
  have hbody :
      Scan.brackets.Passes (.outside, 0) (name.toList ++ ' ' :: (word ++ ' ' :: rest)) (.outside, 0)
      ↔ Scan.brackets.Passes (.outside, 0) rest (.outside, 0) := by
    have htext : name.toList ++ ' ' :: (word ++ ' ' :: rest)
        = name.toList ++ [' '] ++ (word ++ [' ']) ++ rest := by
      simp
    rw [htext, Scan.passes_append_iff]
    constructor
    · rintro ⟨middle, hfirst, hrest⟩
      rwa [hfirst.final_eq, ← hlead.final_eq] at hrest
    · exact fun hrest => ⟨_, hlead, hrest⟩
  refine ⟨⟨1, name.toList ++ ' ' :: (word ++ ' ' :: rest)⟩, ⟨1 + byteLength name.toList + 1, word⟩,
    1 + byteLength name.toList + 1 + byteLength word + 1, rfl, fun test => ?_⟩
  rw [parse_bracket_iff, hbody, readBracketed_operand hn (isToken_of_isPlain hne hword), map_eq_ok]
  simp

/-! ### One operand -/

/-- There is one operand. -/
theorem oneOperand_eq_ok {body operand : Span} {operands : List Span} :
    oneOperand body operands = .ok operand ↔ operands = [operand] := by
  unfold oneOperand
  split <;> simp

/-- A comparison has one operand, which is read as a value. -/
theorem propertyTest_compare {culture : Culture} {comparison : ComparisonOperator}
    {body operator : Span} (h : operator.text = comparison.symbol) {operands : List Span}
    {value : Value} :
    propertyTest culture body operator operands = .ok (.compare comparison value)
      ↔ ∃ operand, operands = [operand] ∧ Value.ofToken culture operand = .ok value := by
  have hlookup : ComparisonOperator.ofSymbol? comparison.symbol = some comparison := by
    cases comparison <;> decide
  unfold propertyTest
  simp only [h, hlookup]
  rw [bind_eq_ok]
  refine exists_congr fun operand => and_congr oneOperand_eq_ok ?_
  cases Value.ofToken culture operand <;> simp [bind, Except.bind, pure, Except.pure]

/-- A test of membership has one operand, which is read as a value list. -/
theorem propertyTest_oneOf {culture : Culture} {body operator : Span} (h : operator.text = "in")
    {operands : List Span} {values : List Value} :
    propertyTest culture body operator operands = .ok (.oneOf values)
      ↔ ∃ list, operands = [list] ∧ valueList culture list = .ok values := by
  have hread : propertyTest culture body operator operands
      = (do return .oneOf (← valueList culture (← oneOperand body operands))) := by
    unfold propertyTest
    rw [h]
    rfl
  rw [hread, bind_eq_ok]
  refine exists_congr fun list => and_congr oneOperand_eq_ok ?_
  cases valueList culture list <;> simp [bind, Except.bind, pure, Except.pure]

/-- **A comparison between brackets** is one exactly if what follows its symbol is closed and is one
    token, and the token is read as the value. -/
theorem Criteria.parse_compare_iff {culture : Culture} {name : String} (hn : IsPropertyName name)
    (comparison : ComparisonOperator) (rest : List Char) :
    ∃ position, ∀ value,
      (parse culture (String.ofList
          ('[' :: (name.toList ++ ' ' :: (comparison.symbol.toList ++ ' ' :: rest) ++ [']'])))
          = .ok (some (.property name (.compare comparison value)))
        ↔ Scan.brackets.Passes (.outside, 0) rest (.outside, 0)
          ∧ ∃ token, (⟨position, rest⟩ : Span).tokens = [token]
            ∧ Value.ofToken culture token = .ok value) := by
  have hplain : ∀ c ∈ comparison.symbol.toList, isPlain c = true := by cases comparison <;> decide
  have hne : comparison.symbol.toList ≠ [] := by cases comparison <;> decide
  obtain ⟨body, operator, position, hoperator, hiff⟩ := parse_operand_iff hn hne hplain rest
  have htext : operator.text = comparison.symbol := by rw [Span.text, hoperator, String.ofList_toList]
  refine ⟨position, fun value => ?_⟩
  rw [hiff, propertyTest_compare htext]

/-- **A test of membership between brackets** is one exactly if what follows the word is closed and is
    one token, and the token is read as the value list. -/
theorem Criteria.parse_oneOf_iff {culture : Culture} {name : String} (hn : IsPropertyName name)
    (rest : List Char) :
    ∃ position, ∀ values,
      (parse culture (String.ofList ('[' :: (name.toList ++ ' ' :: ("in".toList ++ ' ' :: rest) ++ [']'])))
          = .ok (some (.property name (.oneOf values)))
        ↔ Scan.brackets.Passes (.outside, 0) rest (.outside, 0)
          ∧ ∃ list, (⟨position, rest⟩ : Span).tokens = [list]
            ∧ valueList culture list = .ok values) := by
  have hplain : ∀ c ∈ "in".toList, isPlain c = true := by decide
  obtain ⟨body, operator, position, hoperator, hiff⟩ := parse_operand_iff hn (by decide) hplain rest
  have htext : operator.text = "in" := by rw [Span.text, hoperator, String.ofList_toList]
  refine ⟨position, fun values => ?_⟩
  rw [hiff, propertyTest_oneOf htext]

end RecordFilter
