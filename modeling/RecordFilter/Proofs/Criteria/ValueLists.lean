import RecordFilter.Proofs.Criteria.Culture
import RecordFilter.Proofs.Grammar.Bracketed
import RecordFilter.Proofs.Grammar.Position
import RecordFilter.Proofs.Text.Pieces

namespace RecordFilter

open Text

/-!
# The same tokens in comparisons and in value lists

The operand of a comparison ends at a space, and the items of a value list end at commas and are trimmed. So
a token that a comparison reads may be cut in a list: commas outside of literals separate items in every
culture, also where a comma is the decimal separator.

* `valueList_intercalate` — what a list of joined tokens is read as.
* `Criteria.exists_parse_equalText_iff` — a comparison with a token, by the scans.
* `Criteria.parse_memberText_iff` — when a list of tokens is read as the list of the values that comparisons
  with the tokens read.
-/

/-! ### Tokens that are read -/

/-- The words that stand for values begin with no blank. -/
theorem Value.head?_of_word? {chars : List Char} {value : Value} (h : word? chars = some value) :
    ∃ c, chars.head? = some c ∧ isBlank c = false := by
  unfold word? at h
  repeat' split at h
  case isFalse => cases h
  all_goals
    subst_vars
    exact ⟨_, rfl, by decide⟩

/-- Neither does what may be a number. -/
theorem Value.head?_of_looksNumeric {chars : List Char} (h : looksNumeric chars = true) :
    ∃ c, chars.head? = some c ∧ isBlank c = false := by
  unfold looksNumeric readSign at h
  split at h
  case h_1 c rest hsign =>
    split at hsign
    case h_1 => exact ⟨'-', rfl, by decide⟩
    case h_2 => exact ⟨'+', rfl, by decide⟩
    case h_3 =>
      refine ⟨c, by rw [show chars = c :: rest from hsign]; rfl, ?_⟩
      simp only [Bool.or_eq_true, beq_iff_eq] at h
      rcases h with (hdigit | rfl) | rfl
      · exact not_isBlank_of_isPlain (isPlain_of_isDigit hdigit)
      · decide
      · decide
  case h_2 => cases h

/-- What is read as a value does not begin with a blank. -/
theorem Value.head?_of_ofToken {culture : Culture} {token : Span} {value : Value}
    (h : ofToken culture token = .ok value) : ∃ c, token.chars.head? = some c ∧ isBlank c = false := by
  unfold ofToken at h
  split at h
  case h_1 rest heq => exact ⟨'\'', by rw [heq]; rfl, by decide⟩
  case h_2 rest heq => exact ⟨'#', by rw [heq]; rfl, by decide⟩
  case h_3 =>
    cases hword : word? token.chars with
    | some => exact head?_of_word? hword
    | none =>
      cases hnumber : looksNumeric token.chars with
      | true => exact head?_of_looksNumeric hnumber
      | false =>
        rw [hword, hnumber] at h
        cases h

/-- A text whose only token is read as a value is not blank. -/
theorem Value.allBlank_eq_false_of_tokens {culture : Culture} {span token : Span} {value : Value}
    (htokens : span.tokens = [token]) (h : ofToken culture token = .ok value) :
    allBlank span.chars = false := by
  obtain ⟨c, hhead, hc⟩ := head?_of_ofToken h
  have htoken : token ∈ span.tokens := by
    rw [htokens]
    exact List.mem_cons_self
  obtain ⟨before, after, hchars, _⟩ := span.within_tokens token htoken
  have hmem : c ∈ span.chars := by
    rw [hchars]
    exact List.mem_append_right _ (List.mem_append_left _ (List.mem_of_mem_head? hhead))
  exact allBlank_eq_false hmem hc

/-! ### Tokens of plain characters and literals -/

namespace Balanced

variable {text : List Char}

/-- More characters may be allowed outside of literals and brackets. -/
theorem mono {brackets : List (Char × Char)} {allowed more : Char → Bool}
    (hmore : ∀ c, allowed c = true → more c = true) (h : Balanced brackets allowed text) :
    Balanced brackets more text := by
  induction h with
  | nil => exact .nil _
  | char hc hfree _ ih => exact .char (hmore _ hc) hfree (ih hmore)
  | literal hliteral hbody _ ih => exact .literal hliteral hbody (ih hmore)
  | group hbracket hinner _ _ ih => exact .group hbracket hinner (ih hmore)

/-- Every scan goes through plain characters and literals. -/
theorem passes_literals (h : Balanced [] isPlain text) :
    Scan.literals.Passes .outside text .outside := by
  refine h.passes (fun _ => LiteralState.outside) (fun h _ => h) nofun 0 fun c _ hc => ?_
  exact Value.passes_of_isPlain (List.forall_mem_singleton.2 hc)

/-- A text with blanks inside literals only does not begin with one. -/
theorem head?_not_blank {allowed : Char → Bool} (hallowed : ∀ c, allowed c = true → isBlank c = false)
    (h : Balanced [] allowed text) : ∀ c ∈ text.head?, isBlank c = false := by
  intro c hhead
  cases h with
  | nil => cases hhead
  | char hc =>
    obtain rfl := Option.some.inj hhead
    exact hallowed _ hc
  | literal hliteral =>
    obtain rfl := Option.some.inj hhead
    rcases hliteral with rfl | rfl <;> decide
  | group hbracket => cases hbracket

/-- Nor does it end with one. -/
theorem getLast?_not_blank {allowed : Char → Bool}
    (hallowed : ∀ c, allowed c = true → isBlank c = false) (h : Balanced [] allowed text) :
    ∀ c ∈ text.getLast?, isBlank c = false := by
  -- The last character is that of the rest, or the one before it if there is no rest.
  have hcons : ∀ {c d : Char} {rest : List Char}, isBlank c = false →
      (∀ e ∈ rest.getLast?, isBlank e = false) → d ∈ (c :: rest).getLast? → isBlank d = false := by
    intro c d rest hc hrest hd
    rw [List.getLast?_cons] at hd
    obtain rfl := Option.some.inj hd
    cases hlast : rest.getLast? with
    | none => exact hc
    | some e => exact hrest e hlast
  induction h with
  | nil => exact nofun
  | char hc _ _ ih => exact fun d => hcons (hallowed _ hc) (ih hallowed)
  | literal hliteral _ _ ih =>
    intro d hd
    rw [← List.cons_append, List.getLast?_append_cons] at hd
    refine hcons ?_ (ih hallowed) hd
    rcases hliteral with rfl | rfl <;> decide
  | group hbracket => cases hbracket

/-- Nothing is trimmed off it. -/
theorem trim_eq {allowed : Char → Bool} (hallowed : ∀ c, allowed c = true → isBlank c = false)
    (h : Balanced [] allowed text) : trim text = text := by
  cases hhead : text.head? with
  | none =>
    obtain rfl := List.head?_eq_none_iff.1 hhead
    rfl
  | some c =>
    have hne : text ≠ [] := by
      rintro rfl
      cases hhead
    have hlast := List.getLast?_eq_some_getLast hne
    have hnone : allBlank [] := rfl
    have htrim := Span.trim_append hnone hnone hhead hlast (h.head?_not_blank hallowed c hhead)
      (h.getLast?_not_blank hallowed _ hlast) 0
    rw [List.nil_append, List.append_nil] at htrim
    exact congrArg Span.chars htrim

end Balanced

/-! ### Lists of joined tokens -/

/-- The space behind a comma may be taken as part of the next token. -/
theorem intercalate_comma_space (first : List Char) (rest : List (List Char)) :
    [',', ' '].intercalate (first :: rest)
      = [','].intercalate (first :: rest.map fun token => ' ' :: token) :=
  intercalate_append_lead [','] [' '] first rest

/-- It does not matter to the scan for items. -/
theorem Scan.passes_items_space {token : List Char} :
    Scan.items.Passes .outside (' ' :: token) .outside ↔ Scan.items.Passes .outside token .outside := by
  constructor
  · intro h
    obtain _ | ⟨_, hrest⟩ := h
    exact hrest
  · exact fun h => .cons rfl h

/-- The items of a list of joined tokens are read as the tokens are without blanks at their ends. -/
theorem forall₂_listItems {culture : Culture} {first : List Char} {rest : List (List Char)}
    (hpass : ∀ token ∈ first :: rest, Scan.items.Passes .outside token .outside) (position : Nat)
    (values : List Value) :
    List.Forall₂ (fun item value => Value.ofToken culture item.trim = .ok value)
        (⟨position, [',', ' '].intercalate (first :: rest)⟩ : Span).listItems values
      ↔ List.Forall₂ (fun token value => Value.ofToken culture ⟨0, trim token⟩ = .ok value)
          (first :: rest) values := by
  obtain ⟨hfirst, hrest⟩ := List.forall_mem_cons.1 hpass
  have hitems : ∀ item ∈ first :: rest.map fun token => ' ' :: token,
      Scan.items.Passes .outside item .outside := by
    refine List.forall_mem_cons.2 ⟨hfirst, List.forall_mem_map.2 fun token htoken => ?_⟩
    exact Scan.passes_items_space.2 (hrest token htoken)
  have hchars : (⟨position, [',', ' '].intercalate (first :: rest)⟩ : Span).listItems.map Span.chars
      = first :: rest.map fun token => ' ' :: token := by
    rw [intercalate_comma_space, Span.listItems_intercalate hitems, map_chars_standing]
    simp
  calc
    _ ↔ List.Forall₂ (fun chars value => Value.ofToken culture ⟨0, trim chars⟩ = .ok value)
        ((⟨position, [',', ' '].intercalate (first :: rest)⟩ : Span).listItems.map Span.chars)
        values := by
      rw [List.forall₂_map_left_iff]
      have hread : ∀ (item : Span) (value : Value), Value.ofToken culture item.trim = .ok value
          ↔ Value.ofToken culture ⟨0, trim item.chars⟩ = .ok value :=
        fun item value => Value.ofToken_congr (show item.trim.chars = trim item.chars from rfl)
      simp only [hread]
    _ ↔ List.Forall₂ (fun chars value => Value.ofToken culture ⟨0, trim chars⟩ = .ok value)
        (first :: rest) values := by
      have htrim : ∀ token : List Char, trim (' ' :: token) = trim token := fun _ => rfl
      rw [hchars]
      cases values with
      | nil => simp
      | cons value values =>
        rw [List.forall₂_cons, List.forall₂_cons, List.forall₂_map_left_iff]
        simp only [htrim]

/-- **A list of joined tokens is read as a list of as many values** exactly if their commas stand inside
    literals and each of them is read as its value without blanks at its ends. -/
theorem valueList_intercalate {culture : Culture} {tokens : List (List Char)} {values : List Value}
    (hclosed : ∀ token ∈ tokens, token.foldl LiteralState.after .outside = .outside)
    (hblank : ∀ token ∈ tokens, allBlank token = false) (hlength : tokens.length = values.length)
    (position : Nat) :
    valueList culture ⟨position, '(' :: ([',', ' '].intercalate tokens ++ [')'])⟩ = .ok values
      ↔ (∀ token ∈ tokens, Scan.items.Passes .outside token .outside)
        ∧ List.Forall₂ (fun token value => Value.ofToken culture ⟨0, trim token⟩ = .ok value) tokens
            values := by
  unfold valueList
  simp only [List.getLast?_concat, List.dropLast_concat, if_true]
  cases tokens with
  | nil =>
    obtain rfl := List.length_eq_zero_iff.1 hlength.symm
    exact iff_of_true rfl ⟨nofun, .nil⟩
  | cons first rest =>
    have hinner : allBlank ([',', ' '].intercalate (first :: rest)) = false := by
      obtain ⟨c, hc, hnone⟩ := List.all_eq_false.1 (hblank first List.mem_cons_self)
      exact allBlank_eq_false (mem_intercalate.2 (.inr ⟨first, List.mem_cons_self, hc⟩))
        (Bool.eq_false_iff.2 hnone)
    rw [if_neg (by simp [hinner]), mapM_eq_ok_iff]
    constructor
    · intro hread
      -- There are as many items as values, so none of the tokens is cut.
      have hpass : ∀ token ∈ first :: rest, Scan.items.Passes .outside token .outside := by
        have hitems : ∀ item ∈ first :: rest.map fun token => ' ' :: token,
            item.foldl LiteralState.after .outside = .outside := by
          obtain ⟨hfirst, hrest⟩ := List.forall_mem_cons.1 hclosed
          exact List.forall_mem_cons.2 ⟨hfirst, List.forall_mem_map.2 hrest⟩
        have hcount : (⟨position + 1, [','].intercalate (first :: rest.map fun token => ' ' :: token)⟩
            : Span).listItems.length = (first :: rest.map fun token => ' ' :: token).length := by
          rw [← intercalate_comma_space, hread.length_eq, ← hlength]
          simp
        obtain ⟨hfirst, hrest⟩ :=
          List.forall_mem_cons.1 (Span.passes_of_length_listItems hitems hcount)
        refine List.forall_mem_cons.2 ⟨hfirst, fun token htoken => ?_⟩
        exact Scan.passes_items_space.1 (hrest _ (List.mem_map_of_mem htoken))
      exact ⟨hpass, (forall₂_listItems hpass _ _).1 hread⟩
    · rintro ⟨hpass, hread⟩
      exact (forall₂_listItems hpass _ _).2 hread

/-! ### Filter texts -/

namespace Criteria

/-- The text of a comparison of a property with what a token stands for. -/
def equalText (name token : String) : String :=
  "[" ++ name ++ " == " ++ token ++ "]"

/-- Tokens in parentheses, with a comma and a space between them. -/
def listText (tokens : List String) : String :=
  "(" ++ ", ".intercalate tokens ++ ")"

/-- The text of a test whether a property is one of the values that tokens stand for. -/
def memberText (name : String) (tokens : List String) : String :=
  "[" ++ name ++ " in " ++ listText tokens ++ "]"

/-- The characters of tokens in parentheses. -/
theorem toList_listText (tokens : List String) :
    (listText tokens).toList = '(' :: ([',', ' '].intercalate (tokens.map String.toList) ++ [')']) := by
  simp [listText, String.toList_intercalate]

/-- A comparison with a token is read exactly if the token is closed and one token, which is read. -/
theorem exists_parse_equalText_iff (culture : Culture) {name : String} (hn : IsPropertyName name)
    (token : String) :
    ∃ position, ∀ value,
      (parse culture (equalText name token) = .ok (some (.property name (.compare .equal value)))
        ↔ Scan.brackets.Passes (.outside, 0) token.toList (.outside, 0)
          ∧ ∃ operand, (⟨position, token.toList⟩ : Span).tokens = [operand]
            ∧ Value.ofToken culture operand = .ok value) := by
  have htext : equalText name token = String.ofList
      ('[' :: (name.toList ++ ' ' :: (ComparisonOperator.equal.symbol.toList ++ ' ' :: token.toList)
        ++ [']'])) := by
    rw [← String.toList_inj]
    simp [equalText, ComparisonOperator.symbol]
  rw [htext]
  exact parse_compare_iff hn .equal token.toList

/-- A token that a comparison reads is closed and not blank. -/
theorem closed_of_parse_equalText {culture : Culture} {name token : String} {value : Value}
    (hn : IsPropertyName name)
    (h : parse culture (equalText name token) = .ok (some (.property name (.compare .equal value)))) :
    Scan.brackets.Passes (.outside, 0) token.toList (.outside, 0) ∧ allBlank token.toList = false := by
  obtain ⟨position, hiff⟩ := exists_parse_equalText_iff culture hn token
  obtain ⟨hpass, operand, htokens, hoperand⟩ := (hiff value).1 h
  exact ⟨hpass, Value.allBlank_eq_false_of_tokens htokens hoperand⟩

/-- A token of plain characters and literals that a comparison reads is read as a whole. -/
theorem ofToken_of_parse_equalText {culture : Culture} {name token : String} {value : Value}
    (hn : IsPropertyName name) (hbalanced : Balanced [] isPlain token.toList)
    (h : parse culture (equalText name token) = .ok (some (.property name (.compare .equal value)))) :
    Value.ofToken culture ⟨0, trim token.toList⟩ = .ok value := by
  obtain ⟨position, hiff⟩ := exists_parse_equalText_iff culture hn token
  obtain ⟨_, operand, htokens, hoperand⟩ := (hiff value).1 h
  have hne : token.toList ≠ [] := by
    intro hnil
    rw [hnil, Span.tokens_nil] at htokens
    cases htokens
  rw [Span.tokens_of_passes (hbalanced.passes_literals.tokens 0) hne] at htokens
  obtain rfl := List.singleton_inj.1 htokens
  rw [hbalanced.trim_eq fun _ => not_isBlank_of_isPlain]
  refine (Value.ofToken_congr ?_).1 hoperand
  rfl

/-- A list of tokens is read exactly if it is closed and one token, which is read as a value list. -/
theorem exists_parse_memberText_iff (culture : Culture) {name : String} (hn : IsPropertyName name)
    (tokens : List String) :
    ∃ position, ∀ values,
      (parse culture (memberText name tokens) = .ok (some (.property name (.oneOf values)))
        ↔ Scan.brackets.Passes (.outside, 0) (listText tokens).toList (.outside, 0)
          ∧ ∃ list, (⟨position, (listText tokens).toList⟩ : Span).tokens = [list]
            ∧ valueList culture list = .ok values) := by
  have htext : memberText name tokens = String.ofList
      ('[' :: (name.toList ++ ' ' :: ("in".toList ++ ' ' :: (listText tokens).toList) ++ [']'])) := by
    rw [← String.toList_inj]
    simp [memberText]
  rw [htext]
  exact parse_oneOf_iff hn (listText tokens).toList

/-- Whether a list of tokens is one token does not depend on where it stands. -/
theorem tokens_listText_iff {tokens : List String} {position : Nat} {list : Span} :
    (⟨position, (listText tokens).toList⟩ : Span).tokens = [list]
      ↔ (Span.ofString (listText tokens)).tokens = [Span.ofString (listText tokens)]
        ∧ list = ⟨position, (listText tokens).toList⟩ := by
  have hhead : (listText tokens).toList.head? = some '(' := by rw [toList_listText, List.head?_cons]
  have hlast : (listText tokens).toList.getLast? = some ')' := by
    rw [toList_listText, ← List.cons_append, List.getLast?_concat]
  have hone : ∀ (position : Nat) (list : Span),
      (⟨position, (listText tokens).toList⟩ : Span).tokens = [list]
      ↔ (∃ final, Scan.tokens.Passes .initial (listText tokens).toList final)
        ∧ list = ⟨position, (listText tokens).toList⟩ :=
    fun _ _ => Span.tokens_eq_singleton_iff hhead hlast (by decide) (by decide)
  have hzero : (Span.ofString (listText tokens)).tokens = [Span.ofString (listText tokens)]
      ↔ ∃ final, Scan.tokens.Passes .initial (listText tokens).toList final :=
    (hone 0 _).trans (and_iff_left rfl)
  rw [hone, hzero]

/-- A list of plain characters and literals is one token. -/
theorem tokens_listText {tokens : List String}
    (h : ∀ token ∈ tokens, Balanced [] isPlain token.toList) :
    (Span.ofString (listText tokens)).tokens = [Span.ofString (listText tokens)] := by
  have hpieces : ∀ piece ∈ tokens.map String.toList,
      Scan.tokens.Passes ⟨.outside, 1⟩ piece ⟨.outside, 1⟩ :=
    List.forall_mem_map.2 fun token htoken => (h token htoken).passes_literals.tokens 1
  have hseparator : Scan.tokens.Passes ⟨.outside, 1⟩ [',', ' '] ⟨.outside, 1⟩ :=
    .of_forall (by decide)
  have hinner := (Scan.passes_intercalate hseparator hpieces).append
    (Scan.Passes.single (show Scan.tokens.stops ⟨.outside, 1⟩ ')' = false from rfl))
  have hpass : Scan.tokens.Passes .initial (listText tokens).toList .initial := by
    rw [toList_listText]
    exact .cons rfl hinner
  exact Span.tokens_of_passes hpass (by simp [toList_listText]) 0

/-- The scan for the closing bracket goes through a list if it does through the tokens. -/
theorem passes_brackets_listText {tokens : List String}
    (h : ∀ token ∈ tokens, Scan.brackets.Passes (.outside, 0) token.toList (.outside, 0)) :
    Scan.brackets.Passes (.outside, 0) (listText tokens).toList (.outside, 0) := by
  have hseparator : Scan.brackets.Passes (.outside, 0) [',', ' '] (.outside, 0) :=
    Scan.passes_brackets_of_forall (by decide) 0
  have hinner := Scan.passes_intercalate hseparator (List.forall_mem_map.2 h)
  rw [toList_listText]
  exact .cons rfl (hinner.append (.single rfl))

/-- What a list of tokens is read as that are closed and not blank. -/
theorem valueList_listText {culture : Culture} {tokens : List String} {values : List Value}
    (h : ∀ token ∈ tokens, Scan.brackets.Passes (.outside, 0) token.toList (.outside, 0)
      ∧ allBlank token.toList = false) (hlength : tokens.length = values.length) (position : Nat) :
    valueList culture ⟨position, (listText tokens).toList⟩ = .ok values
      ↔ (∀ token ∈ tokens, Balanced [] (· != ',') token.toList)
        ∧ List.Forall₂ (fun token value => Value.ofToken culture ⟨0, trim token.toList⟩ = .ok value)
            tokens values := by
  have hclosed : ∀ text ∈ tokens.map String.toList,
      text.foldl LiteralState.after .outside = .outside :=
    List.forall_mem_map.2 fun token htoken => literal_of_passes_brackets (h token htoken).1
  have hblank : ∀ text ∈ tokens.map String.toList, allBlank text = false :=
    List.forall_mem_map.2 fun token htoken => (h token htoken).2
  have hcount : (tokens.map String.toList).length = values.length := by rw [List.length_map, hlength]
  rw [toList_listText, valueList_intercalate hclosed hblank hcount, List.forall_mem_map,
    List.forall₂_map_left_iff]
  simp only [passes_items_iff]

/-- **Tokens are read in a list as they are in comparisons** exactly if commas stand inside their
    literals, no space cuts the list, and each of them is read as the same value without the blanks at
    its ends. So they are if blanks, commas, brackets and parentheses stand inside literals. -/
theorem parse_memberText_iff {culture : Culture} {name : String} (hn : IsPropertyName name)
    {tokens : List String} {values : List Value}
    (h : List.Forall₂ (fun token value => parse culture (equalText name token)
      = .ok (some (.property name (.compare .equal value)))) tokens values) :
    (parse culture (memberText name tokens) = .ok (some (.property name (.oneOf values)))
        ↔ (∀ token ∈ tokens, Balanced [] (· != ',') token.toList)
          ∧ (Span.ofString (listText tokens)).tokens = [Span.ofString (listText tokens)]
          ∧ List.Forall₂ (fun token value => Value.ofToken culture ⟨0, trim token.toList⟩ = .ok value)
              tokens values)
      ∧ ((∀ token ∈ tokens, Balanced [] isPlain token.toList) →
        parse culture (memberText name tokens) = .ok (some (.property name (.oneOf values)))) := by
  have hall : ∀ token ∈ tokens, Scan.brackets.Passes (.outside, 0) token.toList (.outside, 0)
      ∧ allBlank token.toList = false := by
    have hboth := h.imp fun token _ hread => And.intro (closed_of_parse_equalText hn hread) hread
    exact ((List.forall₂_and_left tokens values).1 hboth).1
  have hiff : parse culture (memberText name tokens) = .ok (some (.property name (.oneOf values)))
      ↔ (∀ token ∈ tokens, Balanced [] (· != ',') token.toList)
        ∧ (Span.ofString (listText tokens)).tokens = [Span.ofString (listText tokens)]
        ∧ List.Forall₂ (fun token value => Value.ofToken culture ⟨0, trim token.toList⟩ = .ok value)
            tokens values := by
    obtain ⟨position, hmember⟩ := exists_parse_memberText_iff culture hn tokens
    have hpass := passes_brackets_listText fun token htoken => (hall token htoken).1
    rw [hmember, and_iff_right hpass]
    simp only [tokens_listText_iff, and_assoc, exists_and_left, exists_eq_left,
      valueList_listText hall h.length_eq]
    exact and_left_comm
  refine ⟨hiff, fun hbalanced => hiff.2 ⟨fun token htoken => ?_, tokens_listText hbalanced, ?_⟩⟩
  · refine (hbalanced token htoken).mono fun c hc => ?_
    simpa using ne_of_test hc (show isPlain ',' = false by decide)
  · have hboth := (List.forall₂_and_left tokens values).2 ⟨hbalanced, h⟩
    exact hboth.imp fun _ _ hread => ofToken_of_parse_equalText hn hread.1 hread.2

/-- A number with a point, a text with a comma and a date, where a comma is the decimal separator. -/
theorem parse_memberText_commaCulture :
    parse commaCulture (memberText "Price" ["2.5", "'a, (b'", "#29.02.2020#"])
      = .ok (some (.property "Price" (.oneOf [.float (.ofRatio false 5 2), .string "a, (b",
          .dateTime (.midnight ⟨2020, 2, 29, Date.valid_leapDay2020⟩)]))) := by
  have hnumber : Balanced [] isPlain "2.5".toList :=
    .char (by decide) (by decide) (.char (by decide) (by decide)
      (.char (by decide) (by decide) (.nil _)))
  have htext : Balanced [] isPlain ('\'' :: ("a, (b".toList ++ ['\''])) :=
    .literal (.inl rfl) (by decide) (.nil _)
  have hdate : Balanced [] isPlain ('#' :: ("29.02.2020".toList ++ ['#'])) :=
    .literal (.inr rfl) (by decide) (.nil _)
  refine (parse_memberText_iff (by decide +kernel) (.cons ?_ (.cons ?_ (.cons ?_ .nil)))).2 ?_
  · exact eq_ok_of_toOption (by decide +kernel)
  · exact eq_ok_of_toOption (by decide +kernel)
  · exact eq_ok_of_toOption (by decide +kernel)
  · exact List.forall_mem_cons.2 ⟨hnumber, List.forall_mem_cons.2 ⟨htext,
      List.forall_mem_singleton.2 hdate⟩⟩

/-- Where a comma is the decimal separator, a number with a comma is one value in a comparison and two in
    a list. So is a text with quotes around a comma, in the culture of filter texts as well. -/
theorem parse_memberText_cuts :
    (IsPropertyName "Price"
      ∧ parse commaCulture (equalText "Price" "2,5")
        = .ok (some (.property "Price" (.compare .equal (.float (.ofRatio false 5 2)))))
      ∧ parse commaCulture (memberText "Price" ["2,5"])
        = .ok (some (.property "Price" (.oneOf [.int 2, .int 5])))
      ∧ parse commaCulture (memberText "Price" ["2,5"])
        ≠ .ok (some (.property "Price" (.oneOf [.float (.ofRatio false 5 2)]))))
    ∧ IsPropertyName "Name"
      ∧ parse .standard (equalText "Name" "'a','b'")
        = .ok (some (.property "Name" (.compare .equal (.string "a','b"))))
      ∧ parse .standard (memberText "Name" ["'a','b'"])
        = .ok (some (.property "Name" (.oneOf [.string "a", .string "b"])))
      ∧ parse .standard (memberText "Name" ["'a','b'"])
        ≠ .ok (some (.property "Name" (.oneOf [.string "a','b"]))) := by
  have hnumbers : parse commaCulture (memberText "Price" ["2,5"])
      = .ok (some (.property "Price" (.oneOf [.int 2, .int 5]))) :=
    eq_ok_of_toOption (by decide +kernel)
  have htexts : parse .standard (memberText "Name" ["'a','b'"])
      = .ok (some (.property "Name" (.oneOf [.string "a", .string "b"]))) :=
    eq_ok_of_toOption (by decide +kernel)
  refine ⟨⟨by decide +kernel, eq_ok_of_toOption (by decide +kernel), hnumbers, fun h => ?_⟩,
    by decide +kernel, eq_ok_of_toOption (by decide +kernel), htexts, fun h => ?_⟩
  · rw [hnumbers] at h
    simp at h
  · rw [htexts] at h
    simp at h

end Criteria

end RecordFilter
