import RecordFilter.Grammar.Property

namespace RecordFilter

open Text

/-!
# Filter texts

* `expression` — reads one filter from the front of a text: a group `(… AND …)`, a property criteria
  `[…]`, a negation `not (…)` or `CurrentUser`.
* `Criteria.parse` — reads a filter text. A blank text is no filter.

Reading is a single pass. What is left of a text always is shorter, which is why it ends.
-/

/-- What is left of a text after something was read from its front. -/
abbrev After (span : Span) := { rest : Span // rest.chars.length < span.chars.length }

/-- The text after a closing parenthesis, which has to come next but for blanks. -/
def closeParenthesis (fault : ParseFault) (span : Span) : Except FilterError (After span) :=
  match h : span.skipBlanks.chars with
  | ')' :: rest =>
    .ok ⟨⟨span.skipBlanks.start + 1, rest⟩, Span.length_lt_of_skipBlanks h⟩
  | _ => .error (span.skipBlanks.faultAhead fault)

/-- An ASCII letter. -/
def isLetter (c : Char) : Bool :=
  ('a' ≤ c && c ≤ 'z') || ('A' ≤ c && c ≤ 'Z')

/-- The connective of a group: the letters that come next but for blanks. -/
def connective (span : Span) : Except FilterError Connective :=
  let word := span.skipBlanks.chars.takeWhile isLetter
  if word = "AND".toList then .ok .and
  else if word = "OR".toList then .ok .or
  else .error (span.skipBlanks.faultAhead .expectedConnective)

/-- The text after the letters that come next but for blanks. -/
def afterWord (span : Span) : Span :=
  span.skipBlanks.dropWhile isLetter

/-- The text after a word is no longer than the text. -/
theorem length_afterWord_le (span : Span) :
    (afterWord span).chars.length ≤ span.chars.length :=
  Nat.le_trans (List.dropWhile_sublist _).length_le span.length_skipBlanks_le

/-- Whether the word of the current user stands at the front of a text, and not as a part of a longer
    word. -/
def startsWithCurrentUser (chars : List Char) : Bool :=
  "CurrentUser".toList.isPrefixOf chars && !(chars.drop 11).head?.any isWord

/-- The word of the current user has eleven characters. -/
theorem length_of_startsWithCurrentUser {chars : List Char}
    (h : startsWithCurrentUser chars = true) : 11 ≤ chars.length := by
  simp only [startsWithCurrentUser, Bool.and_eq_true, List.isPrefixOf_iff_prefix] at h
  exact h.1.length_le

/-- Demands that nothing but blanks is left of a text. -/
def endOfText (span : Span) : Except FilterError Unit :=
  if span.skipBlanks.chars.isEmpty then .ok ()
  else .error (span.skipBlanks.faultAhead .trailingInput)

/-- Reads one filter from the front of a text, and gives what is left of it. -/
def expression (culture : Culture) (span : Span) :
    Except FilterError (Criteria × After span) :=
  match h : span.skipBlanks.chars with
  | '(' :: rest => do
    let (left, ⟨afterLeft, _⟩) ← expression culture ⟨span.skipBlanks.start + 1, rest⟩
    let joined ← connective afterLeft
    let (right, ⟨afterRight, _⟩) ← expression culture (afterWord afterLeft)
    let ⟨after, _⟩ ← closeParenthesis .unclosedGroup afterRight
    return (joined.join left right, ⟨after, by
      have := length_afterWord_le afterLeft
      have := Span.length_lt_of_skipBlanks h
      simp_all
      omega⟩)
  | '[' :: rest =>
    match hb : closingBracket? rest with
    | none => .error (span.skipBlanks.faultAhead .unclosedBracket)
    | some (chars, after) =>
      let body : Span := ⟨span.skipBlanks.start + 1, chars⟩
      let left : After span := ⟨⟨body.start + byteLength chars + 1, after⟩, by
        have := length_closingBracket?_lt hb
        have := Span.length_lt_of_skipBlanks h
        simp only
        omega⟩
      match hi : body.itemsTest? with
      | some (name, inner) => do
        let (item, ⟨afterItem, _⟩) ← expression culture inner
        endOfText afterItem
        return (← Criteria.ofItems name item, left)
      | none => do return (← propertyCriteria culture body, left)
  | 'n' :: 'o' :: 't' :: blank :: '(' :: rest =>
    if isBlank blank then do
      let (inner, ⟨afterInner, _⟩) ←
        expression culture ⟨span.skipBlanks.start + 4 + blank.utf8Size, rest⟩
      let ⟨after, _⟩ ← closeParenthesis .unclosedNot afterInner
      return (.not inner, ⟨after, by
        have := Span.length_lt_of_skipBlanks h
        simp_all
        omega⟩)
    else .error (span.skipBlanks.faultAhead .unexpectedToken)
  | chars =>
    if hc : startsWithCurrentUser chars then
      .ok (.currentUser, ⟨span.skipBlanks.drop 11, by
        have := span.length_skipBlanks_le
        have := length_of_startsWithCurrentUser hc
        simp only [Span.drop, List.length_drop, h]
        simp_all
        omega⟩)
    else if chars.isEmpty then .error (span.skipBlanks.faultAhead .endOfInput)
    else .error (span.skipBlanks.faultAhead .unexpectedToken)
termination_by span.chars.length
decreasing_by
  · exact Span.length_lt_of_skipBlanks h
  · have := length_afterWord_le afterLeft
    have := Span.length_lt_of_skipBlanks h
    simp_all
    omega
  · have := Span.length_itemsTest?_lt hi
    have := length_closingBracket?_lt hb
    have := Span.length_lt_of_skipBlanks h
    simp only [body] at *
    omega
  · have := Span.length_lt_of_skipBlanks h
    simp at this ⊢
    omega

/-- Reads one filter that takes up a whole text but for blanks. -/
def wholeExpression (culture : Culture) (span : Span) : Except FilterError Criteria := do
  let (criteria, ⟨after, _⟩) ← expression culture span
  endOfText after
  return criteria

/-- Reads a filter text with the conventions of a culture. A blank text is no filter. -/
def Criteria.parse (culture : Culture) (text : String) : Except FilterError (Option Criteria) :=
  if allBlank text.toList then .ok none
  else (wholeExpression culture (Span.ofString text)).map some

end RecordFilter
