import RecordFilter.Grammar.Expression
import RecordFilter.Proofs.Except

namespace RecordFilter

open Text

/-!
# Reading a filter, without the bounds on what is left

`expression` carries a proof that what is left of the text is shorter, which is why it ends. Here
the answer is the filter and the text that is left.

* `readExpression`, `readClosing` — the answers without the bounds.
* `readExpression_eq` — what is read, by the first characters that are no blanks.
* `length_lt_of_readExpression` — what is left is shorter.
* `wholeExpression_eq` — a filter that takes up a whole text.
-/

/-- The text after a closing parenthesis. -/
def readClosing (fault : ParseFault) (span : Span) : Except FilterError Span :=
  (closeParenthesis fault span).map Subtype.val

/-- A filter from the front of a text and what is left of the text. -/
def readExpression (culture : Culture) (span : Span) : Except FilterError (Criteria × Span) :=
  (expression culture span).map fun (criteria, after) => (criteria, after.1)

/-- The filter that stands between brackets: a test of items if it looks like one, or else a test of
    a property. -/
def readBracketed (culture : Culture) (body : Span) : Except FilterError Criteria :=
  match body.itemsTest? with
  | some (name, inner) => do
    let (item, afterItem) ← readExpression culture inner
    endOfText afterItem
    Criteria.ofItems name item
  | none => propertyCriteria culture body

/-- The records of the current user, if the word for them comes next. -/
def readCurrentUser (ahead : Span) : Except FilterError (Criteria × Span) :=
  if startsWithCurrentUser ahead.chars then .ok (.currentUser, ahead.drop 11)
  else if ahead.chars.isEmpty then .error (ahead.faultAhead .endOfInput)
  else .error (ahead.faultAhead .unexpectedToken)

/-- Unfolding lemma: the closing parenthesis comes next but for blanks. -/
theorem readClosing_eq (fault : ParseFault) (span : Span) :
    readClosing fault span =
      match span.skipBlanks.chars with
      | ')' :: rest => .ok ⟨span.skipBlanks.start + 1, rest⟩
      | _ => .error (span.skipBlanks.faultAhead fault) := by
  unfold readClosing closeParenthesis
  split
  case h_1 rest h =>
    simp only [h]
    rfl
  case h_2 hne =>
    split
    case h_1 rest h => exact absurd h (hne rest)
    case h_2 => rfl

/-- Unfolding lemma: what is read, by the first characters that are no blanks. -/
theorem readExpression_eq (culture : Culture) (span : Span) :
    readExpression culture span =
      match span.skipBlanks.chars with
      | '(' :: rest => do
        let (left, afterLeft) ← readExpression culture ⟨span.skipBlanks.start + 1, rest⟩
        let joined ← connective afterLeft
        let (right, afterRight) ← readExpression culture (afterWord afterLeft)
        let after ← readClosing .unclosedGroup afterRight
        return (joined.join left right, after)
      | '[' :: rest =>
        match closingBracket? rest with
        | none => .error (span.skipBlanks.faultAhead .unclosedBracket)
        | some (body, after) =>
          (readBracketed culture ⟨span.skipBlanks.start + 1, body⟩).map fun criteria =>
            (criteria, ⟨span.skipBlanks.start + 1 + byteLength body + 1, after⟩)
      | 'n' :: 'o' :: 't' :: blank :: '(' :: rest =>
        if isBlank blank then do
          let (inner, afterInner) ←
            readExpression culture ⟨span.skipBlanks.start + 4 + blank.utf8Size, rest⟩
          let after ← readClosing .unclosedNot afterInner
          return (.not inner, after)
        else .error (span.skipBlanks.faultAhead .unexpectedToken)
      | _ => readCurrentUser span.skipBlanks := by
  -- Both sides look at the same characters; only the left one carries the bounds along.
  conv => lhs; unfold readExpression
  rw [expression]
  split
  case h_1 rest h =>
    simp only [h, readExpression]
    cases expression culture ⟨span.skipBlanks.start + 1, rest⟩ with
    | error => rfl
    | ok found =>
      obtain ⟨left, afterLeft, hleft⟩ := found
      simp only [Except.map, bind, Except.bind]
      cases hconnective : connective afterLeft with
      | error => rfl
      | ok joined =>
        dsimp only
        cases expression culture (afterWord afterLeft) with
        | error => rfl
        | ok found =>
          obtain ⟨right, afterRight, hright⟩ := found
          dsimp only [readClosing]
          cases closeParenthesis .unclosedGroup afterRight <;> rfl
  case h_2 rest h =>
    simp only [h]
    split
    case h_1 hb =>
      simp only [hb]
      rfl
    case h_2 body after hb =>
      simp only [hb, readBracketed]
      split
      case h_1 name inner hi =>
        simp only [hi, readExpression]
        cases expression culture inner with
        | error => rfl
        | ok found =>
          obtain ⟨item, afterItem, hitem⟩ := found
          simp only [Except.map, bind, Except.bind]
          cases endOfText afterItem with
          | error => rfl
          | ok =>
            dsimp only
            cases Criteria.ofItems name item <;> rfl
      case h_2 hi =>
        simp only [hi]
        cases propertyCriteria culture ⟨span.skipBlanks.start + 1, body⟩ <;> rfl
  case h_3 blank rest h =>
    simp only [h, readExpression]
    split
    case isTrue =>
      cases expression culture ⟨span.skipBlanks.start + 4 + blank.utf8Size, rest⟩ with
      | error => rfl
      | ok found =>
        obtain ⟨inner, afterInner, hinner⟩ := found
        simp only [Except.map, bind, Except.bind]
        dsimp only [readClosing]
        cases closeParenthesis .unclosedNot afterInner <;> rfl
    case isFalse => rfl
  case h_4 hgroup hbracket hnot =>
    refine Eq.trans (b := readCurrentUser span.skipBlanks) ?_ ?_
    · unfold readCurrentUser
      split
      · rfl
      · split <;> rfl
    · split
      case h_1 rest h => exact absurd h (hgroup rest)
      case h_2 rest h => exact absurd h (hbracket rest)
      case h_3 blank rest h => exact absurd h (hnot blank rest)
      case h_4 => rfl

/-- What is left behind a filter is shorter. -/
theorem length_lt_of_readExpression {culture : Culture} {span after : Span}
    {criteria : Criteria} (h : readExpression culture span = .ok (criteria, after)) :
    after.chars.length < span.chars.length := by
  unfold readExpression at h
  cases hread : expression culture span with
  | error fault =>
    rw [hread] at h
    cases h
  | ok found =>
    rw [hread] at h
    cases h
    exact found.2.2

/-- Unfolding lemma: a whole text is read from its front, and only blanks may be left. -/
theorem wholeExpression_eq (culture : Culture) (span : Span) :
    wholeExpression culture span = do
      let (criteria, after) ← readExpression culture span
      endOfText after
      return criteria := by
  unfold wholeExpression readExpression
  cases expression culture span <;> rfl

end RecordFilter
