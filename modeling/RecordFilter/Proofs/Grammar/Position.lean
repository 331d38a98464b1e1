import RecordFilter.Proofs.Grammar.Reading
import RecordFilter.Proofs.Grammar.Scan

namespace RecordFilter

open Text

/-!
# Where a parse error points

A filter is read from nested stretches of a text: bodies of brackets, tokens, items of a value list.
Each of them carries its own byte position, and an error reports the one of the stretch it is about.

* `Span.Within` — a stretch stands in another one, at the byte position that it names.
* `Span.within_cut`, `Span.within_itemsTest?`, `within_of_closingBracket?` — whatever is cut out of a
  stretch stands in it.
* `FilterError.PointsInto` — the fragment of a parse error stands in a text at the error's position.
* `ends_readExpression` — reading a filter leaves a rest that stands in the text, or fails with an
  error that points into it.
* `Criteria.position_of_parse` — so every parse error points into the filter text.
-/

/-! ### Lengths in bytes -/

/-- Lengths in bytes add up. -/
theorem byteLength_append (front rest : List Char) :
    byteLength (front ++ rest) = byteLength front + byteLength rest := by
  induction front with
  | nil => rw [List.nil_append, byteLength, Nat.zero_add]
  | cons c front ih => rw [List.cons_append, byteLength, byteLength, ih, Nat.add_assoc]

/-- The length in bytes is the size of the text. -/
theorem utf8ByteSize_ofList (chars : List Char) :
    (String.ofList chars).utf8ByteSize = byteLength chars := by
  induction chars with
  | nil => rfl
  | cons c rest ih =>
    have hsingle : (String.ofList [c]).utf8ByteSize = c.utf8Size := by
      rw [← String.singleton_eq_ofList, String.utf8ByteSize_singleton]
    rw [show c :: rest = [c] ++ rest from rfl, String.ofList_append, String.utf8ByteSize_append,
      hsingle, ih]
    rfl

/-! ### Stretches within stretches -/

namespace Span

/-- The stretch stands in another one: the other one holds its characters, at the byte position that
    the stretch names. -/
def Within (span whole : Span) : Prop :=
  ∃ before after, whole.chars = before ++ (span.chars ++ after)
    ∧ span.start = whole.start + byteLength before

variable {span whole inner : Span}

namespace Within

/-- A stretch stands in itself. -/
theorem refl (span : Span) : span.Within span :=
  ⟨[], [], by rw [List.nil_append, List.append_nil], by rw [byteLength, Nat.add_zero]⟩

/-- What stands in a stretch stands wherever the stretch does. -/
theorem trans (h : inner.Within span) (hw : span.Within whole) : inner.Within whole := by
  obtain ⟨before, after, hchars, hstart⟩ := h
  obtain ⟨before', after', hchars', hstart'⟩ := hw
  refine ⟨before' ++ before, after ++ after', ?_, ?_⟩
  · rw [hchars', hchars]
    simp only [List.append_assoc]
  · rw [hstart, hstart', byteLength_append, Nat.add_assoc]

/-- A front part of a stretch stands in it. -/
theorem of_leading (span : Span) {chars : List Char} (h : chars <+: span.chars) :
    (⟨span.start, chars⟩ : Span).Within span := by
  obtain ⟨after, hchars⟩ := h
  exact ⟨[], after, by rw [List.nil_append, hchars], by rw [byteLength, Nat.add_zero]⟩

/-- What is left behind a front part of a stretch stands in it. -/
theorem of_append (span : Span) (front : List Char) {rest : List Char}
    (h : span.chars = front ++ rest) : (⟨span.start + byteLength front, rest⟩ : Span).Within span :=
  ⟨front, [], by rw [List.append_nil, h], rfl⟩

end Within

/-- Without leading characters of a kind a stretch stands in the whole one. -/
theorem within_dropWhile (span : Span) (p : Char → Bool) : (span.dropWhile p).Within span :=
  .of_append span _ List.takeWhile_append_dropWhile.symm

/-- Without its first characters a stretch stands in the whole one. -/
theorem within_drop (span : Span) (count : Nat) : (span.drop count).Within span :=
  .of_append span _ (List.take_append_drop count span.chars).symm

/-- Without leading blanks a stretch stands in the whole one. -/
theorem within_skipBlanks (span : Span) : span.skipBlanks.Within span :=
  span.within_dropWhile isBlank

/-- Without blanks at both ends a stretch stands in the whole one. -/
theorem within_trim (span : Span) : span.trim.Within span := by
  have hprefix : trimEnd span.skipBlanks.chars <+: span.skipBlanks.chars := by
    rw [← List.reverse_suffix, trimEnd, List.reverse_reverse]
    exact List.dropWhile_suffix _
  exact (Within.of_leading _ hprefix).trans span.within_skipBlanks

/-! ### Pieces -/

section Pieces

variable {σ : Type} (next : σ → Char → σ) (cuts : σ → Char → Bool)

/-- The first piece is a front part of the text. -/
theorem prefix_cutFrom (state : σ) (position : Nat) (text : List Char) :
    (cutFrom next cuts state position text).1.chars <+: text := by
  induction text generalizing state position with
  | nil => exact List.prefix_rfl
  | cons c rest ih =>
    rw [cutFrom]
    dsimp only
    split
    · exact List.nil_prefix
    · exact List.prefix_cons_inj c |>.2 (ih _ _)

/-- The first piece stands in the text. -/
theorem within_fst_cutFrom (state : σ) (position : Nat) (text : List Char) :
    (cutFrom next cuts state position text).1.Within ⟨position, text⟩ := by
  show Span.Within ⟨(cutFrom next cuts state position text).1.start, _⟩ _
  rw [start_cutFrom]
  exact .of_leading ⟨position, text⟩ (prefix_cutFrom next cuts state position text)

/-- So do the other pieces. -/
theorem within_snd_cutFrom (state : σ) (position : Nat) (text : List Char) :
    ∀ piece ∈ (cutFrom next cuts state position text).2, piece.Within ⟨position, text⟩ := by
  induction text generalizing state position with
  | nil =>
    intro piece hpiece
    cases hpiece
  | cons c rest ih =>
    have hrest : (⟨position + c.utf8Size, rest⟩ : Span).Within ⟨position, c :: rest⟩ :=
      .of_append ⟨position, c :: rest⟩ [c] rfl
    intro piece hpiece
    rw [cutFrom] at hpiece
    dsimp only at hpiece
    split at hpiece
    -- At a cut the first piece of the rest becomes one of the others.
    · rcases List.mem_cons.1 hpiece with rfl | hpiece
      · exact (within_fst_cutFrom next cuts _ _ rest).trans hrest
      · exact (ih _ _ piece hpiece).trans hrest
    · exact (ih _ _ piece hpiece).trans hrest

/-- The pieces of a stretch stand in it. -/
theorem within_cut (span : Span) (state : σ) :
    ∀ piece ∈ span.cut next cuts state, piece.Within span := by
  intro piece hpiece
  rcases List.mem_cons.1 hpiece with rfl | hpiece
  · exact within_fst_cutFrom next cuts state span.start span.chars
  · exact within_snd_cutFrom next cuts state span.start span.chars piece hpiece

end Pieces

/-- The tokens of a stretch stand in it. -/
theorem within_tokens (span : Span) : ∀ token ∈ span.tokens, token.Within span :=
  fun token htoken => span.within_cut _ _ _ token (List.mem_filter.1 htoken).1

/-- The items of a value list stand in it. -/
theorem within_listItems (span : Span) : ∀ item ∈ span.listItems, item.Within span :=
  fun item hitem => span.within_cut _ _ _ item hitem

/-! ### Brackets and parentheses -/

/-- What stands between parentheses stands in the stretch that they close. -/
theorem within_parentheses (span : Span) {rest : List Char} (hchars : span.chars = '(' :: rest)
    (hclose : rest.getLast? = some ')') : (⟨span.start + 1, rest.dropLast⟩ : Span).Within span := by
  obtain ⟨body, rfl⟩ := List.getLast?_eq_some_iff.1 hclose
  refine ⟨['('], [')'], ?_, rfl⟩
  rw [hchars, List.dropLast_concat]
  rfl

/-- The filter of a test of items stands in the test. -/
theorem within_itemsTest? {name : String} (h : span.itemsTest? = some (name, inner)) :
    inner.Within span := by
  unfold itemsTest? at h
  dsimp only at h
  split at h
  case h_1 rest hrest =>
    split at h
    case isTrue hlead =>
      cases h
      have hbehind := span.within_dropWhile isNameChar
      exact (within_parentheses (span.dropWhile isNameChar) hrest hlead.2.2).trans hbehind
    case isFalse => cases h
  case h_2 => cases h

/-- What stands between brackets stands in the stretch, and so does what is left behind them. -/
theorem within_of_closingBracket? {rest body after : List Char} (hchars : span.chars = '[' :: rest)
    (h : closingBracket? rest = some (body, after)) :
    (⟨span.start + 1, body⟩ : Span).Within span
      ∧ (⟨span.start + 1 + byteLength body + 1, after⟩ : Span).Within span := by
  have hrest : rest = body ++ ']' :: after := eq_of_closingBracketFrom? h
  constructor
  · exact ⟨['['], ']' :: after, by rw [hchars, hrest]; rfl, rfl⟩
  · refine ⟨'[' :: (body ++ [']']), [], ?_, ?_⟩
    · rw [hchars, hrest]
      simp
    · rw [byteLength, byteLength_append, Nat.add_assoc, Nat.add_assoc]
      rfl

/-- What is left behind the opening of a negation stands in the stretch. -/
theorem within_of_not {blank : Char} {rest : List Char}
    (hchars : span.chars = 'n' :: 'o' :: 't' :: blank :: '(' :: rest) :
    (⟨span.start + 4 + blank.utf8Size, rest⟩ : Span).Within span := by
  refine ⟨['n', 'o', 't', blank, '('], [], by rw [hchars, List.append_nil]; rfl, ?_⟩
  -- The four letters and parentheses take one byte each.
  have hletters : byteLength ['n', 'o', 't', blank, '('] = 1 + (1 + (1 + (blank.utf8Size + 1))) := rfl
  rw [hletters]
  simp only
  omega

end Span

/-- What is left behind a word stands in the stretch. -/
theorem within_afterWord (span : Span) : (afterWord span).Within span :=
  (span.skipBlanks.within_dropWhile isLetter).trans span.within_skipBlanks

/-! ### Errors that point into a text -/

/-- A parse error points into a text: its fragment stands there at its position. -/
def FilterError.PointsInto (whole : Span) : FilterError → Prop
  | .parse _ fragment position => (⟨position, fragment.toList⟩ : Span).Within whole
  | _ => True

/-- A step of reading fails, if at all, with an error that points into a text. -/
abbrev Traced {α : Type} (whole : Span) (step : Except FilterError α) : Prop :=
  Ends (fun _ => True) (FilterError.PointsInto whole) step

section Reading

variable {culture : Culture} {whole span : Span}

/-- An error about a stretch of a text points into the text. -/
theorem Span.Within.fault (h : span.Within whole) (fault : ParseFault) :
    (span.fault fault).PointsInto whole := by
  show Span.Within ⟨span.start, (String.ofList span.chars).toList⟩ whole
  rwa [String.toList_ofList]

/-- An error at the beginning of a stretch of a text points into the text. -/
theorem Span.Within.faultAhead (h : span.Within whole) (fault : ParseFault) :
    (span.faultAhead fault).PointsInto whole := by
  show Span.Within ⟨span.start, (String.ofList (span.chars.take _)).toList⟩ whole
  rw [String.toList_ofList]
  exact (Span.Within.of_leading span (List.take_prefix _ _)).trans h

/-- What else is known of the result does not matter. -/
theorem Ends.traced {α : Type} {step : Except FilterError α} {post : α → Prop}
    (h : Ends post (FilterError.PointsInto whole) step) : Traced whole step :=
  h.mono (fun _ _ => trivial) fun _ => id

/-- Steps for the members of a list fail as the single steps do. -/
theorem traced_mapM {α β : Type} {list : List α} {f : α → Except FilterError β}
    (h : ∀ a ∈ list, Traced whole (f a)) : Traced whole (list.mapM f) :=
  (Ends.mapM h).traced

/-! ### Values -/

/-- A value token that cannot be read is the fragment of the error. -/
theorem traced_ofToken (h : span.Within whole) : Traced whole (Value.ofToken culture span) := by
  unfold Value.ofToken
  split
  · split
    · trivial
    · exact h.fault .unterminatedString
  · split
    · trivial
    · exact h.fault .invalidDateTime
  · split
    · trivial
    · exact h.fault .unknownValue

/-- The error of a value list is about the list or about one of its items. -/
theorem traced_valueList (h : span.Within whole) : Traced whole (valueList culture span) := by
  unfold valueList
  split
  case h_1 rest hchars =>
    split
    case isTrue hclose =>
      have hinner := (Span.within_parentheses span hchars hclose).trans h
      dsimp only
      split
      · trivial
      · refine traced_mapM fun item hitem => ?_
        have hlist := (Span.within_listItems _ item hitem).trans hinner
        exact traced_ofToken ((Span.within_trim item).trans hlist)
    case isFalse => exact h.fault .expectedList
  case h_2 => exact h.fault .expectedList

/-! ### Property tests -/

/-- An operand that is not expected is the fragment of the error. -/
theorem traced_noOperand {operands : List Span} (h : ∀ operand ∈ operands, operand.Within whole) :
    Traced whole (noOperand operands) := by
  unfold noOperand
  split
  · trivial
  · exact (h _ List.mem_cons_self).fault .unexpectedToken

/-- The only operand is one of the operands, or the error is about the test or another operand. -/
theorem ends_oneOperand {body : Span} {operands : List Span} (hb : body.Within whole)
    (h : ∀ operand ∈ operands, operand.Within whole) :
    Ends (fun operand => operand.Within whole) (FilterError.PointsInto whole)
      (oneOperand body operands) := by
  unfold oneOperand
  split
  · exact hb.fault .missingValue
  · exact h _ List.mem_cons_self
  · exact (h _ (List.mem_cons_of_mem _ List.mem_cons_self)).fault .unexpectedToken

/-- The three operands are among the operands, or the error is about the test or another operand. -/
theorem ends_threeOperands {body : Span} {operands : List Span} (hb : body.Within whole)
    (h : ∀ operand ∈ operands, operand.Within whole) :
    Ends (fun (first, second, third) =>
        first.Within whole ∧ second.Within whole ∧ third.Within whole)
      (FilterError.PointsInto whole) (threeOperands body operands) := by
  unfold threeOperands
  split
  · exact ⟨h _ (by simp), h _ (by simp), h _ (by simp)⟩
  · exact (h _ (by simp)).fault .unexpectedToken
  · exact hb.fault .missingValue

/-- The error of a property test is about the test, its operator or one of its operands. -/
theorem traced_propertyTest {body operator : Span} {operands : List Span} (hb : body.Within whole)
    (ho : operator.Within whole) (h : ∀ operand ∈ operands, operand.Within whole) :
    Traced whole (propertyTest culture body operator operands) := by
  have hone := ends_oneOperand hb h
  have hno := traced_noOperand h
  have hvalue : ∀ operand : Span, operand.Within whole →
      Traced whole (Value.ofToken culture operand) := fun _ => traced_ofToken
  unfold propertyTest
  dsimp only
  split
  case h_1 comparison _ _ _ =>
    exact hone.bind fun operand _ hoperand => (hvalue operand hoperand).bind fun _ _ _ => trivial
  case h_2 => exact hno.bind fun _ _ _ => trivial
  case h_3 =>
    exact hone.bind fun operand _ hoperand => (hvalue operand hoperand).bind fun _ _ _ => trivial
  case h_4 => exact hno.bind fun _ _ _ => trivial
  case h_5 =>
    split
    · refine (ends_threeOperands hb h).bind fun (low, conjunction, high) _ hthree => ?_
      obtain ⟨hlow, hconjunction, hhigh⟩ := hthree
      dsimp only
      split
      · exact hconjunction.fault .expectedAnd
      · refine (hvalue low hlow).bind fun _ _ _ => ?_
        exact (hvalue high hhigh).bind fun _ _ _ => trivial
    · split
      · refine hone.bind fun list _ hlist => ?_
        exact (traced_valueList hlist).bind fun _ _ _ => trivial
      · split
        · split
          · trivial
          · split
            · trivial
            · exact hb.fault .expectedNull
        · exact ho.fault .unknownFunction

/-- A leaf with a name that can stand for no property is no parse error. -/
theorem traced_checked (whole : Span) (name : String) (leaf : Criteria) :
    Traced whole (do checkPropertyName name; return leaf : Except FilterError Criteria) := by
  unfold checkPropertyName
  split
  · trivial
  · split <;> trivial

/-- The error of a property test between brackets is about the whole of it or a part of it. -/
theorem traced_propertyCriteria (h : span.Within whole) :
    Traced whole (propertyCriteria culture span) := by
  have htokens : ∀ token ∈ span.tokens, token.Within whole :=
    fun token htoken => (span.within_tokens token htoken).trans h
  unfold propertyCriteria
  split
  case h_1 name operator operands heq =>
    rw [heq] at htokens
    have hrest : ∀ operand ∈ operands, operand.Within whole := fun operand hoperand =>
      htokens operand (List.mem_cons_of_mem _ (List.mem_cons_of_mem _ hoperand))
    have hoperator := htokens operator (List.mem_cons_of_mem _ List.mem_cons_self)
    exact (traced_propertyTest h hoperator hrest).bind fun test _ _ => traced_checked whole _ _
  case h_2 => exact h.fault .incompleteProperty

/-! ### Filters -/

/-- The text behind the last filter is the fragment of the error. -/
theorem traced_endOfText (h : span.Within whole) : Traced whole (endOfText span) := by
  unfold endOfText
  split
  · trivial
  · exact (span.within_skipBlanks.trans h).faultAhead .trailingInput

/-- The text in the place of a connective is the fragment of the error. -/
theorem traced_connective (h : span.Within whole) : Traced whole (connective span) := by
  unfold connective
  dsimp only
  split
  · trivial
  · split
    · trivial
    · exact (span.within_skipBlanks.trans h).faultAhead .expectedConnective

/-- What is left behind a closing parenthesis stands in the text, or the error is about what stands
    in its place. -/
theorem ends_readClosing (h : span.Within whole) (fault : ParseFault) :
    Ends (fun after => after.Within whole) (FilterError.PointsInto whole)
      (readClosing fault span) := by
  have hahead := span.within_skipBlanks.trans h
  rw [readClosing_eq]
  split
  case h_1 rest hchars =>
    have hbehind := Span.Within.of_append span.skipBlanks [')'] hchars
    exact hbehind.trans hahead
  case h_2 => exact hahead.faultAhead fault

/-- What is left behind a filter stands in the whole text, or the error points into that text. -/
abbrev EndsWithin (whole : Span) (read : Except FilterError (Criteria × Span)) : Prop :=
  Ends (fun found => found.2.Within whole) (FilterError.PointsInto whole) read

/-- What is left behind the word for the current user stands in the text, or the error is about what
    stands in its place. -/
theorem ends_readCurrentUser (h : span.Within whole) : EndsWithin whole (readCurrentUser span) := by
  unfold readCurrentUser
  split
  · exact (span.within_drop 11).trans h
  · split
    · exact h.faultAhead .endOfInput
    · exact h.faultAhead .unexpectedToken

/-- The error of what stands between brackets points into the text if that of a test of items does. -/
theorem traced_readBracketed (h : span.Within whole)
    (hitems : ∀ inner : Span, inner.chars.length < span.chars.length → inner.Within whole →
      EndsWithin whole (readExpression culture inner)) :
    Traced whole (readBracketed culture span) := by
  unfold readBracketed
  split
  case h_1 name inner hinner =>
    have hwithin := (Span.within_itemsTest? hinner).trans h
    refine (hitems inner (Span.length_itemsTest?_lt hinner) hwithin).bind fun found _ hafter => ?_
    refine (traced_endOfText hafter).bind fun _ _ _ => ?_
    exact traced_checked whole _ _
  case h_2 => exact traced_propertyCriteria h

/-- What is left behind two filters and a closing parenthesis stands in the text, if that is so for the
    filters. -/
theorem ends_readGroup (h : span.Within whole)
    (hread : ∀ inner : Span, inner.chars.length ≤ span.chars.length → inner.Within whole →
      EndsWithin whole (readExpression culture inner)) :
    EndsWithin whole (do
      let (left, afterLeft) ← readExpression culture span
      let joined ← connective afterLeft
      let (right, afterRight) ← readExpression culture (afterWord afterLeft)
      let after ← readClosing .unclosedGroup afterRight
      return (joined.join left right, after)) := by
  refine (hread span (Nat.le_refl _) h).bind fun (left, afterLeft) hleft hwithinLeft => ?_
  refine (traced_connective hwithinLeft).bind fun joined _ _ => ?_
  have hwithinWord := (within_afterWord afterLeft).trans hwithinLeft
  have hshorter : (afterWord afterLeft).chars.length ≤ span.chars.length :=
    Nat.le_trans (length_afterWord_le afterLeft) (Nat.le_of_lt (length_lt_of_readExpression hleft))
  refine (hread _ hshorter hwithinWord).bind fun (right, afterRight) _ hwithinRight => ?_
  exact (ends_readClosing hwithinRight .unclosedGroup).bind fun after _ hafter => hafter

/-- **What is left behind a filter stands in the text, and every parse error points into it**, at any
    depth of groups, negations and tests of items. -/
theorem ends_readExpression (h : span.Within whole) :
    EndsWithin whole (readExpression culture span) := by
  -- Every filter inside is read from a shorter stretch of the same text.
  induction hlength : span.chars.length using Nat.strongRecOn generalizing span with
  | ind length ih =>
    subst hlength
    have hahead := span.within_skipBlanks.trans h
    have hread : ∀ inner : Span, inner.chars.length < span.chars.length → inner.Within whole →
        EndsWithin whole (readExpression culture inner) :=
      fun inner hshorter hwithin => ih _ hshorter hwithin rfl
    rw [readExpression_eq]
    split
    case h_1 rest hchars =>
      have hrest : (⟨span.skipBlanks.start + 1, rest⟩ : Span).Within whole :=
        (Span.Within.of_append span.skipBlanks ['('] hchars).trans hahead
      have hshorter := Span.length_lt_of_skipBlanks hchars
      exact ends_readGroup hrest fun inner hle => hread inner (Nat.lt_of_le_of_lt hle hshorter)
    case h_2 rest hchars =>
      have hshorter := Span.length_lt_of_skipBlanks hchars
      split
      case h_1 => exact hahead.faultAhead .unclosedBracket
      case h_2 body after hclosing =>
        obtain ⟨hbody, hafter⟩ := Span.within_of_closingBracket? hchars hclosing
        have hlengthBody := (length_closingBracket?_lt hclosing).1
        refine (traced_readBracketed (hbody.trans hahead) fun inner hinner => ?_).map
          fun criteria _ _ => hafter.trans hahead
        exact hread inner (by simp only at hinner; omega)
    case h_3 blank rest hchars =>
      split
      case isTrue =>
        have hrest : (⟨span.skipBlanks.start + 4 + blank.utf8Size, rest⟩ : Span).Within whole :=
          (Span.within_of_not hchars).trans hahead
        have hshorter : rest.length < span.chars.length := by
          have hle := span.length_skipBlanks_le
          rw [hchars] at hle
          simp only [List.length_cons] at hle
          omega
        refine (hread _ hshorter hrest).bind fun (inner, afterInner) _ hwithinInner => ?_
        exact (ends_readClosing hwithinInner .unclosedNot).bind fun after _ hafter => hafter
      case isFalse => exact hahead.faultAhead .unexpectedToken
    case h_4 => exact ends_readCurrentUser hahead

/-- A filter that takes up a whole text fails, if at all, with an error that points into the text. -/
theorem traced_wholeExpression (culture : Culture) (span : Span) :
    Traced span (wholeExpression culture span) := by
  rw [wholeExpression_eq]
  refine (ends_readExpression (.refl span)).bind fun (criteria, after) _ hafter => ?_
  exact (traced_endOfText hafter).bind fun _ _ _ => trivial

end Reading

/-! ### Filter texts -/

/-- A stretch that stands in a whole text begins at a boundary between characters of the text, and
    its characters are the next ones there. -/
theorem Span.Within.exists_append {text : String} {position : Nat} {fragment : String}
    (h : Span.Within ⟨position, fragment.toList⟩ (Span.ofString text)) :
    ∃ before after : String, text = before ++ after ∧ before.utf8ByteSize = position
      ∧ fragment.toList <+: after.toList := by
  obtain ⟨before, after, hchars, hstart⟩ := h
  refine ⟨String.ofList before, String.ofList (fragment.toList ++ after), ?_, ?_, ?_⟩
  · rw [← String.ofList_append, ← hchars, Span.ofString, String.ofList_toList]
  · rw [utf8ByteSize_ofList]
    exact (hstart.trans (Nat.zero_add _)).symm
  · rw [String.toList_ofList]
    exact List.prefix_append _ _

/-- **Every parse error points into the filter text**: its position is one of the text, at a boundary
    between characters, and its fragment is what the text goes on with there. -/
theorem Criteria.position_of_parse {culture : Culture} {text : String} {fault : ParseFault}
    {fragment : String} {position : Nat}
    (h : parse culture text = .error (.parse fault fragment position)) :
    position ≤ text.utf8ByteSize ∧ String.Pos.Raw.IsValid text ⟨position⟩
      ∧ ∃ before after : String, text = before ++ after ∧ before.utf8ByteSize = position
          ∧ fragment.toList <+: after.toList := by
  have hwithin : Span.Within ⟨position, fragment.toList⟩ (Span.ofString text) := by
    unfold parse at h
    split at h
    case isTrue => cases h
    case isFalse =>
      -- The outcome for the whole text is the outcome of the parser.
      have htraced := traced_wholeExpression culture (Span.ofString text)
      cases hread : wholeExpression culture (Span.ofString text) with
      | ok criteria =>
        rw [hread] at h
        cases h
      | error fault =>
        rw [hread] at h htraced
        cases h
        exact htraced
  obtain ⟨before, after, rfl, rfl, hprefix⟩ := hwithin.exists_append
  have hvalid : String.Pos.Raw.IsValid (before ++ after) ⟨before.utf8ByteSize⟩ :=
    String.Pos.Raw.isValid_iff_exists_append.2 ⟨before, after, rfl, rfl⟩
  exact ⟨hvalid.le_utf8ByteSize, hvalid, before, after, rfl, rfl, hprefix⟩

/-- A text with a fault in an item of a value list, inside a test of items and behind characters of
    several bytes. -/
def Criteria.faultyText : String :=
  "( [Größe == 1] AND not ([Zeilen.Any( [x in (1,\u3000é )] )]))"

theorem Criteria.position_of_parse_nested :
    parse .standard faultyText = .error (.parse .unknownValue "é" 51)
      ∧ 51 ≤ faultyText.utf8ByteSize ∧ String.Pos.Raw.IsValid faultyText ⟨51⟩
      ∧ ∃ before after : String, faultyText = before ++ after ∧ before.utf8ByteSize = 51
          ∧ "é".toList <+: after.toList := by
  have h : parse .standard faultyText = .error (.parse .unknownValue "é" 51) := by
    have hcheck : (match parse .standard faultyText with
        | .error (.parse fault fragment position) =>
          decide (fault = .unknownValue ∧ fragment = "é" ∧ position = 51)
        | _ => false) = true := by
      decide +kernel
    split at hcheck
    case h_1 fault fragment position heq =>
      obtain ⟨rfl, rfl, rfl⟩ := of_decide_eq_true hcheck
      exact heq
    case h_2 => cases hcheck
  exact ⟨h, position_of_parse h⟩

end RecordFilter
