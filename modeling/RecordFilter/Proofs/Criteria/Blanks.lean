import RecordFilter.Proofs.Criteria.Text

namespace RecordFilter

open Text

/-!
# Blanks between the parts of a filter text do not matter

A canonical text has places where more white space may be put in: any white space before filters, before
closing parentheses, around connectives and around the values of a list, and spaces around the words of
a property test.

* `Piece`, `Criteria.pieces` — a canonical text cut at those places.
* `Criteria.chars_pieces` — without anything in the places it is the canonical text.
* `Widened` — a text with something in each of the places.
* `Criteria.layout_of_widened` — such a text is a layout of the filter.
* `Criteria.parse_widened` — so it is read as the canonical text is.
-/

/-! ### Places for white space -/

/-- A piece of a text: characters that stay, or a place where white space may be put in. -/
inductive Piece where
  /-- Characters that stay as they are. -/
  | text (chars : List Char)
  /-- A place for white space of every kind. -/
  | blanks
  /-- A place for spaces. -/
  | spaces

/-- The characters of a piece if every place for white space is filled with the same characters, and
    every place for spaces with the same number of spaces. -/
def Piece.filled (blanks : List Char) (count : Nat) : Piece → List Char
  | .text chars => chars
  | .blanks => blanks
  | .spaces => List.replicate count ' '

/-- A text of pieces in which something, or nothing, was put into every place. -/
inductive Widened : List Piece → List Char → Prop
  | nil : Widened [] []
  | text (chars : List Char) {pieces : List Piece} {rest : List Char} (h : Widened pieces rest) :
      Widened (.text chars :: pieces) (chars ++ rest)
  | blanks {blanks : List Char} {pieces : List Piece} {rest : List Char} (hb : allBlank blanks)
      (h : Widened pieces rest) : Widened (.blanks :: pieces) (blanks ++ rest)
  | spaces (count : Nat) {pieces : List Piece} {rest : List Char} (h : Widened pieces rest) :
      Widened (.spaces :: pieces) (List.replicate count ' ' ++ rest)

/-- Words with a space between them, and places for more spaces around it. -/
def spacedPieces : List (List Piece) → List Piece
  | [] => []
  | [word] => word
  | word :: next :: rest =>
    word ++ (.spaces :: .text [' '] :: .spaces :: spacedPieces (next :: rest))

/-- The pieces of a value list between its parentheses. -/
def listPieces : List Value → List Piece
  | [] => [.blanks]
  | [value] => [.blanks, .text value.chars, .blanks]
  | value :: next :: rest =>
    .blanks :: .text value.chars :: .blanks :: .text [','] :: .blanks :: .text [' '] ::
      listPieces (next :: rest)

/-- The words of a property test behind the name of the property, each as its pieces. -/
def PropertyTest.wordPieces : PropertyTest → List (List Piece)
  | .compare operator value => [[.text operator.symbol.toList], [.text value.chars]]
  | .text function argument => [[.text function.name.toList], [.text argument.chars]]
  | .isNullOrEmpty => [[.text PropertyFunction.isNullOrEmpty.name.toList]]
  | .between low high =>
    [[.text "between".toList], [.text low.chars], [.text "and".toList], [.text high.chars]]
  | .oneOf values =>
    [[.text "in".toList], .text ['('] :: (listPieces values ++ [.text [')']])]
  | .isNull => [[.text "is".toList], [.text "NULL".toList]]
  | .isNotNull => [[.text "is".toList], [.text "not".toList], [.text "NULL".toList]]
  | .within interval => [[.text interval.name.toList]]

/-- The pieces of two filters with a connective between them. -/
def Connective.pieces (connective : Connective) (left right : List Piece) : List Piece :=
  .blanks :: .text ['('] ::
    (left ++ .blanks :: .text [' '] :: .blanks :: .text connective.word :: .blanks :: .text [' '] ::
      (right ++ [.blanks, .text [')']]))

/-- The pieces of a filter's canonical text. A filter begins with a place for white space. -/
def Criteria.pieces : Criteria → List Piece
  | .and left right => Connective.and.pieces left.pieces right.pieces
  | .or left right => Connective.or.pieces left.pieces right.pieces
  | .not inner =>
    .blanks :: .text "not (".toList :: (inner.pieces ++ [.blanks, .text [')']])
  | .property name test =>
    .blanks :: .text ['['] :: .spaces ::
      (spacedPieces ([.text name.toList] :: test.wordPieces) ++ [.spaces, .text [']']])
  | .any name item =>
    .blanks :: .text ('[' :: (name.toList ++ ".Any(".toList)) ::
      (item.pieces ++ [.blanks, .text [')', ']']])
  | .currentUser => [.blanks, .text "CurrentUser".toList]

/-! ### Nothing in the places -/

/-- The characters of pieces with nothing in the places. -/
def plainChars (pieces : List Piece) : List Char :=
  pieces.flatMap (Piece.filled [] 0)

@[simp] theorem plainChars_nil : plainChars [] = [] := rfl

@[simp] theorem plainChars_text (chars : List Char) (rest : List Piece) :
    plainChars (.text chars :: rest) = chars ++ plainChars rest := rfl

@[simp] theorem plainChars_blanks (rest : List Piece) :
    plainChars (.blanks :: rest) = plainChars rest := rfl

@[simp] theorem plainChars_spaces (rest : List Piece) :
    plainChars (.spaces :: rest) = plainChars rest := rfl

@[simp] theorem plainChars_append (front rest : List Piece) :
    plainChars (front ++ rest) = plainChars front ++ plainChars rest :=
  List.flatMap_append

/-- With nothing in its places a value list is written canonically. -/
theorem plainChars_listPieces (values : List Value) :
    plainChars (listPieces values) = PropertyTest.listChars values := by
  induction values with
  | nil => rfl
  | cons value rest ih =>
    cases rest with
    | nil => simp [listPieces, PropertyTest.listChars]
    | cons next rest => simp [listPieces, PropertyTest.listChars, ih]

/-- With nothing in its places a property test is written canonically. -/
theorem plainChars_wordPieces (test : PropertyTest) :
    plainChars (spacedPieces test.wordPieces) = test.chars := by
  have hword : ∀ chars, plainChars (spacedPieces [[.text chars]]) = chars := by
    intro chars
    simp [spacedPieces]
  cases test with
  | compare operator value =>
    show _ = operator.symbol.toList ++ ' ' :: value.chars
    simp [PropertyTest.wordPieces, spacedPieces]
  | text function argument =>
    show _ = function.name.toList ++ ' ' :: argument.chars
    simp [PropertyTest.wordPieces, spacedPieces]
  | isNullOrEmpty => exact hword _
  | between low high => simp [PropertyTest.wordPieces, spacedPieces]
  | oneOf values => simp [PropertyTest.wordPieces, spacedPieces, plainChars_listPieces]
  | isNull => rfl
  | isNotNull => rfl
  | within interval => exact hword _

/-- **With nothing in its places a filter is written canonically.** -/
theorem Criteria.chars_pieces (criteria : Criteria) : plainChars criteria.pieces = criteria.chars := by
  induction criteria with
  | and left right ihl ihr => simp [pieces, Connective.pieces, Connective.word, ihl, ihr]
  | or left right ihl ihr => simp [pieces, Connective.pieces, Connective.word, ihl, ihr]
  | not inner ih => simp [pieces, ih]
  | property name test =>
    obtain ⟨word, rest, hwords⟩ : ∃ word rest, test.wordPieces = word :: rest := by
      cases test <;> exact ⟨_, _, rfl⟩
    have htest := plainChars_wordPieces test
    rw [hwords] at htest
    simp [pieces, hwords, spacedPieces, htest]
  | any name item ih => simp [pieces, ih]
  | currentUser => rfl

/-! ### Something in the places -/

namespace Widened

variable {pieces front rest : List Piece} {text : List Char}

/-- Pieces one after the other are widened one after the other. -/
theorem exists_append (h : Widened (front ++ rest) text) :
    ∃ before after, text = before ++ after ∧ Widened front before ∧ Widened rest after := by
  induction front generalizing text with
  | nil => exact ⟨[], text, rfl, .nil, h⟩
  | cons piece front ih =>
    cases h with
    | text chars h =>
      obtain ⟨before, after, rfl, hfront, hrest⟩ := ih h
      exact ⟨chars ++ before, after, (List.append_assoc ..).symm, .text chars hfront, hrest⟩
    | blanks hb h =>
      obtain ⟨before, after, rfl, hfront, hrest⟩ := ih h
      exact ⟨_ ++ before, after, (List.append_assoc ..).symm, .blanks hb hfront, hrest⟩
    | spaces count h =>
      obtain ⟨before, after, rfl, hfront, hrest⟩ := ih h
      exact ⟨_ ++ before, after, (List.append_assoc ..).symm, .spaces count hfront, hrest⟩

/-- A text begins with the characters of its first piece. -/
theorem exists_text {chars : List Char} (h : Widened (.text chars :: rest) text) :
    ∃ after, text = chars ++ after ∧ Widened rest after := by
  cases h with
  | text _ h => exact ⟨_, rfl, h⟩

/-- A text begins with blanks if its first piece is a place for them. -/
theorem exists_blanks (h : Widened (.blanks :: rest) text) :
    ∃ blanks after, text = blanks ++ after ∧ allBlank blanks ∧ Widened rest after := by
  cases h with
  | blanks hb h => exact ⟨_, _, rfl, hb, h⟩

/-- A text begins with spaces if its first piece is a place for them. -/
theorem exists_spaces (h : Widened (.spaces :: rest) text) :
    ∃ count after, text = List.replicate count ' ' ++ after ∧ Widened rest after := by
  cases h with
  | spaces count h => exact ⟨count, _, rfl, h⟩

/-- Characters that stay are what they are. -/
theorem eq_of_text {chars : List Char} (h : Widened [.text chars] text) : text = chars := by
  obtain ⟨_, rfl, hrest⟩ := h.exists_text
  cases hrest
  exact List.append_nil _

/-- Nothing but blanks stands in a place for them. -/
theorem allBlank_of_blanks (h : Widened [.blanks] text) : allBlank text := by
  obtain ⟨blanks, _, rfl, hb, hrest⟩ := h.exists_blanks
  cases hrest
  rwa [List.append_nil]

/-- The same may be put into every place. -/
theorem filled {blanks : List Char} (hb : allBlank blanks) (count : Nat) (pieces : List Piece) :
    Widened pieces (pieces.flatMap (Piece.filled blanks count)) := by
  induction pieces with
  | nil => exact .nil
  | cons piece rest ih =>
    cases piece with
    | text chars => exact .text chars ih
    | blanks => exact .blanks hb ih
    | spaces => exact .spaces count ih

end Widened

/-! ### Widened texts are layouts -/

/-- A widened value list is a layout of the list. -/
theorem listLayout_of_widened {values : List Value} {text : List Char}
    (h : Widened (listPieces values) text) : ListLayout values text := by
  induction values generalizing text with
  | nil => exact .empty h.allBlank_of_blanks
  | cons value rest ih =>
    cases rest with
    | nil =>
      obtain ⟨before, _, rfl, hb, htoken⟩ := h.exists_blanks
      obtain ⟨after, rfl, hafter⟩ := htoken.exists_text
      rw [← List.append_assoc]
      exact .last value hb hafter.allBlank_of_blanks
    | cons next rest =>
      obtain ⟨before, _, rfl, hb, htoken⟩ := h.exists_blanks
      obtain ⟨_, rfl, hbehind⟩ := htoken.exists_text
      obtain ⟨after, _, rfl, ha, hcomma⟩ := hbehind.exists_blanks
      obtain ⟨_, rfl, hlead⟩ := hcomma.exists_text
      obtain ⟨lead, _, rfl, hl, hspace⟩ := hlead.exists_blanks
      obtain ⟨text, rfl, hrest⟩ := hspace.exists_text
      -- The space behind the comma and the blanks before it stand in front of the other values.
      have hlead : allBlank (lead ++ [' ']) := allBlank_append hl (by decide)
      have hlayout := ListLayout.cons value hb ha ((ih hrest).append_blanks hlead)
      simpa only [List.append_assoc, List.cons_append, List.nil_append] using hlayout

/-- Widened words are spaced, whatever follows the spaces behind them. -/
theorem spaced_of_widened {pieces : List (List Piece)} {more : List Piece} {text : List Char}
    (hne : pieces ≠ []) (h : Widened (spacedPieces pieces ++ .spaces :: more) text) :
    ∃ words spaced after, text = spaced ++ after ∧ List.Forall₂ Widened pieces words
      ∧ Spaced words spaced ∧ Widened more after := by
  induction pieces generalizing text with
  | nil => exact absurd rfl hne
  | cons word rest ih =>
    cases rest with
    | nil =>
      obtain ⟨chars, _, rfl, hword, hspaces⟩ := h.exists_append
      obtain ⟨count, after, rfl, hmore⟩ := hspaces.exists_spaces
      exact ⟨[chars], _, after, (List.append_assoc ..).symm, .cons hword .nil, .last chars count,
        hmore⟩
    | cons next rest =>
      rw [spacedPieces, List.append_assoc] at h
      obtain ⟨chars, _, rfl, hword, hgap⟩ := h.exists_append
      obtain ⟨m, _, rfl, hspace⟩ := hgap.exists_spaces
      obtain ⟨_, rfl, hspaces⟩ := hspace.exists_text
      obtain ⟨n, _, rfl, hrest⟩ := hspaces.exists_spaces
      obtain ⟨words, spaced, after, rfl, hwords, hspaced, hmore⟩ :=
        ih (List.cons_ne_nil _ _) hrest
      cases hwords with
      | @cons _ first _ others hfirst hothers =>
        refine ⟨chars :: first :: others, _, after, ?_, .cons hword (.cons hfirst hothers),
          .cons chars (m + n) hspaced, hmore⟩
        -- All spaces between two words are alike.
        have hspaces : List.replicate m ' ' ++ ([' '] ++ List.replicate n ' ')
            = ' ' :: List.replicate (m + n) ' ' := by
          rw [← List.append_assoc, ← List.replicate_succ', List.replicate_append_replicate,
            Nat.add_right_comm, List.replicate_succ]
        rw [← List.cons_append, ← hspaces]
        simp only [List.append_assoc]

/-- The widened words of a property test are words of the test. -/
theorem PropertyTest.words_of_widened {test : PropertyTest} {words : List (List Char)}
    (h : List.Forall₂ Widened test.wordPieces words) : test.Words words := by
  cases test with
  | compare operator value =>
    obtain _ | ⟨hsymbol, _ | ⟨hvalue, _ | _⟩⟩ := h
    rw [hsymbol.eq_of_text, hvalue.eq_of_text]
    exact .compare operator value
  | text function argument =>
    obtain _ | ⟨hname, _ | ⟨hargument, _ | _⟩⟩ := h
    rw [hname.eq_of_text, hargument.eq_of_text]
    exact .text function argument
  | isNullOrEmpty =>
    obtain _ | ⟨hname, _ | _⟩ := h
    rw [hname.eq_of_text]
    exact .isNullOrEmpty
  | between low high =>
    obtain _ | ⟨hword, _ | ⟨hlow, _ | ⟨hand, _ | ⟨hhigh, _ | _⟩⟩⟩⟩ := h
    rw [hword.eq_of_text, hlow.eq_of_text, hand.eq_of_text, hhigh.eq_of_text]
    exact .between low high
  | oneOf values =>
    obtain _ | ⟨hword, _ | ⟨hlist, _ | _⟩⟩ := h
    rw [hword.eq_of_text]
    obtain ⟨_, rfl, hinner⟩ := hlist.exists_text
    obtain ⟨text, _, rfl, hvalues, hclose⟩ := hinner.exists_append
    rw [hclose.eq_of_text]
    exact .oneOf (listLayout_of_widened hvalues)
  | isNull =>
    obtain _ | ⟨his, _ | ⟨hnull, _ | _⟩⟩ := h
    rw [his.eq_of_text, hnull.eq_of_text]
    exact .isNull
  | isNotNull =>
    obtain _ | ⟨his, _ | ⟨hnot, _ | ⟨hnull, _ | _⟩⟩⟩ := h
    rw [his.eq_of_text, hnot.eq_of_text, hnull.eq_of_text]
    exact .isNotNull
  | within interval =>
    obtain _ | ⟨hname, _ | _⟩ := h
    rw [hname.eq_of_text]
    exact .within interval

namespace Criteria

/-- A text with blanks in front of a layout of the filter. -/
def LayoutBehindBlanks (criteria : Criteria) (text : List Char) : Prop :=
  ∃ before layout, text = before ++ layout ∧ allBlank before ∧ criteria.Layout layout

/-- Two widened filters with a widened connective between them are a layout of the joined filter. -/
theorem layout_of_widened_join (connective : Connective) {left right : Criteria} {text : List Char}
    (hl : ∀ {text}, Widened left.pieces text → left.LayoutBehindBlanks text)
    (hr : ∀ {text}, Widened right.pieces text → right.LayoutBehindBlanks text)
    (h : Widened (connective.pieces left.pieces right.pieces) text) :
    (connective.join left right).LayoutBehindBlanks text := by
  obtain ⟨before, _, rfl, hbefore, hopen⟩ := h.exists_blanks
  obtain ⟨_, rfl, hjoined⟩ := hopen.exists_text
  obtain ⟨_, _, rfl, hleft, h₁⟩ := hjoined.exists_append
  obtain ⟨a₁, _, rfl, ha₁, hspace₁⟩ := h₁.exists_blanks
  obtain ⟨_, rfl, h₂⟩ := hspace₁.exists_text
  obtain ⟨a₂, _, rfl, ha₂, hword⟩ := h₂.exists_blanks
  obtain ⟨_, rfl, h₃⟩ := hword.exists_text
  obtain ⟨a₃, _, rfl, ha₃, hspace₂⟩ := h₃.exists_blanks
  obtain ⟨_, rfl, h₄⟩ := hspace₂.exists_text
  obtain ⟨_, _, rfl, hright, h₅⟩ := h₄.exists_append
  obtain ⟨a₄, _, rfl, ha₄, hclose⟩ := h₅.exists_blanks
  obtain ⟨b₁, l, rfl, hb₁, hlayoutl⟩ := hl hleft
  obtain ⟨b₃, r, rfl, hb₃, hlayoutr⟩ := hr hright
  rw [hclose.eq_of_text]
  have hspace : allBlank [' '] := by decide
  -- The spaces of the canonical text keep the connective apart from the filters.
  have hlayout := Layout.join connective hb₁ hlayoutl
    (allBlank_append (allBlank_append ha₁ hspace) ha₂) (by simp)
    (allBlank_append (allBlank_append ha₃ hspace) hb₃) (by simp) hlayoutr ha₄
  refine ⟨before, _, ?_, hbefore, hlayout⟩
  simp only [List.append_assoc, List.cons_append, List.nil_append]

/-- **A widened text of a filter is a layout of the filter**, but for blanks in front of it. -/
theorem layout_of_widened {criteria : Criteria} {text : List Char}
    (h : Widened criteria.pieces text) : criteria.LayoutBehindBlanks text := by
  induction criteria generalizing text with
  | and left right ihl ihr => exact layout_of_widened_join .and ihl ihr h
  | or left right ihl ihr => exact layout_of_widened_join .or ihl ihr h
  | not inner ih =>
    obtain ⟨before, _, rfl, hbefore, hopen⟩ := h.exists_blanks
    obtain ⟨_, rfl, hrest⟩ := hopen.exists_text
    obtain ⟨_, _, rfl, hinner, hbehind⟩ := hrest.exists_append
    obtain ⟨after, _, rfl, hafter, hclose⟩ := hbehind.exists_blanks
    obtain ⟨b, layout, rfl, hb, hlayout⟩ := ih hinner
    rw [hclose.eq_of_text]
    refine ⟨before, _, ?_, hbefore, .not hb hlayout hafter⟩
    simp only [List.append_assoc]
  | property name test =>
    obtain ⟨before, _, rfl, hbefore, hopen⟩ := h.exists_blanks
    obtain ⟨_, rfl, hspaces⟩ := hopen.exists_text
    obtain ⟨count, _, rfl, hbody⟩ := hspaces.exists_spaces
    obtain ⟨words, spaced, _, rfl, hwords, hspaced, hclose⟩ :=
      spaced_of_widened (List.cons_ne_nil _ _) hbody
    obtain _ | ⟨hname, htest⟩ := hwords
    rw [hclose.eq_of_text]
    rw [hname.eq_of_text] at hspaced
    refine ⟨before, _, ?_, hbefore,
      .property count (PropertyTest.words_of_widened htest) hspaced⟩
    simp only [List.append_assoc, List.cons_append, List.nil_append]
  | any name item ih =>
    obtain ⟨before, _, rfl, hbefore, hopen⟩ := h.exists_blanks
    obtain ⟨_, rfl, hrest⟩ := hopen.exists_text
    obtain ⟨_, _, rfl, hitem, hbehind⟩ := hrest.exists_append
    obtain ⟨after, _, rfl, hafter, hclose⟩ := hbehind.exists_blanks
    obtain ⟨b, layout, rfl, hb, hlayout⟩ := ih hitem
    rw [hclose.eq_of_text]
    refine ⟨before, _, ?_, hbefore, .any name hb hlayout hafter⟩
    simp only [List.append_assoc, List.cons_append]
  | currentUser =>
    obtain ⟨before, _, rfl, hbefore, hword⟩ := h.exists_blanks
    rw [hword.eq_of_text]
    exact ⟨before, _, rfl, hbefore, .currentUser⟩

/-- **White space does not matter.** The pieces of a filter are its canonical text cut at the places
    for white space, and whatever is put into these places and behind the text, it is read as the
    canonical text is: as the filter. -/
theorem parse_widened {criteria : Criteria} (h : criteria.Constructible) :
    plainChars (criteria.pieces ++ [.blanks]) = criteria.text.toList
      ∧ ∀ text : String, Widened (criteria.pieces ++ [.blanks]) text.toList →
          parse .standard text = parse .standard criteria.text
            ∧ parse .standard text = .ok (some criteria) := by
  have hwf := (constructible_iff criteria).1 h
  constructor
  · rw [plainChars_append, chars_pieces, Criteria.text, String.toList_ofList]
    exact List.append_nil _
  · intro text hwidened
    obtain ⟨_, after, htext, hfilter, hafter⟩ := hwidened.exists_append
    obtain ⟨before, layout, rfl, hbefore, hlayout⟩ := layout_of_widened hfilter
    have hparse := parse_layout hlayout hwf (fun value _ => readsBack_standard value) hbefore
      hafter.allBlank_of_blanks
    rw [← List.append_assoc, ← htext, String.ofList_toList] at hparse
    exact ⟨hparse.trans (parse_text_of_wellFormed hwf).symm, hparse⟩

/-- A test of items with a value list, a negation and a group inside. -/
def roomy : Criteria :=
  .any "Lines" (.and (.property "Name" (.oneOf [.string "a, b", .null]))
    (.not (.or .currentUser (.property "Age" .isNotNull))))

/-- Its canonical text with a line break in every place for white space, and one more space on either
    side of every space between words. -/
def roomyText : String :=
  "\n[Lines.Any(\n(\n[ Name   in   (\n'a, b'\n,\n \n?\n) ]\n \nAND\n \nnot (\n(\nCurrentUser\n \nOR\n \n" ++
    "[ Age   is   not   NULL ]\n)\n)\n)\n)]\n"

theorem parse_widened_roomy :
    roomy.Constructible ∧ Widened (roomy.pieces ++ [.blanks]) roomyText.toList
      ∧ parse .standard roomyText = parse .standard roomy.text := by
  have h : roomy.Constructible := (constructible_iff roomy).2 (by decide +kernel)
  have htext : (roomy.pieces ++ [Piece.blanks]).flatMap (Piece.filled ['\n'] 1) = roomyText.toList := by
    decide +kernel
  have hwidened : Widened (roomy.pieces ++ [.blanks]) roomyText.toList := by
    have hbreak : allBlank ['\n'] := by decide
    rw [← htext]
    exact Widened.filled hbreak 1 _
  exact ⟨h, hwidened, ((parse_widened h).2 roomyText hwidened).1⟩

end Criteria

end RecordFilter
