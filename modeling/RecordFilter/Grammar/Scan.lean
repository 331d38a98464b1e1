import RecordFilter.Grammar.Span

namespace RecordFilter

/-!
# Scans that know literals

Brackets, blanks and commas inside a literal, `'…'` or `#…#`, do not structure a filter text.

* `LiteralState` — whether a scan is inside a literal, and of which kind.
* `closingBracket?` — cuts a text at the bracket that closes the one before it.
* `Span.tokens` — cuts a property criteria at the spaces outside of literals and parentheses.
* `Span.listItems` — cuts a value list at the commas outside of literals.
-/

/-- Where a scan stands with respect to literals. -/
inductive LiteralState where
  /-- Outside of literals. -/
  | outside
  /-- Inside a string literal. -/
  | quoted
  /-- Inside a date literal. -/
  | hashed
deriving DecidableEq

namespace LiteralState

/-- The state after a character. A delimiter opens a literal of its kind, and closes it again. -/
def after : LiteralState → Char → LiteralState
  | .outside, c => if c = '\'' then .quoted else if c = '#' then .hashed else .outside
  | .quoted, c => if c = '\'' then .outside else .quoted
  | .hashed, c => if c = '#' then .outside else .hashed

end LiteralState

/-! ### Closing brackets -/

/-- Cuts a text at the bracket that closes `depth + 1` open ones: the text before it and the text after
    it. -/
def closingBracketFrom? : LiteralState → Nat → List Char → Option (List Char × List Char)
  | _, _, [] => none
  | state, depth, c :: rest =>
    match state, c, depth with
    | .outside, ']', 0 => some ([], rest)
    | .outside, ']', depth + 1 =>
      (closingBracketFrom? .outside depth rest).map fun (body, after) => (']' :: body, after)
    | .outside, '[', depth =>
      (closingBracketFrom? .outside (depth + 1) rest).map fun (body, after) => ('[' :: body, after)
    | state, c, depth =>
      (closingBracketFrom? (state.after c) depth rest).map fun (body, after) => (c :: body, after)

/-- Cuts the text after an opening bracket at the bracket that closes it. -/
def closingBracket? (text : List Char) : Option (List Char × List Char) :=
  closingBracketFrom? .outside 0 text

/-- Nothing but the closing bracket lies between the two parts. -/
theorem eq_of_closingBracketFrom? {state : LiteralState} {depth : Nat}
    {text body after : List Char}
    (h : closingBracketFrom? state depth text = some (body, after)) :
    text = body ++ ']' :: after := by
  fun_induction closingBracketFrom? state depth text generalizing body after <;>
    simp_all only [Option.map_eq_some_iff, Prod.exists, Option.some.injEq, Prod.mk.injEq, reduceCtorEq]
  · simp [h.1.symm]
  all_goals
    obtain ⟨body', after', hb, rfl, rfl⟩ := h
    simp_all

/-- Both parts are shorter than the text that is cut. -/
theorem length_closingBracket?_lt {text body after : List Char}
    (h : closingBracket? text = some (body, after)) :
    body.length < text.length ∧ after.length < text.length := by
  rw [eq_of_closingBracketFrom? h]
  simp
  omega

/-! ### Cutting at separators -/

/-- Cuts a text that begins at the given position at every character at which the scan says so: the
    first piece and the others. -/
def cutFrom {σ : Type} (next : σ → Char → σ) (cuts : σ → Char → Bool) :
    σ → Nat → List Char → Span × List Span
  | _, position, [] => (⟨position, []⟩, [])
  | state, position, c :: rest =>
    let (first, others) := cutFrom next cuts (next state c) (position + c.utf8Size) rest
    if cuts state c then (⟨position, []⟩, first :: others)
    else (⟨position, c :: first.chars⟩, others)

/-- Cuts a stretch at every character at which the scan says so. There is at least one piece. -/
def Span.cut {σ : Type} (span : Span) (next : σ → Char → σ) (cuts : σ → Char → Bool)
    (state : σ) : List Span :=
  let (first, others) := cutFrom next cuts state span.start span.chars
  first :: others

/-- Where a scan for tokens stands: the literal it is in, and how many parentheses are open. -/
structure TokenState where
  literal : LiteralState
  parentheses : Nat
deriving DecidableEq

namespace TokenState

/-- The beginning of a scan. -/
def initial : TokenState :=
  ⟨.outside, 0⟩

/-- The state after a character. A closing parenthesis without an open one does not count. -/
def after (state : TokenState) (c : Char) : TokenState where
  literal := state.literal.after c
  parentheses :=
    if state.literal = .outside then
      if c = '(' then state.parentheses + 1
      else if c = ')' then state.parentheses - 1
      else state.parentheses
    else state.parentheses

/-- A space outside of literals and parentheses separates tokens. -/
def separates (state : TokenState) (c : Char) : Bool :=
  state.literal == .outside && state.parentheses == 0 && c == ' '

end TokenState

/-- The tokens of a property criteria: the pieces between separating spaces that are not empty. -/
def Span.tokens (span : Span) : List Span :=
  (span.cut TokenState.after TokenState.separates TokenState.initial).filter
    fun piece => !piece.chars.isEmpty

/-- The items of a value list: the pieces between the commas outside of literals. -/
def Span.listItems (span : Span) : List Span :=
  span.cut LiteralState.after (fun state c => state == .outside && c == ',') .outside

end RecordFilter
