import RecordFilter.Grammar.Scan

namespace RecordFilter

/-!
# What a scan passes over

The closing bracket, the tokens and the list items are found by three scans. Each of them follows
literals in the same way.

* `Scan` — a scan: its states, and the characters at which it stops.
* `Scan.Passes` — a scan goes through a text without a stop.
* `closingBracket?_append` — the bracket behind a text that is passed over is the closing one.
* `Span.tokens_cons`, `Span.listItems_cons` — a text that is passed over is one piece.
* `Scan.Passes.embed` — what keeps its delimiters inside literals is passed over by every scan.
-/

/-- A scan: how its state changes with a character, and at which characters it stops. -/
structure Scan (σ : Type) where
  /-- The state after a character. -/
  next : σ → Char → σ
  /-- Whether the scan stops at a character. -/
  stops : σ → Char → Bool

namespace Scan

variable {σ : Type} {scan : Scan σ} {state middle final : σ} {text more : List Char} {c : Char}

/-- The scan goes from one state to another through a text without a stop. -/
inductive Passes (scan : Scan σ) : σ → List Char → σ → Prop
  /-- Nothing is passed over. -/
  | nil (state : σ) : Passes scan state [] state
  /-- A character at which the scan does not stop, and then the rest. -/
  | cons {state final : σ} {c : Char} {rest : List Char} (hc : scan.stops state c = false)
      (hrest : Passes scan (scan.next state c) rest final) : Passes scan state (c :: rest) final

namespace Passes

/-- One character is passed over. -/
theorem single (h : scan.stops state c = false) : scan.Passes state [c] (scan.next state c) :=
  cons h (nil _)

/-- Texts that are passed over one after the other are passed over together. -/
theorem append (h : scan.Passes state text middle) (hmore : scan.Passes middle more final) :
    scan.Passes state (text ++ more) final := by
  induction h with
  | nil => exact hmore
  | cons hc _ ih => exact cons hc (ih hmore)

/-- Characters that mean nothing to the scan are passed over. -/
theorem of_forall (h : ∀ c ∈ text, scan.next state c = state ∧ scan.stops state c = false) :
    scan.Passes state text state := by
  induction text with
  | nil => exact nil state
  | cons c rest ih =>
    obtain ⟨hnext, hstops⟩ := h c List.mem_cons_self
    refine cons hstops ?_
    rw [hnext]
    exact ih fun d hd => h d (List.mem_cons_of_mem _ hd)

/-- A scan that moves along with another one passes over what that one passes over. -/
theorem embed {τ : Type} {other : Scan τ} (place : σ → τ)
    (hplace : ∀ state c, scan.stops state c = false →
      other.next (place state) c = place (scan.next state c) ∧ other.stops (place state) c = false)
    (h : scan.Passes state text final) : other.Passes (place state) text (place final) := by
  induction h with
  | nil => exact nil _
  | cons hc _ ih =>
    obtain ⟨hnext, hstops⟩ := hplace _ _ hc
    refine cons hstops ?_
    rw [hnext]
    exact ih

end Passes

/-! ### The four scans -/

/-- The characters that structure a filter text when they stand outside of literals. -/
def structuring : List Char :=
  ['[', ']', '(', ')', ',', ' ']

/-- The scan that stops at every structuring character outside of literals. -/
def literals : Scan LiteralState where
  next := LiteralState.after
  stops state c := state == .outside && structuring.contains c

/-- The scan for the closing bracket. Its state also counts the open brackets. -/
def brackets : Scan (LiteralState × Nat) where
  next := fun (state, depth) c =>
    (state.after c,
      if state = .outside then
        if c = '[' then depth + 1 else if c = ']' then depth - 1 else depth
      else depth)
  stops := fun (state, depth) c => state == .outside && depth == 0 && c == ']'

/-- The scan that cuts tokens. -/
def tokens : Scan TokenState where
  next := TokenState.after
  stops := TokenState.separates

/-- The scan that cuts list items. -/
def items : Scan LiteralState where
  next := LiteralState.after
  stops state c := state == .outside && c == ','

/-- A character that is not structuring, or inside a literal, is not one of the given structuring
    characters outside of literals. -/
theorem ne_of_literals {state : LiteralState} (h : literals.stops state c = false)
    (hstate : state = .outside) {d : Char} (hd : d ∈ structuring) : c ≠ d := by
  rintro rfl
  simp only [literals, hstate, beq_self_eq_true, Bool.true_and] at h
  rw [List.contains_iff_mem.2 hd] at h
  exact absurd h (by decide)

namespace Passes

variable {state final : LiteralState}

/-- Whatever the depth, the scan for brackets passes over what keeps its delimiters inside
    literals. -/
theorem brackets (h : literals.Passes state text final) (depth : Nat) :
    brackets.Passes (state, depth) text (final, depth) := by
  refine h.embed (fun state => (state, depth)) ?_
  intro state c hc
  -- Inside literals the scan looks at no brackets, and outside there are none.
  by_cases hstate : state = .outside
  · have hopen := ne_of_literals hc hstate (show '[' ∈ structuring by decide)
    have hclose := ne_of_literals hc hstate (show ']' ∈ structuring by decide)
    simp [Scan.brackets, literals, hopen, hclose]
  · simp [Scan.brackets, literals, hstate]

/-- However many parentheses are open, the scan for tokens passes over what keeps its delimiters
    inside literals. -/
theorem tokens (h : literals.Passes state text final) (parentheses : Nat) :
    tokens.Passes ⟨state, parentheses⟩ text ⟨final, parentheses⟩ := by
  refine h.embed (fun state => (⟨state, parentheses⟩ : TokenState)) ?_
  intro state c hc
  by_cases hstate : state = .outside
  · have hopen := ne_of_literals hc hstate (show '(' ∈ structuring by decide)
    have hclose := ne_of_literals hc hstate (show ')' ∈ structuring by decide)
    have hspace := ne_of_literals hc hstate (show ' ' ∈ structuring by decide)
    simp [Scan.tokens, literals, TokenState.after, TokenState.separates, hopen, hclose, hspace]
  · simp [Scan.tokens, literals, TokenState.after, TokenState.separates, hstate]

/-- The scan for list items passes over what keeps its delimiters inside literals. -/
theorem items (h : literals.Passes state text final) : items.Passes state text final := by
  refine h.embed id ?_
  intro state c hc
  by_cases hstate : state = .outside
  · have hcomma := ne_of_literals hc hstate (show ',' ∈ structuring by decide)
    simp [Scan.items, literals, hcomma]
  · simp [Scan.items, literals, hstate]

end Passes

/-- The scan for brackets passes over what has neither brackets nor delimiters of literals. -/
theorem passes_brackets_of_forall {text : List Char} (h : ∀ c ∈ text, c ∉ ['[', ']', '\'', '#'])
    (depth : Nat) : brackets.Passes (.outside, depth) text (.outside, depth) := by
  refine .of_forall fun c hc => ?_
  have hne := h c hc
  simp only [List.mem_cons, List.not_mem_nil, or_false, not_or] at hne
  obtain ⟨hopen, hclose, hquote, hhash⟩ := hne
  simp [brackets, LiteralState.after, hopen, hclose, hquote, hhash]

end Scan

open Scan

/-! ### Closing brackets -/

/-- Unfolding lemma: a character at which the scan does not stop belongs to the text before the
    closing bracket. -/
theorem closingBracketFrom?_cons {state : LiteralState × Nat} {c : Char}
    (hc : brackets.stops state c = false) (rest : List Char) :
    closingBracketFrom? state.1 state.2 (c :: rest)
      = (closingBracketFrom? (brackets.next state c).1 (brackets.next state c).2 rest).map
          fun (body, after) => (c :: body, after) := by
  obtain ⟨literal, depth⟩ := state
  by_cases hopen : literal = .outside ∧ c = '['
  · obtain ⟨rfl, rfl⟩ := hopen
    rfl
  -- A closing bracket that is no stop closes one that was opened before.
  · by_cases hclose : literal = .outside ∧ c = ']'
    · obtain ⟨rfl, rfl⟩ := hclose
      cases depth with
      | zero => exact absurd hc (by decide)
      | succ depth => rfl
    · have hnext : brackets.next (literal, depth) c = (literal.after c, depth) := by
        by_cases hliteral : literal = .outside
        · simp_all [brackets]
        · simp [brackets, hliteral]
      rw [hnext, closingBracketFrom?]
      · exact fun hliteral hc => hopen ⟨hliteral, hc⟩
      · exact fun hliteral hc _ => hclose ⟨hliteral, hc⟩
      · exact fun _ hliteral hc _ => hclose ⟨hliteral, hc⟩

/-- The search for the closing bracket goes on behind a text that is passed over. -/
theorem closingBracketFrom?_append {state final : LiteralState × Nat} {text : List Char}
    (h : brackets.Passes state text final) (rest : List Char) :
    closingBracketFrom? state.1 state.2 (text ++ rest)
      = (closingBracketFrom? final.1 final.2 rest).map
          fun (body, after) => (text ++ body, after) := by
  induction h with
  | nil => simp
  | cons hc _ ih =>
    rw [List.cons_append, closingBracketFrom?_cons hc, ih, Option.map_map]
    rfl

/-- **The bracket behind a text that is passed over is the closing one**, whatever follows it. -/
theorem closingBracket?_append {body : List Char}
    (h : brackets.Passes (.outside, 0) body (.outside, 0)) (rest : List Char) :
    closingBracket? (body ++ ']' :: rest) = some (body, rest) := by
  have hfind := closingBracketFrom?_append h (']' :: rest)
  rw [closingBracket?, hfind, closingBracketFrom?]
  simp

/-! ### Pieces -/

section Pieces

variable {σ : Type} {scan : Scan σ} {state final : σ} {text : List Char}

/-- The first piece begins where the text begins. -/
theorem start_cutFrom (next : σ → Char → σ) (cuts : σ → Char → Bool) (state : σ) (position : Nat)
    (text : List Char) : (cutFrom next cuts state position text).1.start = position := by
  cases text with
  | nil => rfl
  | cons c rest =>
    rw [cutFrom]
    dsimp only
    split <;> rfl

/-- A text that is passed over belongs to the first piece. -/
theorem cutFrom_append (h : scan.Passes state text final) (position : Nat) (rest : List Char) :
    cutFrom scan.next scan.stops state position (text ++ rest)
      = (⟨position, text
            ++ (cutFrom scan.next scan.stops final (position + byteLength text) rest).1.chars⟩,
          (cutFrom scan.next scan.stops final (position + byteLength text) rest).2) := by
  induction h generalizing position with
  | nil state =>
    -- The first piece of the rest is made again from its start and its characters.
    rw [List.nil_append, List.nil_append, byteLength, Nat.add_zero]
    generalize hcut : cutFrom scan.next scan.stops state position rest = pieces
    have hstart := start_cutFrom scan.next scan.stops state position rest
    rw [hcut] at hstart
    obtain ⟨⟨start, chars⟩, others⟩ := pieces
    rw [show start = position from hstart]
  | cons hc _ ih =>
    simp only [List.cons_append, cutFrom, hc, ih, byteLength, Nat.add_assoc, Bool.false_eq_true,
      if_false]

/-- A stretch that is passed over is one piece. -/
theorem Span.cut_of_passes (h : scan.Passes state text final) (position : Nat) :
    (⟨position, text⟩ : Span).cut scan.next scan.stops state = [⟨position, text⟩] := by
  have hcut := cutFrom_append h position []
  rw [List.append_nil] at hcut
  simp only [Span.cut, hcut, cutFrom, List.append_nil]

/-- A stretch is cut at the first character at which the scan stops. -/
theorem Span.cut_cons (h : scan.Passes state text final) {c : Char} (hc : scan.stops final c = true)
    (position : Nat) (rest : List Char) :
    (⟨position, text ++ c :: rest⟩ : Span).cut scan.next scan.stops state
      = ⟨position, text⟩ :: (⟨position + byteLength text + c.utf8Size, rest⟩ : Span).cut scan.next
          scan.stops (scan.next final c) := by
  simp only [Span.cut, cutFrom_append h, cutFrom, hc, if_true, List.append_nil]

end Pieces

/-! ### Tokens -/

namespace Span

/-- A text that is one token: not empty, and passed over by the scan for tokens. -/
structure IsToken (text : List Char) : Prop where
  ne_nil : text ≠ []
  passes : Scan.tokens.Passes .initial text .initial

variable {text : List Char}

/-- An empty stretch has no tokens. -/
@[simp] theorem tokens_nil (position : Nat) : (⟨position, []⟩ : Span).tokens = [] := rfl

/-- Unfolding lemma: the tokens are the pieces of the scan that are not empty. -/
theorem tokens_eq (span : Span) :
    span.tokens = (span.cut Scan.tokens.next Scan.tokens.stops .initial).filter
      fun piece => !piece.chars.isEmpty := rfl

/-- Spaces before a token do not count. -/
@[simp] theorem tokens_space (position : Nat) (rest : List Char) :
    (⟨position, ' ' :: rest⟩ : Span).tokens = (⟨position + 1, rest⟩ : Span).tokens := by
  have hcut := cut_cons (show Scan.tokens.Passes .initial [] .initial from .nil _)
    (show Scan.tokens.stops .initial ' ' = true from rfl) position rest
  rw [tokens_eq, show ' ' :: rest = [] ++ ' ' :: rest from rfl, hcut,
    List.filter_cons_of_neg (by simp)]
  rfl

/-- Several spaces before a token do not count either. -/
theorem tokens_spaces (count position : Nat) (rest : List Char) :
    (⟨position, List.replicate count ' ' ++ rest⟩ : Span).tokens
      = (⟨position + count, rest⟩ : Span).tokens := by
  induction count generalizing position with
  | zero => rfl
  | succ count ih =>
    rw [List.replicate_succ, List.cons_append, tokens_space, ih, Nat.add_assoc, Nat.add_comm 1]

/-- A token ends at the space behind it. -/
theorem tokens_cons (h : IsToken text) (position : Nat) (rest : List Char) :
    (⟨position, text ++ ' ' :: rest⟩ : Span).tokens
      = ⟨position, text⟩ :: (⟨position + byteLength text + 1, rest⟩ : Span).tokens := by
  have hcut := cut_cons h.passes (show Scan.tokens.stops .initial ' ' = true from rfl) position rest
  have hne := h.ne_nil
  rw [tokens_eq, hcut, List.filter_cons_of_pos (by simpa using hne)]
  rfl

/-- A token may end a stretch. -/
theorem tokens_last (h : IsToken text) (position : Nat) :
    (⟨position, text⟩ : Span).tokens = [⟨position, text⟩] := by
  have hne := h.ne_nil
  rw [tokens_eq, cut_of_passes h.passes, List.filter_cons_of_pos (by simpa using hne)]
  rfl

/-! ### List items -/

/-- An item ends at the comma behind it. -/
theorem listItems_cons (h : Scan.items.Passes .outside text .outside) (position : Nat)
    (rest : List Char) :
    (⟨position, text ++ ',' :: rest⟩ : Span).listItems
      = ⟨position, text⟩ :: (⟨position + byteLength text + 1, rest⟩ : Span).listItems :=
  cut_cons h (show Scan.items.stops .outside ',' = true from rfl) position rest

/-- An item may end a list. -/
theorem listItems_last (h : Scan.items.Passes .outside text .outside) (position : Nat) :
    (⟨position, text⟩ : Span).listItems = [⟨position, text⟩] :=
  cut_of_passes h position

end Span

end RecordFilter
