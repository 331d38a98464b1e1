import RecordFilter.Proofs.Grammar.Scan

namespace RecordFilter

open Scan

/-!
# Joined pieces are cut where they were joined

The three scans look for spaces, commas and brackets outside of literals, and two of them count brackets.
What they do to a text is told by the literals and brackets of the text alone.

* `Balanced` — the texts with closed literals and balanced brackets.
* `Balanced.passes` — a scan that follows literals and counts these brackets goes through them.
* `Span.tokens_spaced`, `Span.listItems_intercalate` — tokens with spaces between them and items with commas
  between them are found again where they stand.
* `Span.cut_joined` — so is the bracket that closes a text.
-/

/-! ### Balanced texts -/

/-- A character that neither begins a literal nor is a bracket. -/
def IsFree (brackets : List (Char × Char)) (c : Char) : Prop :=
  c ≠ '\'' ∧ c ≠ '#' ∧ ∀ pair ∈ brackets, c ≠ pair.1 ∧ c ≠ pair.2

instance (brackets : List (Char × Char)) (c : Char) : Decidable (IsFree brackets c) :=
  inferInstanceAs (Decidable (_ ∧ _))

/-- A text in which literals are closed, and brackets outside of literals are balanced. Outside of both
    only the allowed characters occur; within brackets any may. -/
inductive Balanced (brackets : List (Char × Char)) : (Char → Bool) → List Char → Prop
  | nil (allowed : Char → Bool) : Balanced brackets allowed []
  | char {allowed : Char → Bool} {c : Char} {text : List Char} (hc : allowed c = true)
      (hfree : IsFree brackets c) (h : Balanced brackets allowed text) :
      Balanced brackets allowed (c :: text)
  /-- A literal, which ends with the delimiter that it begins with. -/
  | literal {allowed : Char → Bool} {delimiter : Char} {body text : List Char}
      (hliteral : delimiter = '\'' ∨ delimiter = '#') (hbody : delimiter ∉ body)
      (h : Balanced brackets allowed text) :
      Balanced brackets allowed (delimiter :: (body ++ delimiter :: text))
  /-- Brackets around a text of any characters. -/
  | group {allowed : Char → Bool} {opening closing : Char} {inner text : List Char}
      (hbracket : (opening, closing) ∈ brackets) (hinner : Balanced brackets (fun _ => true) inner)
      (h : Balanced brackets allowed text) :
      Balanced brackets allowed (opening :: (inner ++ closing :: text))

/-! ### Literals -/

/-- The scan is inside a literal that ends with the delimiter. -/
def LiteralState.ClosedBy (state : LiteralState) (delimiter : Char) : Prop :=
  state ≠ .outside ∧ ∀ c, state.after c = if c = delimiter then .outside else state

/-- A delimiter begins a literal that ends with the same one. -/
theorem LiteralState.closedBy_after {delimiter : Char} (h : delimiter = '\'' ∨ delimiter = '#') :
    (LiteralState.outside.after delimiter).ClosedBy delimiter := by
  rcases h with rfl | rfl
  · exact ⟨by decide, fun _ => rfl⟩
  · exact ⟨by decide, fun _ => rfl⟩

/-- A literal keeps everything inside. -/
theorem Scan.passes_literal {delimiter : Char} {body : List Char}
    (hliteral : delimiter = '\'' ∨ delimiter = '#') (hbody : delimiter ∉ body) :
    literals.Passes .outside (delimiter :: (body ++ [delimiter])) .outside := by
  obtain ⟨hinside, hafter⟩ := LiteralState.closedBy_after hliteral
  have hstops : ∀ c, literals.stops (LiteralState.outside.after delimiter) c = false := by
    simp [literals, hinside]
  have hopening : literals.stops .outside delimiter = false := by
    rcases hliteral with rfl | rfl <;> decide
  have hpass : literals.Passes (LiteralState.outside.after delimiter) body
      (LiteralState.outside.after delimiter) := by
    refine .of_forall fun c hc => ⟨(hafter c).trans (if_neg ?_), hstops c⟩
    rintro rfl
    exact hbody hc
  have hclosing := Passes.single (hstops delimiter)
  rw [show literals.next (LiteralState.outside.after delimiter) delimiter = .outside from
    (hafter delimiter).trans (if_pos rfl)] at hclosing
  exact .cons hopening (hpass.append hclosing)

/-- The scan for list items leaves a literal at its end only. -/
theorem Scan.exists_of_passes_items {state : LiteralState} {delimiter : Char} {text : List Char}
    (hstate : state.ClosedBy delimiter) (h : items.Passes state text .outside) :
    ∃ body rest, text = body ++ delimiter :: rest ∧ delimiter ∉ body
      ∧ items.Passes .outside rest .outside := by
  induction text with
  | nil =>
    cases h
    exact absurd rfl hstate.1
  | cons c text ih =>
    obtain _ | ⟨_, hrest⟩ := h
    rw [show items.next state c = state.after c from rfl, hstate.2 c] at hrest
    by_cases hc : c = delimiter
    · rw [if_pos hc] at hrest
      exact ⟨[], text, by rw [hc, List.nil_append], List.not_mem_nil, hrest⟩
    · rw [if_neg hc] at hrest
      obtain ⟨body, rest, rfl, hbody, hpass⟩ := ih hrest
      exact ⟨c :: body, rest, rfl, by simp [Ne.symm hc, hbody], hpass⟩

/-! ### What the scans go through -/

/-- **A scan that follows literals and counts brackets goes through a balanced text.** The state of
    the scan outside of literals tells how many brackets are open. Within brackets no character stops
    it but a delimiter. -/
theorem Balanced.passes {σ : Type} {scan : Scan σ} {brackets : List (Char × Char)}
    {allowed : Char → Bool} {text : List Char} (h : Balanced brackets allowed text) (level : Nat → σ)
    (hliteral : ∀ {literal : List Char}, literals.Passes .outside literal .outside →
      ∀ depth, scan.Passes (level depth) literal (level depth))
    (hbracket : ∀ pair ∈ brackets, ∀ depth, scan.Passes (level depth) [pair.1] (level (depth + 1))
      ∧ scan.Passes (level (depth + 1)) [pair.2] (level depth)
      ∧ ∀ c, IsFree brackets c → scan.Passes (level (depth + 1)) [c] (level (depth + 1)))
    (depth : Nat) (hfree : ∀ c, IsFree brackets c → allowed c = true →
      scan.Passes (level depth) [c] (level depth)) : scan.Passes (level depth) text (level depth) := by
  induction h generalizing depth with
  | nil => exact .nil _
  | char hc hfreechar _ ih => exact (hfree _ hfreechar hc).append (ih depth hfree)
  | literal hdelimiter hbody _ ih =>
    have hpass := hliteral (passes_literal hdelimiter hbody) depth
    simpa using hpass.append (ih depth hfree)
  | group hmem _ _ ihinner ih =>
    obtain ⟨hopening, hclosing, hinner⟩ := hbracket _ hmem depth
    have hpass := ihinner (depth + 1) fun c hc _ => hinner c hc
    exact hopening.append (hpass.append (hclosing.append (ih depth hfree)))

/-- The scan for tokens goes through a text in which spaces stand inside literals or parentheses. -/
theorem Balanced.passes_tokens {text : List Char} (h : Balanced [('(', ')')] (· != ' ') text) :
    tokens.Passes .initial text .initial := by
  have hfree : ∀ c depth, IsFree [('(', ')')] c → c ≠ ' ' ∨ 0 < depth →
      tokens.Passes ⟨.outside, depth⟩ [c] ⟨.outside, depth⟩ := by
    rintro c depth ⟨hquote, hhash, hnone⟩ hspace
    obtain ⟨hopening, hclosing⟩ := hnone _ List.mem_cons_self
    have hstops : tokens.stops ⟨.outside, depth⟩ c = false := by
      rcases hspace with hspace | hdepth
      · simp [tokens, TokenState.separates, hspace]
      · simp [tokens, TokenState.separates, Nat.ne_of_gt hdepth]
    refine .cons hstops ?_
    simpa [tokens, TokenState.after, LiteralState.after, hquote, hhash, hopening, hclosing]
      using Passes.nil _
  refine h.passes (fun depth => (⟨.outside, depth⟩ : TokenState)) (fun h depth => h.tokens depth) ?_ 0
    fun c hc hspace => hfree c 0 hc (.inl (by simpa using hspace))
  intro pair hpair depth
  obtain rfl := List.mem_singleton.1 hpair
  refine ⟨.single ?_, .single ?_, fun c hc => hfree c _ hc (.inr depth.succ_pos)⟩
  · simp [tokens, TokenState.separates]
  · simp [tokens, TokenState.separates]

/-- The scan for list items goes through a text exactly if its literals are closed and its commas stand
    inside of them. -/
theorem passes_items_iff {text : List Char} :
    items.Passes .outside text .outside ↔ Balanced [] (· != ',') text := by
  constructor
  · intro h
    -- What follows a literal is shorter than the text.
    induction hlength : text.length using Nat.strongRecOn generalizing text with
    | ind length ih =>
      subst hlength
      cases h with
      | nil => exact .nil _
      | @cons _ _ c rest hc hrest =>
        by_cases hliteral : c = '\'' ∨ c = '#'
        · obtain ⟨body, more, rfl, hbody, hmore⟩ :=
            exists_of_passes_items (LiteralState.closedBy_after hliteral) hrest
          exact .literal hliteral hbody (ih _ (by simp; omega) hmore rfl)
        · obtain ⟨hquote, hhash⟩ := not_or.1 hliteral
          have hcomma : (c != ',') = true := by simpa [items] using hc
          rw [show items.next .outside c = .outside by
            simp [items, LiteralState.after, hquote, hhash]] at hrest
          exact .char hcomma ⟨hquote, hhash, List.forall_mem_nil _⟩ (ih _ (by simp) hrest rfl)
  · intro h
    refine h.passes (fun _ => LiteralState.outside) (fun h _ => h.items) (List.forall_mem_nil _) 0 ?_
    rintro c ⟨hquote, hhash, _⟩ hcomma
    refine .cons (by simpa [items] using hcomma) ?_
    simpa [items, LiteralState.after, hquote, hhash] using Passes.nil _

/-- The scan for the closing bracket goes through a text in which brackets are balanced. -/
theorem Balanced.passes_brackets {text : List Char} (h : Balanced [('[', ']')] (fun _ => true) text) :
    brackets.Passes (.outside, 0) text (.outside, 0) := by
  have hfree : ∀ c depth, IsFree [('[', ']')] c →
      Scan.brackets.Passes (.outside, depth) [c] (.outside, depth) := by
    rintro c depth ⟨hquote, hhash, hnone⟩
    obtain ⟨hopening, hclosing⟩ := hnone _ List.mem_cons_self
    exact passes_brackets_of_forall (by simp [hquote, hhash, hopening, hclosing]) depth
  refine h.passes (fun depth => (LiteralState.outside, depth)) (fun h depth => h.brackets depth) ?_ 0
    fun c hc _ => hfree c 0 hc
  intro pair hpair depth
  obtain rfl := List.mem_singleton.1 hpair
  exact ⟨.single (by simp [brackets]), .single (by simp [brackets]), fun c hc => hfree c _ hc⟩

/-! ### Pieces in their places -/

/-- Pieces of a text, each behind a gap of so many bytes, with the positions at which they stand. -/
def standing : Nat → List (Nat × List Char) → List Span
  | _, [] => []
  | position, (gap, piece) :: rest =>
    ⟨position + gap, piece⟩ :: standing (position + gap + byteLength piece) rest

/-- Whatever the gaps, these are the pieces. -/
theorem map_chars_standing (position : Nat) (pieces : List (Nat × List Char)) :
    (standing position pieces).map Span.chars = pieces.map Prod.snd := by
  induction pieces generalizing position with
  | nil => rfl
  | cons pair rest ih => rw [standing, List.map_cons, List.map_cons, ih]

/-- Tokens one after another, each behind a number of spaces. -/
def spaced (tokens : List (Nat × List Char)) : List Char :=
  tokens.flatMap fun (spaces, token) => List.replicate spaces ' ' ++ token

/-- Unfolding lemma: the first token, and the others behind it. -/
theorem spaced_cons (spaces : Nat) (token : List Char) (rest : List (Nat × List Char)) :
    spaced ((spaces, token) :: rest) = List.replicate spaces ' ' ++ (token ++ spaced rest) := by
  rw [spaced, List.flatMap_cons, List.append_assoc, spaced]

/-- Tokens behind gaps begin with a space. -/
theorem head?_spaced {gapped : List (Nat × List Char)} (hgap : ∀ pair ∈ gapped, pair.1 ≠ 0)
    (behind : Nat) : ∀ c ∈ (spaced gapped ++ List.replicate behind ' ').head?, c = ' ' := by
  intro c hc
  cases gapped with
  | nil => exact List.eq_of_mem_replicate (List.mem_of_mem_head? hc)
  | cons pair rest =>
    obtain ⟨spaces, hspaces⟩ := Nat.exists_eq_succ_of_ne_zero (hgap _ List.mem_cons_self)
    rw [spaced_cons, hspaces, List.replicate_succ] at hc
    exact (Option.some.inj hc).symm

namespace Span

/-- A token ends at a space, or with the text. -/
theorem tokens_append {text more : List Char} (h : IsToken text) (hmore : ∀ c ∈ more.head?, c = ' ')
    (position : Nat) :
    (⟨position, text ++ more⟩ : Span).tokens
      = ⟨position, text⟩ :: (⟨position + byteLength text, more⟩ : Span).tokens := by
  cases more with
  | nil => rw [List.append_nil, tokens_last h, tokens_nil]
  | cons c rest =>
    obtain rfl := hmore c rfl
    rw [tokens_cons h, tokens_space]

/-- **Tokens with spaces between them are found again** where they stand, whatever the numbers of
    spaces. -/
theorem tokens_spaced {gapped : List (Nat × List Char)} (htoken : ∀ pair ∈ gapped, IsToken pair.2)
    (hgap : ∀ pair ∈ gapped.tail, pair.1 ≠ 0) (behind position : Nat) :
    (⟨position, spaced gapped ++ List.replicate behind ' '⟩ : Span).tokens
      = standing position gapped := by
  induction gapped generalizing position with
  | nil =>
    have hspaces := tokens_spaces behind position []
    rw [List.append_nil] at hspaces
    exact hspaces
  | cons pair rest ih =>
    obtain ⟨spaces, token⟩ := pair
    obtain ⟨hfirst, htokens⟩ := List.forall_mem_cons.1 htoken
    have hmore := head?_spaced (show ∀ pair ∈ rest, pair.1 ≠ 0 from hgap) behind
    rw [spaced_cons, List.append_assoc, List.append_assoc, Span.tokens_spaces,
      tokens_append (show IsToken token from hfirst) hmore, standing,
      ih htokens fun pair hpair => hgap pair (List.mem_of_mem_tail hpair)]

/-- **Items with commas between them are found again** where they stand. -/
theorem listItems_intercalate {first : List Char} {rest : List (List Char)}
    (hitem : ∀ item ∈ first :: rest, Scan.items.Passes .outside item .outside) (position : Nat) :
    (⟨position, [','].intercalate (first :: rest)⟩ : Span).listItems
      = standing position ((0, first) :: rest.map fun item => (1, item)) := by
  -- Only the first item stands behind no comma.
  have hall : ∀ (gap start : Nat), start + gap = position →
      (⟨position, [','].intercalate (first :: rest)⟩ : Span).listItems
        = standing start ((gap, first) :: rest.map fun item => (1, item)) := by
    induction rest generalizing first position with
    | nil =>
      rintro gap start rfl
      rw [List.intercalate_singleton, listItems_last (hitem _ List.mem_cons_self)]
      rfl
    | cons next rest ih =>
      rintro gap start rfl
      obtain ⟨hfirst, hrest⟩ := List.forall_mem_cons.1 hitem
      rw [List.intercalate_cons_cons, List.append_assoc, List.singleton_append,
        listItems_cons hfirst, ih hrest _ 1 _ rfl]
      rfl
  exact hall 0 position rfl

/-- The byte position of the bracket that closes the one at the beginning of a text. -/
def closing? (span : Span) : Option Nat :=
  match span.chars with
  | '[' :: rest => (closingBracket? rest).map fun (body, _) => span.start + 1 + byteLength body
  | _ => none

/-- **The closing bracket is found** where it stands, whatever follows it. -/
theorem closing?_bracket {body : List Char}
    (h : Scan.brackets.Passes (.outside, 0) body (.outside, 0)) (position : Nat) (rest : List Char) :
    (⟨position, '[' :: (body ++ ']' :: rest)⟩ : Span).closing?
      = some (position + 1 + byteLength body) := by
  simp only [closing?, closingBracket?_append h]
  rfl

/-- **The three scans undo joining.** Tokens with spaces between them are found again, each at the
    byte position at which it stands, and so are list items with commas between them and the bracket
    that closes a text, as long as spaces, commas and brackets of their own stand inside of literals
    or are balanced. -/
theorem cut_joined :
    (∀ (position behind : Nat) (gapped : List (Nat × List Char)),
      (∀ pair ∈ gapped, pair.2 ≠ [] ∧ Balanced [('(', ')')] (· != ' ') pair.2) →
      (∀ pair ∈ gapped.tail, pair.1 ≠ 0) →
        (⟨position, spaced gapped ++ List.replicate behind ' '⟩ : Span).tokens
          = standing position gapped)
    ∧ (∀ (position : Nat) (first : List Char) (rest : List (List Char)),
      (∀ piece ∈ first :: rest, Balanced [] (· != ',') piece) →
        (⟨position, [','].intercalate (first :: rest)⟩ : Span).listItems
          = standing position ((0, first) :: rest.map fun piece => (1, piece)))
    ∧ ∀ (position : Nat) (body rest : List Char), Balanced [('[', ']')] (fun _ => true) body →
        closingBracket? (body ++ ']' :: rest) = some (body, rest)
          ∧ (⟨position, '[' :: (body ++ ']' :: rest)⟩ : Span).closing?
              = some (position + 1 + byteLength body) := by
  refine ⟨fun position behind gapped htoken hgap => ?_, fun position first rest hpiece => ?_,
    fun position body rest hbody => ?_⟩
  · exact tokens_spaced (fun pair hpair => ⟨(htoken pair hpair).1, (htoken pair hpair).2.passes_tokens⟩)
      hgap behind position
  · exact listItems_intercalate (fun piece hpiece' => passes_items_iff.2 (hpiece piece hpiece')) position
  · exact ⟨closingBracket?_append hbody.passes_brackets rest,
      closing?_bracket hbody.passes_brackets position rest⟩

/-- Texts with delimiters of every kind inside literals, and with a character of two bytes. -/
theorem cut_joined_literals :
    (ofString " n  ('é )' #'# ) ").tokens = [⟨1, ['n']⟩, ⟨4, "('é )' #'# )".toList⟩]
      ∧ (ofString "'a,b',,#é,#").listItems = [⟨0, "'a,b'".toList⟩, ⟨6, []⟩, ⟨7, "#é,#".toList⟩]
      ∧ (ofString "[é[']'#]#]]']").closing? = some 11 := by
  have hquote : '\'' = '\'' ∨ '\'' = '#' := .inl rfl
  have hhash : '#' = '\'' ∨ '#' = '#' := .inr rfl
  have hname : Balanced [('(', ')')] (· != ' ') ['n'] := .char (by decide) (by decide) (.nil _)
  have hlist : Balanced [('(', ')')] (· != ' ')
      ('(' :: ('\'' :: (['é', ' ', ')'] ++ '\'' :: ' ' :: '#' :: (['\''] ++ ['#', ' '])) ++ [')'])) :=
    .group List.mem_cons_self (.literal hquote (by decide) (.char rfl (by decide)
      (.literal hhash (by decide) (.char rfl (by decide) (.nil _))))) (.nil _)
  have hquoted : Balanced [] (· != ',') ('\'' :: (['a', ',', 'b'] ++ ['\''])) :=
    .literal hquote (by decide) (.nil _)
  have hhashed : Balanced [] (· != ',') ('#' :: (['é', ','] ++ ['#'])) :=
    .literal hhash (by decide) (.nil _)
  have hbody : Balanced [('[', ']')] (fun _ => true)
      ('é' :: '[' :: ('\'' :: ([']'] ++ '\'' :: '#' :: ([']'] ++ ['#'])) ++ [']'])) :=
    .char rfl (by decide) (.group List.mem_cons_self (.literal hquote (by decide)
      (.literal hhash (by decide) (.nil _))) (.nil _))
  obtain ⟨htokens, hitems, hclosing⟩ := cut_joined
  refine ⟨?_, ?_, (hclosing 0 _ "]']".toList hbody).2⟩
  · refine htokens 0 1 [(1, ['n']), (2, "('é )' #'# )".toList)] ?_ ?_
    · simp only [List.forall_mem_cons]
      exact ⟨⟨by decide, hname⟩, ⟨by decide, hlist⟩, nofun⟩
    · simp
  · refine hitems 0 "'a,b'".toList [[], "#é,#".toList] ?_
    simp only [List.forall_mem_cons]
    exact ⟨hquoted, .nil _, hhashed, nofun⟩

end Span

end RecordFilter
