import Mathlib.Data.List.Basic
import RecordFilter.Proofs.Grammar.Joined

namespace RecordFilter

open Scan

/-!
# Where a scan stops

A text that a scan does not go through is cut. So what is found in one piece was gone through.

* `Scan.passes_or_stops` — a scan goes through a text, or stops at one of its characters.
* `passes_of_closingBracketFrom?` — the search goes through what it finds between brackets.
* `Span.tokens_eq_singleton_iff` — a text without spaces at its ends is one token exactly if the scan for
  tokens goes through it.
* `Span.passes_of_length_listItems` — joined items are one item each exactly if there are as many items as
  were joined.
-/

namespace Scan

variable {σ : Type} {scan : Scan σ} {state middle final : σ} {text more : List Char}

/-! ### Going through a text -/

/-- A scan goes through two texts if it goes through the first and then through the second. -/
theorem passes_append_iff :
    scan.Passes state (text ++ more) final
      ↔ ∃ middle, scan.Passes state text middle ∧ scan.Passes middle more final := by
  constructor
  · intro h
    induction text generalizing state with
    | nil => exact ⟨state, .nil state, h⟩
    | cons c text ih =>
      obtain _ | ⟨hc, hrest⟩ := h
      obtain ⟨middle, hpass, hmore⟩ := ih hrest
      exact ⟨middle, .cons hc hpass, hmore⟩
  · rintro ⟨middle, hpass, hmore⟩
    exact hpass.append hmore

/-- What a scan goes through leaves it in the state after the characters. -/
theorem Passes.final_eq (h : scan.Passes state text final) : final = text.foldl scan.next state := by
  induction h with
  | nil => rfl
  | cons _ _ ih => exact ih

/-- A scan goes through joined pieces if it goes through each of them and the separator. -/
theorem passes_intercalate {separator : List Char} {pieces : List (List Char)}
    (hseparator : scan.Passes state separator state)
    (hpiece : ∀ piece ∈ pieces, scan.Passes state piece state) :
    scan.Passes state (separator.intercalate pieces) state := by
  induction pieces with
  | nil => exact .nil state
  | cons piece rest ih =>
    obtain ⟨hfirst, hrest⟩ := List.forall_mem_cons.1 hpiece
    cases rest with
    | nil =>
      rw [List.intercalate_singleton]
      exact hfirst
    | cons next rest =>
      rw [List.intercalate_cons_cons]
      exact (hfirst.append hseparator).append (ih hrest)

/-- **A scan goes through a text, or it stops at one of the characters.** -/
theorem passes_or_stops (scan : Scan σ) (state : σ) (text : List Char) :
    (∃ final, scan.Passes state text final)
      ∨ ∃ front c rest middle, text = front ++ c :: rest ∧ scan.Passes state front middle
          ∧ scan.stops middle c = true := by
  induction text generalizing state with
  | nil => exact .inl ⟨state, .nil state⟩
  | cons c text ih =>
    cases hc : scan.stops state c with
    | true => exact .inr ⟨[], c, text, state, rfl, .nil state, hc⟩
    | false =>
      rcases ih (scan.next state c) with ⟨final, hpass⟩ | ⟨front, d, rest, middle, rfl, hpass, hd⟩
      · exact .inl ⟨final, .cons hc hpass⟩
      · exact .inr ⟨c :: front, d, rest, middle, rfl, .cons hc hpass, hd⟩

/-! ### Counting the stops -/

/-- At how many characters of a text a scan stops. -/
def stopCount (scan : Scan σ) : σ → List Char → Nat
  | _, [] => 0
  | state, c :: rest => (if scan.stops state c then 1 else 0) + scan.stopCount (scan.next state c) rest

/-- The stops in two texts add up. -/
theorem stopCount_append (scan : Scan σ) (state : σ) (text more : List Char) :
    scan.stopCount state (text ++ more)
      = scan.stopCount state text + scan.stopCount (text.foldl scan.next state) more := by
  induction text generalizing state with
  | nil => simp [stopCount]
  | cons c text ih => rw [List.cons_append, stopCount, ih, stopCount, List.foldl_cons, Nat.add_assoc]

/-- A scan without a stop goes through the text. -/
theorem passes_of_stopCount (h : scan.stopCount state text = 0) :
    scan.Passes state text (text.foldl scan.next state) := by
  induction text generalizing state with
  | nil => exact .nil state
  | cons c text ih =>
    rw [stopCount, Nat.add_eq_zero_iff] at h
    exact .cons (by simpa using h.1) (ih h.2)

end Scan

/-- There is one more piece than stops. -/
theorem length_cut {σ : Type} (scan : Scan σ) (state : σ) (span : Span) :
    (span.cut scan.next scan.stops state).length = scan.stopCount state span.chars + 1 := by
  obtain ⟨position, text⟩ := span
  have hothers : ∀ (state : σ) (position : Nat),
      (cutFrom scan.next scan.stops state position text).2.length = scan.stopCount state text := by
    induction text with
    | nil => exact fun _ _ => rfl
    | cons c text ih =>
      intro state position
      rw [cutFrom, stopCount]
      dsimp only
      split
      · rw [List.length_cons, ih, Nat.add_comm]
      · rw [ih, Nat.zero_add]
  exact congrArg Nat.succ (hothers state position)

/-! ### Closing brackets -/

/-- The search for a closing bracket goes through the text before it. -/
theorem passes_of_closingBracketFrom? {state : LiteralState} {depth : Nat}
    {text body after : List Char} (h : closingBracketFrom? state depth text = some (body, after)) :
    brackets.Passes (state, depth) body (.outside, 0) := by
  induction text generalizing state depth body with
  | nil => cases h
  | cons c text ih =>
    cases hc : brackets.stops (state, depth) c with
    | true =>
      -- The scan stops only outside of literals, at a closing bracket that no other one opened.
      simp only [brackets, Bool.and_eq_true, beq_iff_eq] at hc
      obtain ⟨⟨rfl, rfl⟩, rfl⟩ := hc
      cases h
      exact .nil _
    | false =>
      rw [closingBracketFrom?_cons (show brackets.stops (state, depth) c = false from hc)] at h
      obtain ⟨⟨body, after⟩, hrest, heq⟩ := Option.map_eq_some_iff.1 h
      cases heq
      exact .cons hc (ih hrest)

/-- The scan for the closing bracket follows literals. -/
theorem literal_of_passes_brackets {state final : LiteralState × Nat} {text : List Char}
    (h : brackets.Passes state text final) : text.foldl LiteralState.after state.1 = final.1 := by
  induction h with
  | nil => rfl
  | cons _ _ ih => exact ih

/-! ### Tokens -/

/-- A character at which the scan never stops is in one of the pieces. -/
theorem exists_mem_cut {σ : Type} {scan : Scan σ} {c : Char} (hc : ∀ state, scan.stops state c = false)
    (state : σ) {span : Span} (h : c ∈ span.chars) :
    ∃ piece ∈ span.cut scan.next scan.stops state, c ∈ piece.chars := by
  obtain ⟨position, text⟩ := span
  have hpieces : ∀ (state : σ) (position : Nat),
      c ∈ (cutFrom scan.next scan.stops state position text).1.chars
        ∨ ∃ piece ∈ (cutFrom scan.next scan.stops state position text).2, c ∈ piece.chars := by
    induction text with
    | nil => cases h
    | cons d text ih =>
      intro state position
      rw [cutFrom]
      dsimp only
      rcases List.mem_cons.1 h with rfl | hmem
      · rw [if_neg (by simp [hc])]
        exact .inl List.mem_cons_self
      · rcases ih hmem (scan.next state d) (position + d.utf8Size) with hfirst | ⟨piece, hpiece, hin⟩
        · split
          · exact .inr ⟨_, List.mem_cons_self, hfirst⟩
          · exact .inl (List.mem_cons_of_mem _ hfirst)
        · split
          · exact .inr ⟨piece, List.mem_cons_of_mem _ hpiece, hin⟩
          · exact .inr ⟨piece, hpiece, hin⟩
  rcases hpieces state position with hfirst | ⟨piece, hpiece, hin⟩
  · exact ⟨_, List.mem_cons_self, hfirst⟩
  · exact ⟨piece, List.mem_cons_of_mem _ hpiece, hin⟩

namespace Span

/-- A text with a character other than a space has a token. -/
theorem tokens_ne_nil {span : Span} {c : Char} (h : c ∈ span.chars) (hc : c ≠ ' ') :
    span.tokens ≠ [] := by
  have hstops : ∀ state, Scan.tokens.stops state c = false := by
    simp [Scan.tokens, TokenState.separates, hc]
  obtain ⟨piece, hpiece, hin⟩ := exists_mem_cut hstops .initial h
  have htoken : piece ∈ span.tokens :=
    List.mem_filter.2 ⟨hpiece, by simpa using List.ne_nil_of_mem hin⟩
  exact List.ne_nil_of_mem htoken

/-- What the scan for tokens goes through is one token. -/
theorem tokens_of_passes {text : List Char} {final : TokenState}
    (h : Scan.tokens.Passes .initial text final) (hne : text ≠ []) (position : Nat) :
    (⟨position, text⟩ : Span).tokens = [⟨position, text⟩] := by
  rw [tokens_eq, cut_of_passes h, List.filter_cons_of_pos (by simpa using hne)]
  rfl

/-- **A text that neither begins nor ends with a space is one token exactly if the scan for tokens goes
    through it.** -/
theorem tokens_eq_singleton_iff {text : List Char} {c d : Char} (hhead : text.head? = some c)
    (hlast : text.getLast? = some d) (hc : c ≠ ' ') (hd : d ≠ ' ') {position : Nat} {token : Span} :
    (⟨position, text⟩ : Span).tokens = [token]
      ↔ (∃ final, Scan.tokens.Passes .initial text final) ∧ token = ⟨position, text⟩ := by
  have hne : text ≠ [] := by
    rintro rfl
    cases hhead
  constructor
  · intro h
    rcases passes_or_stops Scan.tokens .initial text with
      ⟨final, hpass⟩ | ⟨front, e, rest, middle, rfl, hpass, hstop⟩
    · rw [tokens_of_passes hpass hne] at h
      exact ⟨⟨final, hpass⟩, (List.singleton_inj.1 h).symm⟩
    · -- A space cuts off a first token, and the last character is in another one.
      simp only [Scan.tokens, TokenState.separates, Bool.and_eq_true, beq_iff_eq] at hstop
      obtain ⟨⟨hliteral, hparentheses⟩, rfl⟩ := hstop
      obtain rfl : middle = .initial := by
        cases middle
        simp_all [TokenState.initial]
      have hfront : front ≠ [] := by
        rintro rfl
        exact hc (Option.some.inj hhead).symm
      have hrest : d ∈ rest := by
        rw [List.getLast?_append_cons] at hlast
        exact (List.mem_cons.1 (List.mem_of_getLast? hlast)).resolve_left hd
      rw [tokens_cons ⟨hfront, hpass⟩] at h
      exact absurd (List.cons.inj h).2 (tokens_ne_nil hrest hd)
  · rintro ⟨⟨final, hpass⟩, rfl⟩
    exact tokens_of_passes hpass hne position

/-! ### List items -/

/-- The scan for items stops between joined items and wherever it stops in one of them. -/
theorem stopCount_add_length_le {first : List Char} {rest : List (List Char)}
    (hclosed : ∀ item ∈ first :: rest, item.foldl LiteralState.after .outside = .outside) :
    ∀ item ∈ first :: rest, Scan.items.stopCount .outside item + rest.length
      ≤ Scan.items.stopCount .outside ([','].intercalate (first :: rest)) := by
  induction rest generalizing first with
  | nil =>
    intro item hitem
    rw [List.mem_singleton.1 hitem, List.intercalate_singleton]
    exact Nat.le_refl _
  | cons next rest ih =>
    obtain ⟨hfirst, hrest⟩ := List.forall_mem_cons.1 hclosed
    have hcomma : ∀ more, Scan.items.stopCount .outside (',' :: more)
        = 1 + Scan.items.stopCount .outside more := fun _ => rfl
    rw [List.intercalate_cons_cons, List.append_assoc, List.singleton_append, stopCount_append,
      show first.foldl Scan.items.next .outside = .outside from hfirst, hcomma, List.length_cons]
    intro item hitem
    rcases List.mem_cons.1 hitem with rfl | hitem
    · have hnext := ih hrest next List.mem_cons_self
      omega
    · have hle := ih hrest item hitem
      omega

/-- **If there are as many list items as were joined, the scan for items goes through each of them.** -/
theorem passes_of_length_listItems {items : List (List Char)}
    (hclosed : ∀ item ∈ items, item.foldl LiteralState.after .outside = .outside) {position : Nat}
    (hlength : (⟨position, [','].intercalate items⟩ : Span).listItems.length = items.length) :
    ∀ item ∈ items, Scan.items.Passes .outside item .outside := by
  cases items with
  | nil => exact nofun
  | cons first rest =>
    have hcount : Scan.items.stopCount .outside ([','].intercalate (first :: rest)) + 1
        = rest.length + 1 :=
      (length_cut Scan.items .outside ⟨position, _⟩).symm.trans hlength
    intro item hitem
    have hle := stopCount_add_length_le hclosed item hitem
    have hpass := passes_of_stopCount (show Scan.items.stopCount .outside item = 0 by omega)
    rwa [show item.foldl Scan.items.next .outside = .outside from hclosed item hitem] at hpass

end Span

end RecordFilter
