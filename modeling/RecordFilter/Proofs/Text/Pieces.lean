import Mathlib.Data.List.Infix
import RecordFilter.Text.Pieces

namespace RecordFilter.Text

/-!
# Cutting and joining

* `intercalate_splitOn`, `splitOn_intercalate` — joining undoes cutting, and cutting undoes joining unless a
  piece holds the separator.
* `not_mem_of_mem_splitOn`, `mem_intercalate`, `exists_mem_splitOn` — the characters of pieces and of joined
  pieces.
* `prefix_intercalate`, `suffix_intercalate`, `infix_intercalate` — joining some of the pieces in a row gives a
  stretch of all of them joined.
-/

variable {separator : Char} {text : List Char} {pieces : List (List Char)}

/-! ### Cutting -/

/-- Unfolding lemma: the pieces are those of the library's function. -/
theorem splitOn_eq (separator : Char) (text : List Char) :
    splitOn separator text = text.splitOn separator := by
  induction text with
  | nil => simp
  | cons c rest ih =>
    rw [splitOn, List.splitOn_cons_eq_if_modifyHead, ih]
    by_cases hc : c = separator
    · simp [hc]
    · cases hrest : rest.splitOn separator with
      | nil => exact absurd hrest (List.splitOn_ne_nil separator rest)
      | cons => simp [hc]

/-- Joining the pieces of a text gives the text. -/
@[simp] theorem intercalate_splitOn (separator : Char) (text : List Char) :
    [separator].intercalate (splitOn separator text) = text := by
  rw [splitOn_eq, List.intercalate_splitOn]

/-- Joined pieces are found again, as long as none of them holds the separator. -/
theorem splitOn_intercalate (hne : pieces ≠ []) (h : ∀ piece ∈ pieces, separator ∉ piece) :
    splitOn separator ([separator].intercalate pieces) = pieces := by
  rw [splitOn_eq, List.splitOn_intercalate separator h hne]

/-- No piece of a text holds the separator. -/
theorem not_mem_of_mem_splitOn {piece : List Char} (h : piece ∈ splitOn separator text) :
    separator ∉ piece := by
  induction text generalizing piece with
  | nil =>
    rw [splitOn_nil, List.mem_singleton] at h
    simp [h]
  | cons c rest ih =>
    rw [splitOn] at h
    by_cases hc : c = separator
    · rw [if_pos hc] at h
      rcases List.mem_cons.1 h with rfl | h
      · simp
      · exact ih h
    · rw [if_neg hc] at h
      cases hrest : splitOn separator rest with
      | nil => exact absurd hrest (splitOn_ne_nil separator rest)
      | cons first pieces =>
        rw [hrest] at h ih
        rcases List.mem_cons.1 h with rfl | h
        · simpa [Ne.symm hc] using ih List.mem_cons_self
        · exact ih (List.mem_cons_of_mem _ h)

/-! ### Joining -/

/-- The characters of joined pieces are those of the pieces, and of the separator if there are at
    least two. -/
theorem mem_intercalate {separator : List Char} {pieces : List (List Char)} {c : Char} :
    c ∈ separator.intercalate pieces
      ↔ (c ∈ separator ∧ 2 ≤ pieces.length) ∨ ∃ piece ∈ pieces, c ∈ piece := by
  induction pieces with
  | nil => simp
  | cons piece rest ih =>
    cases rest with
    | nil => simp
    | cons next rest =>
      rw [List.intercalate_cons_cons, List.mem_append, List.mem_append, ih]
      simp only [List.mem_cons, exists_eq_or_imp, List.length_cons]
      have hlength : 2 ≤ rest.length + 1 + 1 := by omega
      tauto

/-- A character that is no separator is in one of the pieces between separators. -/
theorem exists_mem_splitOn {c : Char} (h : c ∈ text) (hseparator : c ≠ separator) :
    ∃ piece ∈ splitOn separator text, c ∈ piece := by
  rw [← intercalate_splitOn separator text, mem_intercalate] at h
  exact h.resolve_left fun hboth => hseparator (List.mem_singleton.1 hboth.1)

/-- A part of the separator may be taken as one of the pieces behind it. -/
theorem intercalate_append_lead (separator lead first : List Char) (rest : List (List Char)) :
    (separator ++ lead).intercalate (first :: rest)
      = separator.intercalate (first :: rest.map fun piece => lead ++ piece) := by
  induction rest generalizing first with
  | nil => rfl
  | cons next rest ih =>
    rw [List.intercalate_cons_cons, ih, List.map_cons, List.intercalate_cons_cons]
    cases rest with
    | nil => simp
    | cons => simp [List.intercalate_cons_cons]

/-- Two lists of pieces are joined by joining each of them and a separator between. -/
theorem intercalate_append {front back : List (List Char)} (hfront : front ≠ []) (hback : back ≠ [])
    (separator : List Char) :
    separator.intercalate (front ++ back)
      = separator.intercalate front ++ separator ++ separator.intercalate back := by
  induction front with
  | nil => exact absurd rfl hfront
  | cons piece rest ih =>
    by_cases hrest : rest = []
    · rw [hrest, List.singleton_append, List.intercalate_cons_of_ne_nil hback, List.intercalate_singleton]
    · rw [List.cons_append, List.intercalate_cons_of_ne_nil (by simp [hrest]), ih hrest,
        List.intercalate_cons_of_ne_nil hrest]
      simp

/-- The first pieces joined begin all of them joined. -/
theorem prefix_intercalate (separator : List Char) {run : List (List Char)} (h : run <+: pieces) :
    separator.intercalate run <+: separator.intercalate pieces := by
  obtain ⟨rest, rfl⟩ := h
  by_cases hrun : run = []
  · simp [hrun]
  by_cases hrest : rest = []
  · simp [hrest]
  rw [intercalate_append hrun hrest, List.append_assoc]
  exact List.prefix_append _ _

/-- The last pieces joined end all of them joined. -/
theorem suffix_intercalate (separator : List Char) {run : List (List Char)} (h : run <:+ pieces) :
    separator.intercalate run <:+ separator.intercalate pieces := by
  obtain ⟨rest, rfl⟩ := h
  by_cases hrun : run = []
  · simp [hrun]
  by_cases hrest : rest = []
  · simp [hrest]
  rw [intercalate_append hrest hrun]
  exact List.suffix_append _ _

/-- Some pieces in a row joined are a stretch of all of them joined. -/
theorem infix_intercalate (separator : List Char) {run : List (List Char)} (h : run <:+: pieces) :
    separator.intercalate run <:+: separator.intercalate pieces := by
  obtain ⟨front, back, rfl⟩ := h
  exact (suffix_intercalate separator (List.suffix_append front run)).isInfix.trans
    (prefix_intercalate separator (List.prefix_append _ back)).isInfix

end RecordFilter.Text
