namespace RecordFilter.Text

/-!
# Pieces of a text

* `splitOn` — the pieces of a text between the occurrences of a separator; `List.intercalate` is
  its inverse.
* `occursIn` — whether a text stands somewhere inside another one.
-/

/-- The pieces of a text between the occurrences of a separator character. There is always one more
    piece than separators, and pieces may be empty. -/
def splitOn (separator : Char) : List Char → List (List Char)
  | [] => [[]]
  | c :: rest =>
    if c = separator then [] :: splitOn separator rest
    else
      match splitOn separator rest with
      | [] => [[c]]
      | piece :: pieces => (c :: piece) :: pieces

@[simp] theorem splitOn_nil (separator : Char) : splitOn separator [] = [[]] := rfl

/-- A text has at least one piece. -/
theorem splitOn_ne_nil (separator : Char) (text : List Char) : splitOn separator text ≠ [] := by
  cases text with
  | nil => simp
  | cons c rest =>
    rw [splitOn]
    split
    · simp
    · split <;> simp

/-- Whether a text stands somewhere inside another one. -/
def occursIn (needle : List Char) : List Char → Bool
  | [] => needle.isEmpty
  | c :: rest => needle.isPrefixOf (c :: rest) || occursIn needle rest

end RecordFilter.Text
