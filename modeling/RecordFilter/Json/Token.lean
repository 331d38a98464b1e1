import RecordFilter.Json.Number

namespace RecordFilter

open Text

/-!
# JSON tokens

* `Json.Token` — brackets, separators, strings and the words between them.
* `Json.Token.ofChars?` — the tokens of a text.

A text is cut into tokens without regard to how they may follow each other. A word is a longest run of
characters that are neither blank nor punctuation; it stands for a number or for one of `null`, `true`
and `false`.
-/

namespace Json

/-- A token of a JSON text. -/
inductive Token where
  | openArray
  | closeArray
  | openObject
  | closeObject
  | comma
  | colon
  /-- A string, none if its escapes name half of a surrogate pair without the other. -/
  | string (value : Option String)
  /-- A number or a constant, none for a number beyond the doubles. -/
  | scalar (value : Option Json)

namespace Token

/-- The blanks of JSON. -/
def isSpace (c : Char) : Bool :=
  c == ' ' || c == '\t' || c == '\n' || c == '\r'

/-- The token that a punctuation character makes. -/
def punctuation? : Char → Option Token
  | '[' => some .openArray
  | ']' => some .closeArray
  | '\x7b' => some .openObject
  | '\x7d' => some .closeObject
  | ',' => some .comma
  | ':' => some .colon
  | _ => none

/-- A character that continues a word. -/
def continuesWord (c : Char) : Bool :=
  !(isSpace c || c == '"' || (punctuation? c).isSome)

/-! ### Strings -/

/-- The value of a hexadecimal digit. -/
def hexValue? (c : Char) : Option Nat :=
  if '0' ≤ c ∧ c ≤ '9' then some (c.toNat - '0'.toNat)
  else if 'a' ≤ c ∧ c ≤ 'f' then some (c.toNat - 'a'.toNat + 10)
  else if 'A' ≤ c ∧ c ≤ 'F' then some (c.toNat - 'A'.toNat + 10)
  else none

/-- The value of four hexadecimal digits. -/
def hexWord? (a b c d : Char) : Option Nat := do
  some (((← hexValue? a) * 16 + (← hexValue? b)) * 256 + (← hexValue? c) * 16 + (← hexValue? d))

/-- The character that a one-letter escape stands for. -/
def escape? : Char → Option Char
  | '"' => some '"'
  | '\\' => some '\\'
  | '/' => some '/'
  | 'b' => some '\x08'
  | 'f' => some '\x0c'
  | 'n' => some '\n'
  | 'r' => some '\r'
  | 't' => some '\t'
  | _ => none

/-- Reads a string after its opening quote. The answer is the string as code points, in which an
    escaped surrogate pair still is two halves, and the text after the closing quote. -/
def readString? : List Char → Option (List Nat × List Char)
  | [] => none
  | '"' :: rest => some ([], rest)
  | '\\' :: 'u' :: a :: b :: c :: d :: rest => do
    let unit ← hexWord? a b c d
    let (units, rest) ← readString? rest
    some (unit :: units, rest)
  | '\\' :: mark :: rest => do
    let c ← escape? mark
    let (units, rest) ← readString? rest
    some (c.toNat :: units, rest)
  | c :: rest =>
    if c.toNat < 32 ∨ c = '\\' then none
    else do
      let (units, rest) ← readString? rest
      some (c.toNat :: units, rest)

/-- What follows a string is no longer than what follows its opening quote. -/
theorem length_readString?_le {text rest : List Char} {units : List Nat}
    (h : readString? text = some (units, rest)) : rest.length ≤ text.length := by
  fun_induction readString? text generalizing units rest with
  | case1 => simp at h
  | case2 => simp_all
  | case3 a b c d tail ih =>
    simp only [Option.bind_eq_bind, Option.bind_eq_some_iff] at h
    obtain ⟨_, _, ⟨_, tail'⟩, ht, h⟩ := h
    have := ih ht
    simp_all
    omega
  | case4 mark tail _ ih =>
    simp only [Option.bind_eq_bind, Option.bind_eq_some_iff] at h
    obtain ⟨_, _, ⟨_, tail'⟩, ht, h⟩ := h
    have := ih ht
    simp_all
    omega
  | case5 => simp_all
  | case6 c tail _ _ _ _ ih =>
    simp only [Option.bind_eq_bind, Option.bind_eq_some_iff] at h
    obtain ⟨⟨_, tail'⟩, ht, h⟩ := h
    have := ih ht
    simp_all
    omega

/-- Joins the halves of surrogate pairs; none if a half stands alone. -/
def joinSurrogates? : List Nat → Option (List Char)
  | [] => some []
  | [unit] => if 0xD800 ≤ unit ∧ unit ≤ 0xDFFF then none else some [Char.ofNat unit]
  | unit :: next :: rest =>
    if 0xD800 ≤ unit ∧ unit ≤ 0xDFFF then
      if unit ≤ 0xDBFF ∧ 0xDC00 ≤ next ∧ next ≤ 0xDFFF then
        (joinSurrogates? rest).map
          (Char.ofNat (0x10000 + (unit - 0xD800) * 0x400 + (next - 0xDC00)) :: ·)
      else none
    else (joinSurrogates? (next :: rest)).map (Char.ofNat unit :: ·)

/-! ### Words -/

/-- The token of a word, if the word has a meaning. -/
def ofWord? (word : List Char) : Option Token :=
  if word = ['n', 'u', 'l', 'l'] then some (.scalar (some .null))
  else if word = ['t', 'r', 'u', 'e'] then some (.scalar (some (.bool true)))
  else if word = ['f', 'a', 'l', 's', 'e'] then some (.scalar (some (.bool false)))
  else (NumberToken.ofChars? word).map fun number => .scalar number.value?

/-! ### Texts -/

/-- The tokens of a text, if it can be cut into tokens. -/
def ofChars? (text : List Char) : Option (List Token) :=
  match text with
  | [] => some []
  | c :: rest =>
    if isSpace c then ofChars? rest
    else if c = '"' then
      match _found : readString? rest with
      | none => none
      | some (units, after) =>
        (ofChars? after).map (.string ((joinSurrogates? units).map String.ofList) :: ·)
    else
      match punctuation? c with
      | some token => (ofChars? rest).map (token :: ·)
      | none => do
        let token ← ofWord? (c :: rest.takeWhile continuesWord)
        let tokens ← ofChars? (rest.dropWhile continuesWord)
        some (token :: tokens)
termination_by text.length
decreasing_by
  · simp
  · have := length_readString?_le _found
    simp
    omega
  · simp
  · have := (List.dropWhile_sublist continuesWord (l := rest)).length_le
    simp
    omega

end Token

end Json

end RecordFilter
