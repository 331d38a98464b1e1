import RecordFilter.Json.Token

namespace RecordFilter

/-!
# Reading JSON

* `Json.ofText?` — reads a document, strictly as RFC 8259 has it, nested at most 127 deep.
* `Json.fieldsOfText?` — reads an object of which only some members matter.

Within a member that does not matter, depth, lone surrogates and numbers beyond the doubles are not
looked at; it only has to be well-formed.
-/

namespace Json

/-- How deep arrays and objects may be nested. -/
def maxDepth : Nat := 127

/-- What a reader leaves of the tokens it was given: at least one fewer. -/
abbrev Rest (tokens : List Token) := { rest : List Token // rest.length < tokens.length }

mutual

/-- Reads one value. A lenient reader takes strings and numbers without a value for empty ones. -/
def readValue? (lenient : Bool) (depth : Nat) (tokens : List Token) :
    Option (Json × Rest tokens) :=
  match tokens with
  | .scalar (some value) :: rest => some (value, ⟨rest, by simp⟩)
  | .scalar none :: rest => if lenient then some (.null, ⟨rest, by simp⟩) else none
  | .string (some value) :: rest => some (.string value, ⟨rest, by simp⟩)
  | .string none :: rest => if lenient then some (.null, ⟨rest, by simp⟩) else none
  | .openArray :: rest =>
    if depth = 0 then none
    else
      match rest with
      | .closeArray :: rest => some (.array [], ⟨rest, by simp only [List.length_cons]; omega⟩)
      | rest => do
        let (items, ⟨rest, _⟩) ← readItems? lenient (depth - 1) rest
        some (.array items, ⟨rest, by simp only [List.length_cons]; omega⟩)
  | .openObject :: rest =>
    if depth = 0 then none
    else
      match rest with
      | .closeObject :: rest => some (.object [], ⟨rest, by simp only [List.length_cons]; omega⟩)
      | rest => do
        let (members, ⟨rest, _⟩) ← readMembers? lenient (depth - 1) rest
        some (.object members, ⟨rest, by simp only [List.length_cons]; omega⟩)
  | _ => none
termination_by 2 * tokens.length
decreasing_by all_goals simp; omega

/-- Reads the items of an array up to its end. -/
def readItems? (lenient : Bool) (depth : Nat) (tokens : List Token) :
    Option (List Json × Rest tokens) := do
  let (item, ⟨rest, shorter⟩) ← readValue? lenient depth tokens
  match rest, shorter with
  | .closeArray :: rest, shorter => some ([item], ⟨rest, by simp at shorter; omega⟩)
  | .comma :: rest, shorter => do
    let (items, ⟨rest, shorter'⟩) ← readItems? lenient depth rest
    some (item :: items, ⟨rest, by simp at shorter; omega⟩)
  | _, _ => none
termination_by 2 * tokens.length + 1
decreasing_by
  · omega
  · simp at shorter
    omega

/-- Reads the members of an object up to its end. -/
def readMembers? (lenient : Bool) (depth : Nat) (tokens : List Token) :
    Option (List (String × Json) × Rest tokens) :=
  match tokens with
  | .string name :: .colon :: rest => do
    let name ← if lenient then some (name.getD "") else name
    let (value, ⟨rest, shorter⟩) ← readValue? lenient depth rest
    match rest, shorter with
    | .closeObject :: rest, shorter =>
      some ([(name, value)], ⟨rest, by simp at shorter ⊢; omega⟩)
    | .comma :: rest, shorter => do
      let (members, ⟨rest, shorter'⟩) ← readMembers? lenient depth rest
      some ((name, value) :: members, ⟨rest, by simp at shorter ⊢; omega⟩)
    | _, _ => none
  | _ => none
termination_by 2 * tokens.length + 1
decreasing_by
  · simp
    omega
  · simp at shorter ⊢
    omega

end

/-- Reads a document from its first to its last token. -/
def ofTokens? (tokens : List Token) : Option Json :=
  match readValue? false maxDepth tokens with
  | some (value, ⟨[], _⟩) => some value
  | _ => none

/-- Reads a document. -/
def ofText? (text : String) : Option Json :=
  (Token.ofChars? text.toList).bind ofTokens?

/-! ### Objects of which only some members matter -/

/-- Reads the members of an object up to the end of the text, and keeps those that are wanted. -/
def readWanted? (wanted : String → Bool) (tokens : List Token) :
    Option (List (String × Json)) :=
  match tokens with
  | .string (some name) :: .colon :: tokens => do
    let (value, ⟨rest, shorter⟩) ←
      if wanted name then readValue? false (maxDepth - 1) tokens
      else readValue? true tokens.length tokens
    let kept := if wanted name then [(name, value)] else []
    match rest, shorter with
    | [.closeObject], _ => some kept
    | .comma :: rest, _ => (readWanted? wanted rest).map (kept ++ ·)
    | _, _ => none
  | _ => none
termination_by tokens.length
decreasing_by
  simp_all
  omega

/-- Reads a document that is an object, and keeps the members that are wanted. -/
def fieldsOfText? (wanted : String → Bool) (text : String) : Option (List (String × Json)) := do
  match ← Token.ofChars? text.toList with
  | [.openObject, .closeObject] => some []
  | .openObject :: tokens => readWanted? wanted tokens
  | _ => none

end Json

end RecordFilter
