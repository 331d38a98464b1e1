import RecordFilter.Proofs.Json.Doubles
import RecordFilter.Proofs.Json.RoundTrip

namespace RecordFilter

/-!
# Documents as they are read back

A reader rounds a double twice, so that it may take what was written for another double than the one that was
written. All else in a document is read back as it was.

* `Double.jsonRounded` — the double that the written form of a double is read as.
* `Json.rounded` — a document with its doubles so rounded.
* `Json.ofText?_text_of_numbersFit` — every written document is read back so, unless it is nested too deep.
-/

/-- The double that the JSON form of a double is read as. -/
def Double.jsonRounded (value : Double) : Double :=
  match Json.Token.ofWord? (Json.chars (.float value)) with
  | some (.scalar (some (.float read))) => read
  | _ => value

/-- The JSON form of a finite double is read as a finite double. -/
theorem Double.IsFinite.ofWord?_chars {value : Double} (h : value.IsFinite) :
    value.jsonRounded.IsFinite
      ∧ Json.Token.ofWord? (Json.chars (.float value))
        = some (.scalar (some (.float value.jsonRounded))) := by
  obtain ⟨read, hread, hword⟩ := Json.exists_ofWord?_float h
  have heq : value.jsonRounded = read := by
    rw [jsonRounded, hword]
  rw [heq]
  exact ⟨hread, hword⟩

namespace Json

mutual

/-- A document as it is read back from its text. -/
def rounded : Json → Json
  | .float value => .float value.jsonRounded
  | .array items => .array (roundedItems items)
  | .object members => .object (roundedMembers members)
  | other => other

/-- The items of an array as they are read back. -/
def roundedItems : List Json → List Json
  | [] => []
  | item :: rest => item.rounded :: roundedItems rest

/-- The members of an object as they are read back. -/
def roundedMembers : List (String × Json) → List (String × Json)
  | [] => []
  | (name, value) :: rest => (name, value.rounded) :: roundedMembers rest

end

/-- Unfolding lemma: items are read back one by one. -/
theorem roundedItems_eq_map (items : List Json) : roundedItems items = items.map rounded := by
  induction items with
  | nil => rfl
  | cons item rest ih => rw [roundedItems, ih, List.map_cons]

/-- Unfolding lemma: members are read back one by one. -/
theorem roundedMembers_eq_map (members : List (String × Json)) :
    roundedMembers members = members.map fun member => (member.1, member.2.rounded) := by
  induction members with
  | nil => rfl
  | cons member rest ih => rw [roundedMembers, ih, List.map_cons]

/-- What is read back is nested as deep as what was written. -/
theorem depth_rounded (document : Json) : document.rounded.depth = document.depth := by
  induction document using induction with
  | null => rfl
  | bool => rfl
  | int => rfl
  | float => rfl
  | string => rfl
  | array items ih =>
    have hitems : itemsDepth (roundedItems items) = itemsDepth items := by
      induction items with
      | nil => rfl
      | cons item rest ihrest =>
        obtain ⟨hitem, hrest⟩ := List.forall_mem_cons.1 ih
        rw [roundedItems, itemsDepth, itemsDepth, hitem, ihrest hrest]
    rw [rounded, depth, depth, hitems]
  | object members ih =>
    have hmembers : membersDepth (roundedMembers members) = membersDepth members := by
      induction members with
      | nil => rfl
      | cons member rest ihrest =>
        obtain ⟨hmember, hrest⟩ := List.forall_mem_cons.1 ih
        rw [roundedMembers, membersDepth, membersDepth, hmember, ihrest hrest]
    rw [rounded, depth, depth, hmembers]

/-- A written document is cut into the tokens of what is read back. -/
theorem NumbersFit.cuts {document : Json} (h : document.NumbersFit) :
    Cuts document.chars document.rounded.tokens := by
  induction h with
  | null => exact isWord_null.cuts
  | bool value => exact (isWord_bool value).cuts
  | int value lower upper => exact (isWord_int lower upper).cuts
  | float value finite =>
    have hword := finite.ofWord?_chars.2
    cases finite with
    | finite negative magnitude =>
      exact cuts_word hword fun c hc => continuesWord_of_mem_chars_finite hc
  | string value => exact cuts_stringChars value
  | array items _ ih =>
    rw [rounded, roundedItems_eq_map]
    refine Cuts.bracketed rfl (cuts_itemsChars (List.forall₂_map_right_iff.2
      (List.forall₂_same.2 ?_))) rfl
    exact ih
  | object members _ ih =>
    rw [rounded, roundedMembers_eq_map]
    refine Cuts.bracketed rfl (cuts_membersChars (List.forall₂_map_right_iff.2
      (List.forall₂_same.2 ?_))) rfl
    exact fun member hmember => ⟨rfl, ih member hmember⟩

/-- **Every written document is read back, but for the rounding of its doubles, if it is not nested too
    deep**, and else not at all. -/
theorem ofText?_text_of_numbersFit {document : Json} (h : document.NumbersFit) :
    ofText? document.text
      = if document.depth ≤ maxDepth then some document.rounded else none := by
  rw [← depth_rounded]
  exact h.cuts.ofText?

end Json

end RecordFilter
