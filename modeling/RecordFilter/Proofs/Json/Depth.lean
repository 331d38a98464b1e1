import RecordFilter.Proofs.Json.Invariant

namespace RecordFilter

/-!
# How deep documents are nested

* `Json.depth` — how deep the arrays and objects of a document are nested.
* `Json.depth_le_of_ofText?` — a document that is read from a text is nested at most as deep as a
  reader allows.
-/

/-- A number has no parts. -/
theorem NumberToken.eq_int_or_float_of_value? {token : NumberToken} {document : Json}
    (h : token.value? = some document) :
    (∃ number, document = .int number) ∨ ∃ number, document = .float number := by
  unfold value? at h
  dsimp only at h
  split at h
  case isTrue =>
    cases h
    exact .inl ⟨_, rfl⟩
  case isFalse =>
    split at h
    case isTrue =>
      cases h
      exact .inl ⟨_, rfl⟩
    case isFalse =>
      obtain ⟨magnitude, _, rfl⟩ := Option.map_eq_some_iff.1 h
      exact .inr ⟨_, rfl⟩

namespace Json

mutual

/-- How deep the arrays and objects of a document are nested. -/
def depth : Json → Nat
  | .array items => itemsDepth items + 1
  | .object members => membersDepth members + 1
  | _ => 0

/-- How deep the items of an array are nested. -/
def itemsDepth : List Json → Nat
  | [] => 0
  | item :: rest => max item.depth (itemsDepth rest)

/-- How deep the values of an object are nested. -/
def membersDepth : List (String × Json) → Nat
  | [] => 0
  | (_, value) :: rest => max value.depth (membersDepth rest)

end

/-- Items are nested as deep as the deepest of them. -/
theorem itemsDepth_le_iff {items : List Json} {bound : Nat} :
    itemsDepth items ≤ bound ↔ ∀ item ∈ items, item.depth ≤ bound := by
  induction items with
  | nil => simp [itemsDepth]
  | cons item rest ih => rw [itemsDepth, Nat.max_le, ih, List.forall_mem_cons]

/-- Members are nested as deep as the deepest of them. -/
theorem membersDepth_le_iff {members : List (String × Json)} {bound : Nat} :
    membersDepth members ≤ bound ↔ ∀ member ∈ members, member.2.depth ≤ bound := by
  induction members with
  | nil => simp [membersDepth]
  | cons member rest ih => rw [membersDepth, Nat.max_le, ih, List.forall_mem_cons]

/-- A reader never reads deeper than it may. -/
theorem invariant_depth_le : Invariant fun depth document => document.depth ≤ depth where
  null := Nat.zero_le
  bool depth _ := Nat.zero_le depth
  number depth _ document h := by
    obtain ⟨number, rfl⟩ | ⟨number, rfl⟩ := NumberToken.eq_int_or_float_of_value? h
    · exact Nat.zero_le depth
    · exact Nat.zero_le depth
  string depth _ := Nat.zero_le depth
  array h := Nat.succ_le_succ (itemsDepth_le_iff.2 h)
  object h := Nat.succ_le_succ (membersDepth_le_iff.2 h)

/-- **A document that is read from a text is nested at most as deep as a reader allows.** -/
theorem depth_le_of_ofText? {text : String} {document : Json} (h : ofText? text = some document) :
    document.depth ≤ maxDepth :=
  invariant_depth_le.of_ofText? h

end Json

end RecordFilter
