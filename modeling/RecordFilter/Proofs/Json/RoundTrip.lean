import RecordFilter.Proofs.Json.Depth
import RecordFilter.Proofs.Json.Written

namespace RecordFilter

/-!
# Written JSON read back

* `Json.induction` — induction over documents, with the hypothesis for every item and member.
* `Json.readValue?_tokens` — its tokens are read as the document if it is not nested too deep, and
  else not at all.
* `Json.ofText?_text` — the same for its text.
-/

namespace Json

/-- Induction over documents. -/
@[elab_as_elim] theorem induction {motive : Json → Prop} (null : motive .null)
    (bool : ∀ value, motive (.bool value)) (int : ∀ value, motive (.int value))
    (float : ∀ value, motive (.float value)) (string : ∀ value, motive (.string value))
    (array : ∀ items, (∀ item ∈ items, motive item) → motive (.array items))
    (object : ∀ members, (∀ member ∈ members, motive member.2) → motive (.object members))
    (document : Json) : motive document :=
  @Json.rec motive (fun items => ∀ item ∈ items, motive item)
    (fun members => ∀ member ∈ members, motive member.2) (fun member => motive member.2)
    null bool int float string array object
    (fun _ h => absurd h List.not_mem_nil)
    (fun _ _ hitem hrest => List.forall_mem_cons.2 ⟨hitem, hrest⟩)
    (fun _ h => absurd h List.not_mem_nil)
    (fun _ _ hmember hrest => List.forall_mem_cons.2 ⟨hmember, hrest⟩)
    (fun _ _ hvalue => hvalue) document

/-! ### Reading -/

/-- What has been read and the tokens that are left, without the bound on their number. -/
def unbounded {α : Type} {tokens : List Token} (read : Option (α × Rest tokens)) :
    Option (α × List Token) :=
  read.map fun found => (found.1, found.2.1)

/-- A reader that goes on with what another one has read may forget the bound on it. -/
theorem unbounded_bind {α β : Type} {tokens tokens' : List Token}
    {read : Option (α × Rest tokens)} {next : α × Rest tokens → Option (β × Rest tokens')}
    {next' : α × List Token → Option (β × List Token)}
    (h : ∀ result rest shorter,
      unbounded (next (result, ⟨rest, shorter⟩)) = next' (result, rest)) :
    unbounded (read >>= next) = (unbounded read).bind next' := by
  cases read with
  | none => rfl
  | some found =>
    obtain ⟨result, rest, shorter⟩ := found
    exact h result rest shorter

/-- An array that is not empty is read by its items. -/
theorem readValue?_openArray (depth : Nat) {tokens : List Token}
    (h : ∀ rest, tokens ≠ .closeArray :: rest) :
    unbounded (readValue? false (depth + 1) (.openArray :: tokens))
      = (unbounded (readItems? false depth tokens)).bind
          fun found => some (.array found.1, found.2) := by
  rw [readValue?, if_neg (Nat.succ_ne_zero depth)]
  · exact unbounded_bind fun _ _ _ => rfl
  · exact h

/-- An object that is not empty is read by its members. -/
theorem readValue?_openObject (depth : Nat) {tokens : List Token}
    (h : ∀ rest, tokens ≠ .closeObject :: rest) :
    unbounded (readValue? false (depth + 1) (.openObject :: tokens))
      = (unbounded (readMembers? false depth tokens)).bind
          fun found => some (.object found.1, found.2) := by
  rw [readValue?, if_neg (Nat.succ_ne_zero depth)]
  · exact unbounded_bind fun _ _ _ => rfl
  · exact h

/-- How an array goes on behind one of its items. -/
def itemsBehind? (depth : Nat) : Json × List Token → Option (List Json × List Token)
  | (item, .closeArray :: rest) => some ([item], rest)
  | (item, .comma :: rest) =>
    (unbounded (readItems? false depth rest)).bind fun more => some (item :: more.1, more.2)
  | _ => none

/-- Items are read one after the other. -/
theorem readItems?_eq (depth : Nat) (tokens : List Token) :
    unbounded (readItems? false depth tokens)
      = (unbounded (readValue? false depth tokens)).bind (itemsBehind? depth) := by
  rw [readItems?]
  refine unbounded_bind fun item rest shorter => ?_
  dsimp only
  split
  case h_1 => rfl
  case h_2 => exact unbounded_bind fun _ _ _ => rfl
  case h_3 hclose hcomma =>
    unfold itemsBehind?
    split
    case h_1 heq =>
      cases heq
      exact (hclose _ _ rfl HEq.rfl).elim
    case h_2 heq =>
      cases heq
      exact (hcomma _ _ rfl HEq.rfl).elim
    case h_3 => rfl

/-- How an object goes on behind one of its members. -/
def membersBehind? (depth : Nat) (name : String) :
    Json × List Token → Option (List (String × Json) × List Token)
  | (value, .closeObject :: rest) => some ([(name, value)], rest)
  | (value, .comma :: rest) =>
    (unbounded (readMembers? false depth rest)).bind
      fun more => some ((name, value) :: more.1, more.2)
  | _ => none

/-- Members are read one after the other. -/
theorem readMembers?_eq (depth : Nat) (name : String) (tokens : List Token) :
    unbounded (readMembers? false depth (.string (some name) :: .colon :: tokens))
      = (unbounded (readValue? false depth tokens)).bind (membersBehind? depth name) := by
  rw [readMembers?]
  refine unbounded_bind fun value rest shorter => ?_
  dsimp only
  split
  case h_1 => rfl
  case h_2 => exact unbounded_bind fun _ _ _ => rfl
  case h_3 hclose hcomma =>
    unfold membersBehind?
    split
    case h_1 heq =>
      cases heq
      exact (hclose _ _ rfl HEq.rfl).elim
    case h_2 heq =>
      cases heq
      exact (hcomma _ _ rfl HEq.rfl).elim
    case h_3 => rfl

/-! ### Documents -/

/-- The tokens of a document, whatever follows them, are read as the document if a reader for so many
    levels may read it, and else not at all. -/
def ReadBack (depth : Nat) (document : Json) : Prop :=
  ∀ rest, unbounded (readValue? false depth (document.tokens ++ rest))
    = if document.depth ≤ depth then some (document, rest) else none

/-- The items of an array that are read back one by one are read back together. -/
theorem readItems?_itemsTokens {depth : Nat} {item : Json} {more : List Json}
    (h : ∀ other ∈ item :: more, ReadBack depth other) (rest : List Token) :
    unbounded (readItems? false depth (itemsTokens (item :: more) ++ .closeArray :: rest))
      = if itemsDepth (item :: more) ≤ depth then some (item :: more, rest) else none := by
  induction more generalizing item with
  | nil =>
    rw [itemsTokens, readItems?_eq, h item List.mem_cons_self, itemsDepth, itemsDepth, Nat.max_zero]
    split <;> rfl
  | cons next more ih =>
    obtain ⟨hitem, hmore⟩ := List.forall_mem_cons.1 h
    have hrest : itemsBehind? depth
          (item, .comma :: (itemsTokens (next :: more) ++ .closeArray :: rest))
        = if itemsDepth (next :: more) ≤ depth then some (item :: next :: more, rest) else none := by
      rw [itemsBehind?, ih hmore]
      split <;> rfl
    rw [itemsTokens, List.append_assoc, List.cons_append, readItems?_eq, hitem, itemsDepth]
    · by_cases hdepth : item.depth ≤ depth
      · simp only [hdepth, if_true, Option.bind_some, hrest, Nat.max_le, true_and]
      · simp only [hdepth, if_false, Option.bind_none, Nat.max_le, false_and]
    · exact fun h => by cases h

/-- The members of an object whose values are read back one by one are read back together. -/
theorem readMembers?_membersTokens {depth : Nat} {member : String × Json}
    {more : List (String × Json)} (h : ∀ other ∈ member :: more, ReadBack depth other.2)
    (rest : List Token) :
    unbounded (readMembers? false depth (membersTokens (member :: more) ++ .closeObject :: rest))
      = if membersDepth (member :: more) ≤ depth then some (member :: more, rest) else none := by
  induction more generalizing member with
  | nil =>
    rw [membersTokens, List.cons_append, List.cons_append, readMembers?_eq,
      h member List.mem_cons_self, membersDepth, membersDepth, Nat.max_zero]
    split <;> rfl
  | cons next more ih =>
    obtain ⟨hvalue, hmore⟩ := List.forall_mem_cons.1 h
    have hrest : membersBehind? depth member.1
          (member.2, .comma :: (membersTokens (next :: more) ++ .closeObject :: rest))
        = if membersDepth (next :: more) ≤ depth then some (member :: next :: more, rest)
          else none := by
      rw [membersBehind?, ih hmore]
      split <;> rfl
    rw [membersTokens, List.append_assoc, List.cons_append, List.cons_append, List.cons_append,
      readMembers?_eq, hvalue, membersDepth]
    · by_cases hdepth : member.2.depth ≤ depth
      · simp only [hdepth, if_true, Option.bind_some, hrest, Nat.max_le, true_and]
      · simp only [hdepth, if_false, Option.bind_none, Nat.max_le, false_and]
    · exact fun h => by cases h

/-- The items of an array do not start with the end of one. -/
theorem itemsTokens_append_ne {item : Json} {more : List Json} {tokens rest : List Token} :
    itemsTokens (item :: more) ++ tokens ≠ .closeArray :: rest := by
  cases more <;> cases item <;> simp [itemsTokens, Json.tokens]

/-- A word is read back. -/
theorem readBack_word {word : Json} (htokens : word.tokens = [.scalar (some word)])
    (hdepth : word.depth = 0) (depth : Nat) : ReadBack depth word := by
  intro rest
  rw [htokens, hdepth, if_pos (Nat.zero_le depth), List.singleton_append, readValue?.eq_def]
  rfl

/-- **The tokens of a document are read as the document if it is not nested too deep**, and else not
    at all. -/
theorem readValue?_tokens (document : Json) (depth : Nat) : ReadBack depth document := by
  induction document using induction generalizing depth with
  | null => exact readBack_word rfl rfl depth
  | bool value => exact readBack_word rfl rfl depth
  | int value => exact readBack_word rfl rfl depth
  | float value => exact readBack_word rfl rfl depth
  | string value =>
    intro rest
    rw [tokens, List.singleton_append, readValue?.eq_def]
    rfl
  | array items ih =>
    intro rest
    rw [tokens, Json.depth, List.cons_append, List.append_assoc, List.singleton_append]
    cases depth with
    -- Without a level left even the empty array is refused.
    | zero =>
      rw [readValue?.eq_def]
      rfl
    | succ depth =>
      cases items with
      | nil =>
        rw [readValue?.eq_def]
        rfl
      | cons item more =>
        rw [readValue?_openArray, readItems?_itemsTokens fun other hother => ih other hother depth]
        · simp only [Nat.add_le_add_iff_right]
          split <;> rfl
        · exact fun _ => itemsTokens_append_ne
  | object members ih =>
    intro rest
    rw [tokens, Json.depth, List.cons_append, List.append_assoc, List.singleton_append]
    cases depth with
    | zero =>
      rw [readValue?.eq_def]
      rfl
    | succ depth =>
      cases members with
      | nil =>
        rw [readValue?.eq_def]
        rfl
      | cons member more =>
        rw [readValue?_openObject,
          readMembers?_membersTokens fun other hother => ih other hother depth]
        · simp only [Nat.add_le_add_iff_right]
          split <;> rfl
        · cases more <;> simp [membersTokens]

/-- A document is what is read of its tokens, if none of them is left. -/
theorem ofTokens?_eq (tokens : List Token) :
    ofTokens? tokens
      = match unbounded (readValue? false maxDepth tokens) with
        | some (document, []) => some document
        | _ => none := by
  rw [ofTokens?]
  cases readValue? false maxDepth tokens with
  | none => rfl
  | some found =>
    obtain ⟨document, rest, shorter⟩ := found
    cases rest <;> rfl

/-- A text that is cut into the tokens of a document is read as the document if that is not nested too
    deep, and else not at all. -/
theorem Cuts.ofText? {chars : List Char} {document : Json} (h : Cuts chars document.tokens) :
    ofText? (String.ofList chars) = if document.depth ≤ maxDepth then some document else none := by
  have hread := readValue?_tokens document maxDepth []
  rw [List.append_nil] at hread
  rw [Json.ofText?, String.toList_ofList, h.ofChars?, Option.bind_some, ofTokens?_eq, hread]
  by_cases hdepth : document.depth ≤ maxDepth
  · simp only [hdepth, if_true]
  · simp only [hdepth, if_false]

/-- **A written document is read back if it is not nested too deep**, and else not at all. -/
theorem ofText?_text {document : Json} (h : document.NumbersReadable) :
    ofText? document.text = if document.depth ≤ maxDepth then some document else none :=
  h.cuts.ofText?

end Json

end RecordFilter
