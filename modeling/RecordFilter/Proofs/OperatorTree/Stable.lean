import RecordFilter.Proofs.OperatorTree.Json

namespace RecordFilter

/-!
# Operator trees that were read from JSON

* `Value.jsonForm_of_ofJson?` — a value that was read from JSON comes back as it is.
* `OperatorTree.IsStable` — a tree that comes back from JSON as it is, and how deep its document may be
  nested.
* `OperatorTree.isStable_of_ofJson?` — every tree that was read from a document is stable, and its own
  document is nested no deeper than the one it was read from.
* `OperatorTree.ofJsonText_stable` — hence reading, writing and reading again is reading once.

A document may give the fields of a node in any order and among others, or in an array, and may spell
kinds and operators in several ways. All that it takes is that every node of the tree has an array or
object of its own in the document.
-/

/-- A value that was read from JSON comes back as it is: a string that reads as a date-time was
    read as one. -/
theorem Value.jsonForm_of_ofJson? {document : Json} {value : Value}
    (h : Value.ofJson? document = some value) : value.jsonForm = value := by
  cases document with
  | null => cases h; rfl
  | bool flag => cases h; rfl
  | int number =>
    obtain rfl := Option.some.inj h
    unfold Value.ofNumber Value.ofInt?
    split <;> rfl
  | float number => cases h; rfl
  | string text =>
    rw [Value.ofJson?] at h
    cases hiso : DateTime.ofIso? text.toList with
    | some moment =>
      rw [hiso] at h
      obtain rfl := Option.some.inj h
      rfl
    | none =>
      rw [hiso] at h
      obtain rfl := Option.some.inj h
      rw [Value.jsonForm, hiso]
  | array items => cases h
  | object members => cases h

/-- A value is a scalar, which has no parts. -/
theorem Value.depth_toJson (value : Value) : value.toJson.depth = 0 := by
  cases value <;> rfl

namespace OperatorTree

/-! ### Stable trees -/

/-- A tree that comes back from JSON as it is, written with at most so many levels of nesting. -/
structure IsStable (depth : Nat) (tree : OperatorTree) : Prop where
  jsonForm_eq : tree.jsonForm = tree
  depth_le : tree.toJson.depth ≤ depth

/-- Trees that come back from JSON as they are, written as one array with at most so many levels of
    nesting. -/
structure AreStable (depth : Nat) (trees : List OperatorTree) : Prop where
  jsonForm_eq : listJsonForm trees = trees
  depth_le : (Json.array (listToJson trees)).depth ≤ depth

/-- A part of a document stands for nothing but stable trees. -/
structure Part.IsStable (depth : Nat) (part : Part) : Prop where
  node : ∀ tree, part.node = some tree → tree.IsStable depth
  nodes : ∀ trees, part.nodes = some trees → AreStable depth trees

/-- More levels of nesting may be allowed. -/
theorem Part.IsStable.mono {depth depth' : Nat} {part : Part} (h : part.IsStable depth)
    (hle : depth ≤ depth') : part.IsStable depth' where
  node tree htree := ⟨(h.node tree htree).jsonForm_eq, (h.node tree htree).depth_le.trans hle⟩
  nodes trees htrees := ⟨(h.nodes trees htrees).jsonForm_eq, (h.nodes trees htrees).depth_le.trans hle⟩

/-- Stable trees are stable together, one level above. -/
theorem areStable_of_forall {depth : Nat} {trees : List OperatorTree}
    (h : ∀ tree ∈ trees, tree.IsStable depth) : AreStable (depth + 1) trees := by
  have hitems : listJsonForm trees = trees ∧ Json.itemsDepth (listToJson trees) ≤ depth := by
    induction trees with
    | nil => exact ⟨rfl, Nat.zero_le depth⟩
    | cons tree rest ih =>
      obtain ⟨htree, hrest⟩ := List.forall_mem_cons.1 h
      obtain ⟨hform, hdepth⟩ := ih hrest
      rw [listJsonForm, listToJson, htree.jsonForm_eq, hform, Json.itemsDepth]
      exact ⟨rfl, Nat.max_le.2 ⟨htree.depth_le, hdepth⟩⟩
  exact ⟨hitems.1, Nat.succ_le_succ hitems.2⟩

/-- A node is nested one level deeper than its fields. -/
theorem depth_nodeJson_le {kind : NodeKind} {fields : List Json} {depth : Nat}
    (h : ∀ field ∈ fields, field.depth ≤ depth) : (nodeJson kind fields).depth ≤ depth + 1 := by
  refine Nat.succ_le_succ (Json.membersDepth_le_iff.2 fun member hmember => ?_)
  rcases List.mem_cons.1 hmember with rfl | hmember
  · exact Nat.zero_le depth
  · exact h _ (List.of_mem_zip hmember).2

/-! ### Nodes -/

/-- **A node with stable fields is stable**, one level above them. -/
theorem isStable_of_assemble? {kind : NodeKind} {fields : List Part} {depth : Nat}
    (h : ∀ field ∈ fields, field.IsStable depth) {tree : OperatorTree}
    (htree : assemble? kind fields = some tree) : tree.IsStable (depth + 1) := by
  unfold assemble? at htree
  split at htree
  case h_1 operator operands =>
    obtain ⟨connective, -, htree⟩ := Option.bind_eq_some_iff.1 htree
    obtain ⟨trees, htrees, htree⟩ := Option.bind_eq_some_iff.1 htree
    cases htree
    have hoperands := (h operands (by simp)).nodes trees htrees
    constructor
    · rw [jsonForm, hoperands.jsonForm_eq]
    · exact depth_nodeJson_le (by simpa using ⟨Nat.zero_le depth, hoperands.depth_le⟩)
  case h_2 operator operand =>
    obtain ⟨name, -, htree⟩ := Option.bind_eq_some_iff.1 htree
    obtain ⟨inner, hinner, htree⟩ := Option.bind_eq_some_iff.1 htree
    cases htree
    have hoperand := (h operand (by simp)).node inner hinner
    constructor
    · rw [jsonForm, hoperand.jsonForm_eq]
    · exact depth_nodeJson_le (by simpa using ⟨Nat.zero_le depth, hoperand.depth_le⟩)
  case h_3 operator left right =>
    obtain ⟨name, -, htree⟩ := Option.bind_eq_some_iff.1 htree
    obtain ⟨l, hl, htree⟩ := Option.bind_eq_some_iff.1 htree
    obtain ⟨r, hr, htree⟩ := Option.bind_eq_some_iff.1 htree
    cases htree
    have hleft := (h left (by simp)).node l hl
    have hright := (h right (by simp)).node r hr
    constructor
    · rw [jsonForm, hleft.jsonForm_eq, hright.jsonForm_eq]
    · exact depth_nodeJson_le
        (by simpa using ⟨Nat.zero_le depth, hleft.depth_le, hright.depth_le⟩)
  case h_4 left operands =>
    obtain ⟨l, hl, htree⟩ := Option.bind_eq_some_iff.1 htree
    obtain ⟨trees, htrees, htree⟩ := Option.bind_eq_some_iff.1 htree
    cases htree
    have hleft := (h left (by simp)).node l hl
    have hoperands := (h operands (by simp)).nodes trees htrees
    constructor
    · rw [jsonForm, hleft.jsonForm_eq, hoperands.jsonForm_eq]
    · exact depth_nodeJson_le (by simpa using ⟨hleft.depth_le, hoperands.depth_le⟩)
  case h_5 test low high =>
    obtain ⟨t, ht, htree⟩ := Option.bind_eq_some_iff.1 htree
    obtain ⟨l, hl, htree⟩ := Option.bind_eq_some_iff.1 htree
    obtain ⟨u, hu, htree⟩ := Option.bind_eq_some_iff.1 htree
    cases htree
    have htest := (h test (by simp)).node t ht
    have hlow := (h low (by simp)).node l hl
    have hhigh := (h high (by simp)).node u hu
    constructor
    · rw [jsonForm, htest.jsonForm_eq, hlow.jsonForm_eq, hhigh.jsonForm_eq]
    · exact depth_nodeJson_le
        (by simpa using ⟨htest.depth_le, hlow.depth_le, hhigh.depth_le⟩)
  case h_6 operator operands =>
    obtain ⟨name, -, htree⟩ := Option.bind_eq_some_iff.1 htree
    obtain ⟨trees, htrees, htree⟩ := Option.bind_eq_some_iff.1 htree
    cases htree
    have hoperands := (h operands (by simp)).nodes trees htrees
    constructor
    · rw [jsonForm, hoperands.jsonForm_eq]
    · exact depth_nodeJson_le (by simpa using ⟨Nat.zero_le depth, hoperands.depth_le⟩)
  case h_7 name =>
    split at htree
    case h_1 =>
      cases htree
      exact ⟨rfl, depth_nodeJson_le (by simp [Json.depth])⟩
    case h_2 => cases htree
  case h_8 scalar =>
    obtain ⟨value, hvalue, rfl⟩ := Option.map_eq_some_iff.1 htree
    constructor
    · rw [jsonForm, Value.jsonForm_of_ofJson? hvalue]
    · exact depth_nodeJson_le (by simp [value.depth_toJson])
  case h_9 => cases htree

/-- A member that is found by its name is one of the members. -/
theorem exists_of_uniqueMember? {name : String} {members : List (String × Part)} {part : Part}
    (h : uniqueMember? name members = some part) : ∃ member ∈ members, member.2 = part := by
  unfold uniqueMember? at h
  split at h
  case h_1 found other hfilter =>
    cases h
    have hmem : (found, part) ∈ members.filter fun member => member.1 = name := by
      rw [hfilter]
      exact List.mem_singleton_self _
    exact ⟨_, (List.mem_filter.1 hmem).1, rfl⟩
  case h_2 => cases h

variable {kind? : Json → Option NodeKind} {depth : Nat}

/-- A node that an array with stable items describes is stable. -/
theorem isStable_of_ofItems? {parts : List Part} (h : ∀ part ∈ parts, part.IsStable depth)
    {tree : OperatorTree} (htree : ofItems? kind? parts = some tree) :
    tree.IsStable (depth + 1) := by
  cases parts with
  | nil => cases htree
  | cons kind fields =>
    obtain ⟨found, -, htree⟩ := Option.bind_eq_some_iff.1 htree
    exact isStable_of_assemble? (List.forall_mem_cons.1 h).2 htree

/-- A node that an object with stable members describes is stable. -/
theorem isStable_of_ofMembers? {members : List (String × Part)}
    (h : ∀ member ∈ members, member.2.IsStable depth) {tree : OperatorTree}
    (htree : ofMembers? kind? members = some tree) : tree.IsStable (depth + 1) := by
  obtain ⟨type, -, htree⟩ := Option.bind_eq_some_iff.1 htree
  obtain ⟨kind, -, htree⟩ := Option.bind_eq_some_iff.1 htree
  obtain ⟨fields, hfields, htree⟩ := Option.bind_eq_some_iff.1 htree
  refine isStable_of_assemble? (fun field hfield => ?_) htree
  obtain ⟨name, -, hname⟩ := exists_of_mapM_eq_some hfields hfield
  obtain ⟨member, hmember, rfl⟩ := exists_of_uniqueMember? hname
  exact h member hmember

/-! ### Documents -/

/-- The parts of an array are those of its items. -/
theorem exists_of_mem_readItems {items : List Json} {part : Part} (h : part ∈ readItems items) :
    ∃ item ∈ items, readPart item = part := by
  induction items with
  | nil => cases h
  | cons item rest ih =>
    rcases List.mem_cons.1 h with rfl | h
    · exact ⟨item, List.mem_cons_self, rfl⟩
    · obtain ⟨other, hother, heq⟩ := ih h
      exact ⟨other, List.mem_cons_of_mem item hother, heq⟩

/-- The parts of an object are those of its members. -/
theorem exists_of_mem_readMembers {members : List (String × Json)} {found : String × Part}
    (h : found ∈ readMembers members) : ∃ member ∈ members, readPart member.2 = found.2 := by
  induction members with
  | nil => cases h
  | cons member rest ih =>
    rcases List.mem_cons.1 h with rfl | h
    · exact ⟨member, List.mem_cons_self, rfl⟩
    · obtain ⟨other, hother, heq⟩ := ih h
      exact ⟨other, List.mem_cons_of_mem member hother, heq⟩

/-- The items of an array are stable together with those parts of the document that lie as deep. -/
theorem isStable_readItems {items : List Json}
    (h : ∀ item ∈ items, (readPart item).IsStable item.depth) :
    ∀ part ∈ readItems items, part.IsStable (Json.itemsDepth items) := by
  intro part hpart
  obtain ⟨item, hitem, rfl⟩ := exists_of_mem_readItems hpart
  exact (h item hitem).mono (Json.itemsDepth_le_iff.1 Nat.le.refl item hitem)

/-- The members of an object are stable together with those parts of the document that lie as deep. -/
theorem isStable_readMembers {members : List (String × Json)}
    (h : ∀ member ∈ members, (readPart member.2).IsStable member.2.depth) :
    ∀ member ∈ readMembers members, member.2.IsStable (Json.membersDepth members) := by
  intro found hfound
  obtain ⟨member, hmember, heq⟩ := exists_of_mem_readMembers hfound
  rw [← heq]
  exact (h member hmember).mono (Json.membersDepth_le_iff.1 Nat.le.refl member hmember)

/-- A scalar stands for no node. -/
theorem isStable_scalar {json : Json} (depth : Nat) : Part.IsStable depth ⟨json, none, none⟩ where
  node _ h := by cases h
  nodes _ h := by cases h

/-- **Every part of a document stands for stable trees**, which are nested no deeper than it is. -/
theorem isStable_readPart (document : Json) : (readPart document).IsStable document.depth := by
  induction document using Json.induction with
  | null => exact isStable_scalar _
  | bool value => exact isStable_scalar _
  | int value => exact isStable_scalar _
  | float value => exact isStable_scalar _
  | string value => exact isStable_scalar _
  | array items ih =>
    have hparts := isStable_readItems ih
    constructor
    · exact fun tree htree => isStable_of_ofItems? hparts htree
    · intro trees htrees
      refine areStable_of_forall fun tree htree => ?_
      obtain ⟨part, hpart, hnode⟩ := exists_of_mapM_eq_some htrees htree
      exact (hparts part hpart).node tree hnode
  | object members ih =>
    constructor
    · exact fun tree htree => isStable_of_ofMembers? (isStable_readMembers ih) htree
    · intro trees htrees
      cases htrees

/-- **A tree that was read from a document is stable**, and nested no deeper than the document is. -/
theorem isStable_of_ofJson? {document : Json} {tree : OperatorTree}
    (h : ofJson? document = some tree) : tree.IsStable document.depth := by
  cases document with
  | array items =>
    exact isStable_of_ofItems? (isStable_readItems fun item _ => isStable_readPart item) h
  | object members =>
    exact isStable_of_ofMembers? (isStable_readMembers fun member _ => isStable_readPart member.2) h
  | _ => cases h

/-! ### Texts -/

/-- A text is a tree if it is a document that describes the tree. -/
theorem ofJsonText_eq_ok {text : String} {tree : OperatorTree} :
    ofJsonText text = .ok tree
      ↔ ∃ document, Json.ofText? text = some document ∧ ofJson? document = some tree := by
  rw [← Option.bind_eq_some_iff, ofJsonText]
  cases (Json.ofText? text).bind ofJson? with
  | none => simp
  | some found => simp

/-- **Reading a tree from JSON settles after one step.** Whatever text a tree was read from, the text
    that it is written as is read as the same tree, if the doubles in the tree are read back from their
    JSON text. -/
theorem ofJsonText_stable {text : String} {tree : OperatorTree} (h : ofJsonText text = .ok tree)
    (hvalues : ∀ value ∈ tree.values, value.IsReadable) :
    ofJsonText tree.toJson.text = .ok tree := by
  obtain ⟨document, hdocument, htree⟩ := ofJsonText_eq_ok.1 h
  have hstable := isStable_of_ofJson? htree
  have hdepth : tree.toJson.depth ≤ Json.maxDepth :=
    hstable.depth_le.trans (Json.depth_le_of_ofText? hdocument)
  rw [ofJsonText_text hvalues, if_pos hdepth, hstable.jsonForm_eq]

/-- A text with nodes as arrays and objects, kinds as names and numbers, an operator as an object,
    members out of order and one that no node knows, and values that are guessed. -/
def spelledText : String :=
  "[\"In\",\x7b\"PropertyName\":\"At\",\"Note\":[\x7b\x7d],\"Type\":6\x7d,"
    ++ "[[7,\"2016-12-31T23:59:60.5\"],[7,\"\"],[7,18446744073709551616],"
    ++ "[\"Unary\",\x7b\"Not\":null\x7d,[7,1e0]]]]"

theorem ofJsonText_stable_spelled :
    ∃ tree, ofJsonText spelledText = .ok tree
      ∧ tree.values = [.dateTime ⟨⟨2016, 12, 31, by decide⟩, 23, 59, 59, 1500000000, by decide⟩,
        .string "", .float (.ofInt 18446744073709551616), .float (.ofInt 1)]
      ∧ ofJsonText tree.toJson.text = .ok tree := by
  have hcheck : ((ofJsonText spelledText).toOption.map values)
      = some [.dateTime ⟨⟨2016, 12, 31, by decide⟩, 23, 59, 59, 1500000000, by decide⟩,
        .string "", .float (.ofInt 18446744073709551616), .float (.ofInt 1)] := by
    decide +kernel
  obtain ⟨tree, htree, hvalues⟩ := Option.map_eq_some_iff.1 hcheck
  have hread := eq_ok_of_toOption htree
  have hlarge : (Value.float (.ofInt 18446744073709551616)).IsReadable :=
    (Value.isReadable_float_iff _).2 (by decide +kernel)
  have hone : (Value.float (.ofInt 1)).IsReadable :=
    (Value.isReadable_float_iff _).2 (by decide +kernel)
  have hreadable : ∀ value ∈ tree.values, value.IsReadable := by
    rw [hvalues]
    exact List.forall_mem_cons.2 ⟨nofun, List.forall_mem_cons.2 ⟨nofun,
      List.forall_mem_cons.2 ⟨hlarge, List.forall_mem_singleton.2 hone⟩⟩⟩
  exact ⟨tree, hread, hvalues, ofJsonText_stable hread hreadable⟩

end OperatorTree

end RecordFilter
