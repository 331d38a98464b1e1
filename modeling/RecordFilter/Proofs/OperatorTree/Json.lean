import RecordFilter.OperatorTree.Json
import RecordFilter.Proofs.Calendar.Iso
import RecordFilter.Proofs.Grammar.RoundTrip
import RecordFilter.Proofs.Json.RoundTrip
import RecordFilter.Proofs.OperatorTree.RoundTrip

namespace RecordFilter

/-!
# Operator trees in JSON and back

* `Value.jsonForm` — a value as it comes back from JSON: a string that reads as a date-time is one.
* `OperatorTree.ofJson?_toJson` — a tree comes back from its document with its values in that form.
* `OperatorTree.ofJsonText_text` — and from its JSON text, unless it is nested too deep.
* `OperatorTree.json_roundTrip` — hence filters come back from JSON.
-/

/-! ### Values -/

/-- The double that a document may be. -/
def Json.double? : Json → Option Double
  | .float number => some number
  | _ => none

namespace Value

/-- A value as it comes back from JSON, which has no date-times: a string that the lenient reader of ISO
    8601 date-times reads as one is a date-time. -/
def jsonForm : Value → Value
  | .string text =>
    match DateTime.ofIso? text.toList with
    | some moment => .dateTime moment
    | none => .string text
  | other => other

/-- A value comes back from its JSON scalar. -/
theorem ofJson?_toJson (value : Value) : ofJson? value.toJson = some value.jsonForm := by
  cases value with
  | null => rfl
  | bool value => rfl
  | int number => exact congrArg some (ofNumber_toInt number)
  | float number => rfl
  | dateTime moment =>
    rw [toJson, ofJson?, moment.ofIso?_isoText]
    rfl
  | string text =>
    rw [toJson, ofJson?, jsonForm]
    cases DateTime.ofIso? text.toList <;> rfl

/-- A value that JSON carries: if it is a double, it is read back from its JSON text. -/
def IsReadable (value : Value) : Prop :=
  ∀ number, value = .float number →
    Json.ofText? (Json.text (.float number)) = some (.float number)

/-- Whether a double is read back can be computed. -/
theorem isReadable_float_iff (number : Double) :
    (float number).IsReadable
      ↔ (Json.ofText? (Json.text (.float number))).bind Json.double? = some number := by
  constructor
  · intro h
    rw [h number rfl]
    rfl
  · intro h other heq
    cases heq
    obtain ⟨document, hread, hdouble⟩ := Option.bind_eq_some_iff.1 h
    cases document with
    | float found => rw [hread, Option.some.inj hdouble]
    | _ => cases hdouble

/-- The number that a value may be is readable. -/
theorem IsReadable.numbersReadable_toJson {value : Value} (h : value.IsReadable) :
    value.toJson.NumbersReadable := by
  cases value with
  | null => exact .null
  | bool value => exact .bool value
  | int number =>
    have hmax : Int64.maxValue.toInt ≤ (NumberToken.wordMax : Int) := by decide
    exact .int _ (Json.isWord_int number.minValue_le_toInt (Int.le_trans number.toInt_le hmax))
  | float number => exact .float number (Json.isWord_float (h number rfl))
  | dateTime moment => exact .string _
  | string text => exact .string text

end Value

/-! ### Operators -/

/-- Every operator with one operand has a name of its own. -/
theorem UnaryOperator.ofName?_name (operator : UnaryOperator) :
    ofName? operator.name = some operator := by
  cases operator <;> decide

/-- Every operator with two operands has a name of its own. -/
theorem BinaryOperator.ofName?_name (operator : BinaryOperator) :
    ofName? operator.name = some operator := by
  have hall : ∀ operator ∈ all, ofName? operator.name = some operator := by decide
  refine hall operator ?_
  cases operator with
  | comparison operator => cases operator <;> decide
  | _ => decide

/-- Every function has a name of its own. -/
theorem FunctionOperator.ofName?_name (operator : FunctionOperator) :
    ofName? operator.name = some operator := by
  have hall : ∀ operator ∈ all, ofName? operator.name = some operator := by decide +kernel
  refine hall operator ?_
  cases operator with
  | property function =>
    cases function with
    | text function => cases function <;> decide
    | isNullOrEmpty => decide
  | interval interval => cases interval <;> decide
  | _ => decide

namespace OperatorTree

/-- Every connective has a name of its own. -/
theorem connectiveOfName?_name (connective : Connective) :
    connectiveOfName? (connectiveName connective) = some connective := by
  cases connective <;> decide

/-! ### Nodes -/

/-- The parts of named fields are the named parts of the fields. -/
theorem readMembers_zip (names : List String) (fields : List Json) :
    readMembers (names.zip fields) = names.zip (fields.map readPart) := by
  induction names generalizing fields with
  | nil => rfl
  | cons name names ih =>
    cases fields with
    | nil => rfl
    | cons field fields =>
      rw [List.zip_cons_cons, readMembers, ih]
      rfl

/-- Among members of different names each one is found by its name. -/
theorem uniqueMember?_of_mem {members : List (String × Part)} {name : String} {part : Part}
    (hnodup : (members.map Prod.fst).Nodup) (h : (name, part) ∈ members) :
    uniqueMember? name members = some part := by
  have hfilter : members.filter (fun member => member.1 = name) = [(name, part)] := by
    induction members with
    | nil => cases h
    | cons member rest ih =>
      obtain ⟨hmember, hrest⟩ := List.nodup_cons.1 hnodup
      rcases List.mem_cons.1 h with rfl | h
      · have hnone : rest.filter (fun other => other.1 = name) = [] :=
          List.filter_eq_nil_iff.2 fun other hother => by
            rintro hname
            exact hmember (List.mem_map.2 ⟨other, hother, of_decide_eq_true hname⟩)
        rw [List.filter_cons_of_pos (by simp), hnone]
      · have hne : member.1 ≠ name :=
          fun hname => hmember (hname ▸ List.mem_map_of_mem h)
        rw [List.filter_cons_of_neg (by simpa using hne), ih hrest h]
  rw [uniqueMember?, hfilter]

/-- A kind has no two fields of one name, and none that is named as the kind itself. -/
theorem nodup_fields (kind : NodeKind) : ("Type" :: kind.fields).Nodup := by
  cases kind <;> decide

/-- A node is assembled from its fields. -/
theorem ofMembers?_node {kind? : Json → Option NodeKind} {kind : NodeKind}
    (hkind : kind? (.string kind.name) = some kind) {parts : List Part}
    (hlength : kind.fields.length = parts.length) :
    ofMembers? kind? (("Type", readPart (.string kind.name)) :: kind.fields.zip parts)
      = assemble? kind parts := by
  have hnames : ((("Type", readPart (.string kind.name)) :: kind.fields.zip parts).map
      Prod.fst).Nodup := by
    rw [List.map_cons, List.map_fst_zip (Nat.le_of_eq hlength)]
    exact nodup_fields kind
  have hfields : List.Forall₂ (fun field part => uniqueMember? field
        (("Type", readPart (.string kind.name)) :: kind.fields.zip parts) = some part)
      kind.fields parts :=
    List.forall₂_iff_zip.2
      ⟨hlength, fun hmem => uniqueMember?_of_mem hnames (List.mem_cons_of_mem _ hmem)⟩
  have htype : (readPart (.string kind.name)).json = .string kind.name := rfl
  rw [ofMembers?, uniqueMember?_of_mem hnames List.mem_cons_self]
  simp only [Option.bind_eq_bind, Option.bind_some, htype, hkind, mapM_eq_some_iff.2 hfields]

/-- A part that is a node is assembled from its fields. -/
theorem node_nodeJson {kind : NodeKind} {fields : List Json}
    (hlength : kind.fields.length = fields.length) :
    (readPart (nodeJson kind fields)).node = assemble? kind (fields.map readPart) := by
  have hkind : NodeKind.ofNameOrNumber? (.string kind.name) = some kind := by
    cases kind <;> decide
  rw [nodeJson, readPart, readMembers, readMembers_zip]
  exact ofMembers?_node hkind (by rw [hlength, List.length_map])

/-- A document that is a node is assembled from its fields. -/
theorem ofJson?_nodeJson {kind : NodeKind} {fields : List Json}
    (hlength : kind.fields.length = fields.length) :
    ofJson? (nodeJson kind fields) = assemble? kind (fields.map readPart) := by
  have hkind : NodeKind.ofName? (.string kind.name) = some kind := by
    cases kind <;> decide
  rw [nodeJson, ofJson?, readMembers, readMembers_zip]
  exact ofMembers?_node hkind (by rw [hlength, List.length_map])

/-! ### Trees -/

/-- Induction over trees. -/
@[elab_as_elim] theorem induction {motive : OperatorTree → Prop}
    (group : ∀ connective operands, (∀ operand ∈ operands, motive operand) →
      motive (.group connective operands))
    (unary : ∀ operator operand, motive operand → motive (.unary operator operand))
    (binary : ∀ operator left right, motive left → motive right →
      motive (.binary operator left right))
    (oneOf : ∀ left operands, motive left → (∀ operand ∈ operands, motive operand) →
      motive (.oneOf left operands))
    (between : ∀ test low high, motive test → motive low → motive high →
      motive (.between test low high))
    (function : ∀ operator operands, (∀ operand ∈ operands, motive operand) →
      motive (.function operator operands))
    (property : ∀ name, motive (.property name)) (value : ∀ scalar, motive (.value scalar))
    (tree : OperatorTree) : motive tree :=
  @OperatorTree.rec motive (fun operands => ∀ operand ∈ operands, motive operand)
    group unary binary oneOf between function property value
    (fun _ h => absurd h List.not_mem_nil)
    (fun _ _ hoperand hrest => List.forall_mem_cons.2 ⟨hoperand, hrest⟩) tree

mutual

/-- A tree as it comes back from JSON: its values are in the form in which they do. -/
def jsonForm : OperatorTree → OperatorTree
  | .group connective operands => .group connective (listJsonForm operands)
  | .unary operator operand => .unary operator operand.jsonForm
  | .binary operator left right => .binary operator left.jsonForm right.jsonForm
  | .oneOf left operands => .oneOf left.jsonForm (listJsonForm operands)
  | .between test low high => .between test.jsonForm low.jsonForm high.jsonForm
  | .function operator operands => .function operator (listJsonForm operands)
  | .property name => .property name
  | .value scalar => .value scalar.jsonForm

/-- A list of trees as it comes back from JSON. -/
def listJsonForm : List OperatorTree → List OperatorTree
  | [] => []
  | tree :: rest => tree.jsonForm :: listJsonForm rest

end

/-- Operands that come back as nodes one by one come back as a list of nodes. -/
theorem nodes_listToJson {operands : List OperatorTree}
    (h : ∀ operand ∈ operands, (readPart operand.toJson).node = some operand.jsonForm) :
    (readPart (.array (listToJson operands))).nodes = some (listJsonForm operands) := by
  show (readItems (listToJson operands)).mapM Part.node = _
  induction operands with
  | nil => rfl
  | cons operand rest ih =>
    obtain ⟨hoperand, hrest⟩ := List.forall_mem_cons.1 h
    rw [listToJson, readItems, List.mapM_cons, hoperand, ih hrest]
    rfl

/-- The name of an operator stands for itself. -/
theorem operatorName?_string (name : String) :
    operatorName? (readPart (.string name)).json = some name :=
  rfl

/-- Every tree comes back as a node from its document. -/
theorem node_toJson (tree : OperatorTree) : (readPart tree.toJson).node = some tree.jsonForm := by
  induction tree using induction with
  | group connective operands ih =>
    rw [toJson, node_nodeJson rfl, jsonForm]
    simp only [List.map_cons, List.map_nil, assemble?, operatorName?_string, Option.bind_some,
      connectiveOfName?_name, nodes_listToJson ih]
    rfl
  | unary operator operand ih =>
    rw [toJson, node_nodeJson rfl, jsonForm]
    simp only [List.map_cons, List.map_nil, assemble?, operatorName?_string, Option.bind_some,
      UnaryOperator.ofName?_name, ih]
    rfl
  | binary operator left right ihl ihr =>
    rw [toJson, node_nodeJson rfl, jsonForm]
    simp only [List.map_cons, List.map_nil, assemble?, operatorName?_string, Option.bind_some,
      BinaryOperator.ofName?_name, ihl, ihr]
    rfl
  | oneOf left operands ihl ih =>
    rw [toJson, node_nodeJson rfl, jsonForm]
    simp only [List.map_cons, List.map_nil, assemble?, ihl, nodes_listToJson ih]
    rfl
  | between test low high iht ihl ihh =>
    rw [toJson, node_nodeJson rfl, jsonForm]
    simp only [List.map_cons, List.map_nil, assemble?, iht, ihl, ihh]
    rfl
  | function operator operands ih =>
    rw [toJson, node_nodeJson rfl, jsonForm]
    simp only [List.map_cons, List.map_nil, assemble?, operatorName?_string, Option.bind_some,
      FunctionOperator.ofName?_name, nodes_listToJson ih]
    rfl
  | property name => rw [toJson, node_nodeJson rfl, jsonForm]; rfl
  | value scalar =>
    have hjson : (readPart scalar.toJson).json = scalar.toJson := by cases scalar <;> rfl
    rw [toJson, node_nodeJson rfl, jsonForm]
    simp only [List.map_cons, List.map_nil, assemble?, hjson, scalar.ofJson?_toJson,
      Option.map_some]

/-- **Every tree comes back from its document**, with its values in the form in which they do. -/
theorem ofJson?_toJson (tree : OperatorTree) : ofJson? tree.toJson = some tree.jsonForm := by
  -- A root is read as any other node, as its kind is a name.
  have hroot : ∀ {kind : NodeKind} {fields : List Json}, kind.fields.length = fields.length →
      ofJson? (nodeJson kind fields) = (readPart (nodeJson kind fields)).node :=
    fun hlength => (ofJson?_nodeJson hlength).trans (node_nodeJson hlength).symm
  rw [← node_toJson]
  cases tree <;> exact hroot rfl

mutual

/-- The values in a tree. -/
def values : OperatorTree → List Value
  | .group _ operands => listValues operands
  | .unary _ operand => operand.values
  | .binary _ left right => left.values ++ right.values
  | .oneOf left operands => left.values ++ listValues operands
  | .between test low high => test.values ++ (low.values ++ high.values)
  | .function _ operands => listValues operands
  | .property _ => []
  | .value scalar => [scalar]

/-- The values in a list of trees. -/
def listValues : List OperatorTree → List Value
  | [] => []
  | tree :: rest => tree.values ++ listValues rest

end

/-- The numbers of a node are readable if those of its fields are. -/
theorem numbersReadable_nodeJson {kind : NodeKind} {fields : List Json}
    (h : ∀ field ∈ fields, field.NumbersReadable) : (nodeJson kind fields).NumbersReadable := by
  refine .object _ fun member hmember => ?_
  rcases List.mem_cons.1 hmember with rfl | hmember
  · exact .string _
  · exact h _ (List.of_mem_zip hmember).2

/-- The numbers of a list of trees are readable if those of every tree are where its values are. -/
theorem numbersReadable_listToJson {operands : List OperatorTree}
    (h : ∀ operand ∈ operands, (∀ value ∈ operand.values, value.IsReadable) →
      operand.toJson.NumbersReadable)
    (hvalues : ∀ value ∈ listValues operands, value.IsReadable) :
    (Json.array (listToJson operands)).NumbersReadable := by
  refine .array _ ?_
  induction operands with
  | nil => exact fun _ hmem => absurd hmem List.not_mem_nil
  | cons operand rest ih =>
    obtain ⟨hoperand, hrest⟩ := List.forall_mem_cons.1 h
    obtain ⟨hfirst, hothers⟩ := List.forall_mem_append.1 hvalues
    exact List.forall_mem_cons.2 ⟨hoperand hfirst, ih hrest hothers⟩

/-- The numbers of a tree are readable if its values are. -/
theorem numbersReadable_toJson {tree : OperatorTree}
    (h : ∀ value ∈ tree.values, value.IsReadable) : tree.toJson.NumbersReadable := by
  induction tree using induction with
  | group connective operands ih =>
    refine numbersReadable_nodeJson ?_
    simpa using ⟨.string _, numbersReadable_listToJson ih h⟩
  | unary operator operand ih =>
    refine numbersReadable_nodeJson ?_
    simpa using ⟨.string _, ih h⟩
  | binary operator left right ihl ihr =>
    obtain ⟨hl, hr⟩ := List.forall_mem_append.1 h
    refine numbersReadable_nodeJson ?_
    simpa using ⟨.string _, ihl hl, ihr hr⟩
  | oneOf left operands ihl ih =>
    obtain ⟨hl, hoperands⟩ := List.forall_mem_append.1 h
    refine numbersReadable_nodeJson ?_
    simpa using ⟨ihl hl, numbersReadable_listToJson ih hoperands⟩
  | between test low high iht ihl ihh =>
    obtain ⟨ht, hbounds⟩ := List.forall_mem_append.1 h
    obtain ⟨hl, hh⟩ := List.forall_mem_append.1 hbounds
    refine numbersReadable_nodeJson ?_
    simpa using ⟨iht ht, ihl hl, ihh hh⟩
  | function operator operands ih =>
    refine numbersReadable_nodeJson ?_
    simpa using ⟨.string _, numbersReadable_listToJson ih h⟩
  | property name =>
    refine numbersReadable_nodeJson ?_
    simpa using .string name
  | value scalar =>
    refine numbersReadable_nodeJson ?_
    simpa using (h scalar List.mem_cons_self).numbersReadable_toJson

/-- **A tree whose values are readable comes back from its JSON text unless it is nested too deep**, and
    else the text is no tree. -/
theorem ofJsonText_text {tree : OperatorTree} (h : ∀ value ∈ tree.values, value.IsReadable) :
    ofJsonText tree.toJson.text
      = if tree.toJson.depth ≤ Json.maxDepth then .ok tree.jsonForm
        else .error .deserialization := by
  rw [ofJsonText, Json.ofText?_text (numbersReadable_toJson h)]
  by_cases hdepth : tree.toJson.depth ≤ Json.maxDepth
  · simp only [hdepth, if_true, Option.bind_some, ofJson?_toJson]
  · simp only [hdepth, if_false, Option.bind_none]

end OperatorTree

/-! ### Filters -/

/-- A property test as it comes back from JSON. -/
def PropertyTest.jsonForm : PropertyTest → PropertyTest
  | .compare operator value => .compare operator value.jsonForm
  | .text function argument => .text function argument.jsonForm
  | .between low high => .between low.jsonForm high.jsonForm
  | .oneOf values => .oneOf (values.map Value.jsonForm)
  | test => test

/-- A test comes back from JSON as it is if its values do. -/
theorem PropertyTest.jsonForm_eq_self {test : PropertyTest}
    (h : ∀ value ∈ test.values, value.jsonForm = value) : test.jsonForm = test := by
  cases test with
  | compare operator value => rw [jsonForm, h value (by simp [values])]
  | text function argument => rw [jsonForm, h argument (by simp [values])]
  | between low high => rw [jsonForm, h low (by simp [values]), h high (by simp [values])]
  | oneOf values =>
    have hmap : values.map Value.jsonForm = values :=
      (List.map_congr_left h).trans values.map_id
    rw [jsonForm, hmap]
  | _ => rfl

namespace Criteria

/-- A filter as it comes back from JSON: its values are in the form in which they do. -/
def jsonForm : Criteria → Criteria
  | .and left right => .and left.jsonForm right.jsonForm
  | .or left right => .or left.jsonForm right.jsonForm
  | .not inner => .not inner.jsonForm
  | .property name test => .property name test.jsonForm
  | .any name item => .any name item.jsonForm
  | .currentUser => .currentUser

/-- A filter comes back from JSON as it is if none of its strings reads as a date-time. -/
theorem jsonForm_eq_self {criteria : Criteria}
    (h : ∀ text, Value.string text ∈ criteria.values → DateTime.ofIso? text.toList = none) :
    criteria.jsonForm = criteria := by
  have hvalues : ∀ value ∈ criteria.values, value.jsonForm = value := by
    intro value hvalue
    cases value with
    | string text => rw [Value.jsonForm, h text hvalue]
    | _ => rfl
  clear h
  induction criteria with
  | and left right ihl ihr =>
    obtain ⟨hl, hr⟩ := List.forall_mem_append.1 hvalues
    rw [jsonForm, ihl hl, ihr hr]
  | or left right ihl ihr =>
    obtain ⟨hl, hr⟩ := List.forall_mem_append.1 hvalues
    rw [jsonForm, ihl hl, ihr hr]
  | not inner ih => rw [jsonForm, ih hvalues]
  | property name test => rw [jsonForm, PropertyTest.jsonForm_eq_self hvalues]
  | any name item ih => rw [jsonForm, ih hvalues]
  | currentUser => rfl

/-- The names in a filter are the same in the form in which it comes back from JSON. -/
theorem WellFormed.jsonForm {criteria : Criteria} (h : criteria.WellFormed) :
    criteria.jsonForm.WellFormed := by
  induction criteria with
  | and left right ihl ihr => exact ⟨ihl h.1, ihr h.2⟩
  | or left right ihl ihr => exact ⟨ihl h.1, ihr h.2⟩
  | not inner ih => exact ih h
  | property name test => exact h
  | any name item ih => exact ⟨h.1, ih h.2⟩
  | currentUser => trivial

end Criteria

namespace OperatorTree

/-- The tree of a test in JSON form is the tree of the test in JSON form. -/
theorem ofTest_jsonForm (name : String) (test : PropertyTest) :
    ofTest name test.jsonForm = (ofTest name test).jsonForm := by
  have hvalues : ∀ values : List Value,
      (values.map Value.jsonForm).map OperatorTree.value
        = listJsonForm (values.map OperatorTree.value) := by
    intro values
    induction values with
    | nil => rfl
    | cons value rest ih =>
      rw [List.map_cons, List.map_cons, List.map_cons, listJsonForm, ← ih]
      rfl
  cases test with
  | oneOf values => exact congrArg (OperatorTree.oneOf (.property name)) (hvalues values)
  | _ => rfl

/-- The tree of a filter in JSON form is the tree of the filter in JSON form. -/
theorem ofCriteria_jsonForm {criteria : Criteria} {tree : OperatorTree}
    (h : ofCriteria criteria = .ok tree) : ofCriteria criteria.jsonForm = .ok tree.jsonForm := by
  induction criteria generalizing tree with
  | and left right ihl ihr =>
    obtain ⟨l, r, hl, hr, rfl⟩ := (ofCriteria_join .and left right tree).1 h
    exact (ofCriteria_join .and _ _ _).2 ⟨_, _, ihl hl, ihr hr, rfl⟩
  | or left right ihl ihr =>
    obtain ⟨l, r, hl, hr, rfl⟩ := (ofCriteria_join .or left right tree).1 h
    exact (ofCriteria_join .or _ _ _).2 ⟨_, _, ihl hl, ihr hr, rfl⟩
  | not inner ih =>
    obtain ⟨t, ht, rfl⟩ := (ofCriteria_not inner tree).1 h
    exact (ofCriteria_not _ _).2 ⟨_, ih ht, rfl⟩
  | property name test =>
    cases h
    exact congrArg Except.ok (ofTest_jsonForm name test)
  | any => cases h
  | currentUser =>
    cases h
    have hname : DateTime.ofIso? currentUserName.toList = none := by decide +kernel
    rw [Criteria.jsonForm, ofCriteria, jsonForm, listJsonForm, listJsonForm, jsonForm,
      Value.jsonForm, hname]

/-- The values in the tree of a test are those of the test. -/
theorem values_ofTest (name : String) (test : PropertyTest) :
    (ofTest name test).values = test.values := by
  have hlist : ∀ values : List Value, listValues (values.map OperatorTree.value) = values := by
    intro values
    induction values with
    | nil => rfl
    | cons value rest ih =>
      rw [List.map_cons, listValues, ih]
      rfl
  cases test with
  | oneOf values => exact hlist values
  | _ => rfl

/-- The values in the tree of a filter are readable if those in the filter are. -/
theorem isReadable_of_ofCriteria {criteria : Criteria}
    (hvalues : ∀ value ∈ criteria.values, value.IsReadable) {tree : OperatorTree}
    (h : ofCriteria criteria = .ok tree) : ∀ value ∈ tree.values, value.IsReadable := by
  have hgroup : ∀ {connective : Connective} {l r : OperatorTree},
      (∀ value ∈ l.values, value.IsReadable) → (∀ value ∈ r.values, value.IsReadable) →
        ∀ value ∈ (group connective [l, r]).values, value.IsReadable := by
    intro connective l r hl hr
    rw [values, listValues, listValues, listValues, List.append_nil]
    exact List.forall_mem_append.2 ⟨hl, hr⟩
  induction criteria generalizing tree with
  | and left right ihl ihr =>
    obtain ⟨l, r, hl, hr, rfl⟩ := (ofCriteria_join .and left right tree).1 h
    obtain ⟨hleft, hright⟩ := List.forall_mem_append.1 hvalues
    exact hgroup (ihl hleft hl) (ihr hright hr)
  | or left right ihl ihr =>
    obtain ⟨l, r, hl, hr, rfl⟩ := (ofCriteria_join .or left right tree).1 h
    obtain ⟨hleft, hright⟩ := List.forall_mem_append.1 hvalues
    exact hgroup (ihl hleft hl) (ihr hright hr)
  | not inner ih =>
    obtain ⟨t, ht, rfl⟩ := (ofCriteria_not inner tree).1 h
    rw [values]
    exact ih hvalues ht
  | property name test =>
    cases h
    rw [values_ofTest]
    exact hvalues
  | any => cases h
  | currentUser =>
    cases h
    exact List.forall_mem_singleton.2 fun _ heq => by cases heq

/-- **A filter comes back from its JSON text unless the text is nested too deep**: its values are then
    in the form in which they come back, and its negated tests for null are tests for not null. -/
theorem toCriteria_ofJsonText {criteria : Criteria} (hwf : criteria.WellFormed)
    (hvalues : ∀ value ∈ criteria.values, value.IsReadable) {tree : OperatorTree}
    (h : ofCriteria criteria = .ok tree) :
    (ofJsonText tree.toJson.text).bind toCriteria
      = if tree.toJson.depth ≤ Json.maxDepth then .ok criteria.jsonForm.notNullForm
        else .error .deserialization := by
  rw [ofJsonText_text (isReadable_of_ofCriteria hvalues h)]
  by_cases hdepth : tree.toJson.depth ≤ Json.maxDepth
  · rw [if_pos hdepth, if_pos hdepth]
    exact toCriteria_of_ofCriteria hwf.jsonForm (ofCriteria_jsonForm h)
  · rw [if_neg hdepth, if_neg hdepth]
    rfl

/-! ### Filters and their JSON texts -/

/-- The first moment of a day. -/
def dayStart : DateTime :=
  .midnight ⟨2020, 2, 29, by decide⟩

/-- A filter with a value for a date, a double and a negated test for null. -/
def orderFilter (ordered : Value) : Criteria :=
  .and (.property "Ordered" (.oneOf [ordered, .null]))
    (.and (.property "Price" (.compare .less (.float (.ofInt 1))))
      (.not (.property "Name" .isNull)))

/-- **Filters come back from JSON.** Let the doubles in a filter be read back from their JSON text, and
    let it have a tree. If the document of the tree is nested at most as deep as a reader allows, its
    text describes the filter, with strings that read as date-times as date-times and negated tests for
    null as tests for not null; otherwise it is refused. A string reads as a date-time if it has nearly the
    form of ISO 8601 (`DateTime.ofIso?`), and a filter without such strings keeps all its values. -/
theorem json_roundTrip {criteria : Criteria} (hwf : criteria.WellFormed)
    (hvalues : ∀ value ∈ criteria.values, value.IsReadable) {tree : OperatorTree}
    (h : ofCriteria criteria = .ok tree) :
    (ofJsonText tree.toJson.text).bind toCriteria
        = (if tree.toJson.depth ≤ Json.maxDepth then .ok criteria.jsonForm.notNullForm
          else .error .deserialization)
      ∧ ((∀ text, .string text ∈ criteria.values → DateTime.ofIso? text.toList = none) →
        criteria.jsonForm = criteria) :=
  ⟨toCriteria_ofJsonText hwf hvalues h, Criteria.jsonForm_eq_self⟩

theorem json_roundTrip_orderFilter :
    ∃ tree, ofCriteria (orderFilter (.string "2020-02-29T00:00:00")) = .ok tree
      ∧ (ofJsonText tree.toJson.text).bind toCriteria
        = .ok (.and (.property "Ordered" (.oneOf [.dateTime dayStart, .null]))
          (.and (.property "Price" (.compare .less (.float (.ofInt 1))))
            (.property "Name" .isNotNull))) := by
  have hwf : (orderFilter (.string "2020-02-29T00:00:00")).WellFormed := by decide +kernel
  have hone : (Value.float (.ofInt 1)).IsReadable :=
    (Value.isReadable_float_iff _).2 (by decide +kernel)
  have hvalues : ∀ value ∈ (orderFilter (.string "2020-02-29T00:00:00")).values,
      value.IsReadable :=
    List.forall_mem_cons.2 ⟨nofun, List.forall_mem_cons.2 ⟨nofun, List.forall_mem_singleton.2 hone⟩⟩
  have htree : ofCriteria (orderFilter (.string "2020-02-29T00:00:00")) = .ok _ := rfl
  refine ⟨_, htree, ?_⟩
  rw [(json_roundTrip hwf hvalues htree).1, if_pos (by decide +kernel)]
  exact congrArg Except.ok (by decide +kernel)

/-- A test for null with so many negations before it. -/
def negated : Nat → Criteria
  | 0 => .property "Name" .isNull
  | count + 1 => .not (negated count)

/-- A string that reads as a date-time comes back as one, and a filter with too many negations is written but
    not read. -/
theorem json_changes_filters :
    ((Criteria.property "Name" (.compare .equal (.string "2024-06-12T00:00:00"))).WellFormed
      ∧ ∃ tree, ofCriteria (.property "Name" (.compare .equal (.string "2024-06-12T00:00:00")))
          = .ok tree
        ∧ (ofJsonText tree.toJson.text).bind toCriteria
          ≠ .ok (Criteria.property "Name"
            (.compare .equal (.string "2024-06-12T00:00:00"))).notNullForm)
      ∧ (negated 127).WellFormed
      ∧ ∃ tree, ofCriteria (negated 127) = .ok tree
        ∧ (ofJsonText tree.toJson.text).bind toCriteria = .error .deserialization := by
  have hname : (Criteria.property "Name"
      (.compare .equal (.string "2024-06-12T00:00:00"))).WellFormed := by decide +kernel
  have hnegated : (negated 127).WellFormed := by decide +kernel
  have hstring : ∀ value ∈ (Criteria.property "Name"
      (.compare .equal (.string "2024-06-12T00:00:00"))).values, value.IsReadable :=
    List.forall_mem_singleton.2 nofun
  have hempty : (negated 127).values = [] := by decide +kernel
  have hnone : ∀ value ∈ (negated 127).values, value.IsReadable := by
    rw [hempty]
    exact fun _ hmem => absurd hmem List.not_mem_nil
  have hdeep : ((ofCriteria (negated 127)).toOption.map fun tree => tree.toJson.depth)
      = some 129 := by
    decide +kernel
  obtain ⟨tree, htree, hdepth⟩ := Option.map_eq_some_iff.1 hdeep
  refine ⟨⟨hname, _, rfl, ?_⟩, hnegated, tree, eq_ok_of_toOption htree, ?_⟩
  · rw [toCriteria_ofJsonText hname hstring rfl, if_pos (by decide +kernel)]
    exact fun heq => absurd (Except.ok.inj heq) (by decide +kernel)
  · rw [toCriteria_ofJsonText hnegated hnone (eq_ok_of_toOption htree), hdepth]
    rfl

end OperatorTree

end RecordFilter
