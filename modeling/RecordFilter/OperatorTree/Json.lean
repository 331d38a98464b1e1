import RecordFilter.Json.Reader
import RecordFilter.OperatorTree.Basic
import RecordFilter.Value.Json

namespace RecordFilter

/-!
# Operator trees in JSON

* `OperatorTree.toJson` — a tree as nested objects, each with its kind under `Type`.
* `OperatorTree.ofJson?` — the tree that a document describes.

A node is an object, its members in any order and unknown ones ignored, or an array of its kind and its
fields in order. Below the root a kind may also be given by its number.
-/

/-- The kinds of nodes in the order of their numbers. -/
inductive NodeKind where
  | group
  | unary
  | binary
  | oneOf
  | between
  | function
  | property
  | value
deriving DecidableEq

namespace NodeKind

/-- All kinds in the order of their numbers. -/
def all : List NodeKind :=
  [.group, .unary, .binary, .oneOf, .between, .function, .property, .value]

/-- The name of a kind. -/
def name : NodeKind → String
  | .group => "Group"
  | .unary => "Unary"
  | .binary => "Binary"
  | .oneOf => "In"
  | .between => "Between"
  | .function => "Function"
  | .property => "Property"
  | .value => "Value"

/-- The fields of a node in order. -/
def fields : NodeKind → List String
  | .group => ["OperatorType", "Operands"]
  | .unary => ["OperatorType", "Operand"]
  | .binary => ["OperatorType", "LeftOperand", "RightOperand"]
  | .oneOf => ["LeftOperand", "Operands"]
  | .between => ["TestExpression", "BeginExpression", "EndExpression"]
  | .function => ["OperatorType", "Operands"]
  | .property => ["PropertyName"]
  | .value => ["Value"]

/-- The kind that a name stands for. -/
def ofName? (json : Json) : Option NodeKind :=
  match json with
  | .string name => all.find? fun kind => kind.name = name
  | _ => none

/-- The kind that a name or a number stands for. -/
def ofNameOrNumber? (json : Json) : Option NodeKind :=
  match json with
  | .int number => if 0 ≤ number then all[number.toNat]? else none
  | other => ofName? other

end NodeKind

namespace OperatorTree

/-! ### Writing -/

/-- A node with the given fields. -/
def nodeJson (kind : NodeKind) (fields : List Json) : Json :=
  .object (("Type", .string kind.name) :: kind.fields.zip fields)

/-- The name of the operator of a group. -/
def connectiveName : Connective → String
  | .and => "And"
  | .or => "Or"

mutual

/-- A tree as nested objects. -/
def toJson : OperatorTree → Json
  | .group connective operands =>
    nodeJson .group [.string (connectiveName connective), .array (listToJson operands)]
  | .unary operator operand => nodeJson .unary [.string operator.name, operand.toJson]
  | .binary operator left right =>
    nodeJson .binary [.string operator.name, left.toJson, right.toJson]
  | .oneOf left operands => nodeJson .oneOf [left.toJson, .array (listToJson operands)]
  | .between test low high => nodeJson .between [test.toJson, low.toJson, high.toJson]
  | .function operator operands =>
    nodeJson .function [.string operator.name, .array (listToJson operands)]
  | .property name => nodeJson .property [.string name]
  | .value scalar => nodeJson .value [scalar.toJson]

/-- A list of trees as nested objects. -/
def listToJson : List OperatorTree → List Json
  | [] => []
  | tree :: rest => tree.toJson :: listToJson rest

end

/-! ### Reading -/

/-- A part of a document with everything that it may stand for: itself, a node or a list of nodes. -/
structure Part where
  json : Json
  node : Option OperatorTree
  nodes : Option (List OperatorTree)

/-- The name that stands for an operator: a string, or an object with the name as its only member and
    nothing as the value. -/
def operatorName? : Json → Option String
  | .string name => some name
  | .object [(name, .null)] => some name
  | .object [(name, .object [])] => some name
  | _ => none

/-- The connective that a name stands for. -/
def connectiveOfName? (name : String) : Option Connective :=
  [Connective.and, Connective.or].find? fun connective => connectiveName connective = name

/-- The node of a kind with the given fields. -/
def assemble? (kind : NodeKind) (fields : List Part) : Option OperatorTree :=
  match kind, fields with
  | .group, [operator, operands] => do
    return .group (← (operatorName? operator.json).bind connectiveOfName?) (← operands.nodes)
  | .unary, [operator, operand] => do
    return .unary (← (operatorName? operator.json).bind UnaryOperator.ofName?) (← operand.node)
  | .binary, [operator, left, right] => do
    return .binary (← (operatorName? operator.json).bind BinaryOperator.ofName?)
      (← left.node) (← right.node)
  | .oneOf, [left, operands] => do return .oneOf (← left.node) (← operands.nodes)
  | .between, [test, low, high] => do
    return .between (← test.node) (← low.node) (← high.node)
  | .function, [operator, operands] => do
    return .function (← (operatorName? operator.json).bind FunctionOperator.ofName?)
      (← operands.nodes)
  | .property, [name] =>
    match name.json with
    | .string name => some (.property name)
    | _ => none
  | .value, [scalar] => (Value.ofJson? scalar.json).map .value
  | _, _ => none

/-- The member of the given name, of which there has to be exactly one. -/
def uniqueMember? (name : String) (members : List (String × Part)) : Option Part :=
  match members.filter fun member => member.1 = name with
  | [(_, part)] => some part
  | _ => none

/-- The node that an object describes. -/
def ofMembers? (kind? : Json → Option NodeKind) (members : List (String × Part)) :
    Option OperatorTree := do
  let kind ← kind? (← uniqueMember? "Type" members).json
  assemble? kind (← kind.fields.mapM fun field => uniqueMember? field members)

/-- The node that an array describes. -/
def ofItems? (kind? : Json → Option NodeKind) : List Part → Option OperatorTree
  | [] => none
  | kind :: fields => do assemble? (← kind? kind.json) fields

mutual

/-- What a part of a document may stand for. -/
def readPart : Json → Part
  | .array items =>
    let parts := readItems items
    ⟨.array items, ofItems? NodeKind.ofNameOrNumber? parts, parts.mapM Part.node⟩
  | .object members =>
    ⟨.object members, ofMembers? NodeKind.ofNameOrNumber? (readMembers members), none⟩
  | scalar => ⟨scalar, none, none⟩

/-- What the items of an array may stand for. -/
def readItems : List Json → List Part
  | [] => []
  | item :: rest => readPart item :: readItems rest

/-- What the members of an object may stand for. -/
def readMembers : List (String × Json) → List (String × Part)
  | [] => []
  | (name, member) :: rest => (name, readPart member) :: readMembers rest

end

/-- The tree that a document describes. The kind of its root has to be a name. -/
def ofJson? : Json → Option OperatorTree
  | .array items => ofItems? NodeKind.ofName? (readItems items)
  | .object members => ofMembers? NodeKind.ofName? (readMembers members)
  | _ => none

/-- The tree that a JSON text describes. -/
def ofJsonText (text : String) : Except FilterError OperatorTree :=
  match (Json.ofText? text).bind ofJson? with
  | some tree => .ok tree
  | none => .error .deserialization

end OperatorTree

end RecordFilter
