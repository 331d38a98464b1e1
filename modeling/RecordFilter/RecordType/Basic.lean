namespace RecordFilter

/-!
# Record types

* `MemberKind` — what a member of a record holds.
* `RecordType` — the named members of the records that a filter is made for.
* `Member.isNullable` — whether a member may be null.
-/

mutual

/-- What a member of a record holds. -/
inductive MemberKind where
  | string
  | integer
  | float
  /-- An exact number, which is compared as a double. -/
  | decimal
  | boolean
  | dateTime
  /-- One of a list of names, compared by its number. -/
  | enumeration
  /-- A record of another type. -/
  | object (type : RecordType)
  /-- A list of records of another type. -/
  | collection (itemType : RecordType)

/-- The layout of records. -/
structure RecordType where
  /-- The name of the type. -/
  name : String
  /-- The members in the order in which they were added. -/
  members : List Member

/-- A member of a record type. -/
structure Member where
  /-- The name of the member. -/
  name : String
  /-- What it holds. -/
  kind : MemberKind
  /-- The type says that it may be null. -/
  declaredNullable : Bool

end

namespace MemberKind

/-- The name of a kind, for messages. -/
def name : MemberKind → String
  | .string => "string"
  | .integer => "integer"
  | .float => "float"
  | .decimal => "decimal"
  | .boolean => "boolean"
  | .dateTime => "date/time"
  | .enumeration => "enum"
  | .object _ => "object"
  | .collection _ => "collection"

/-- The kinds that hold numbers. -/
def isNumeric : MemberKind → Bool
  | .integer | .float | .decimal => true
  | _ => false

/-- The kinds that may be null without a declaration. -/
def isReference : MemberKind → Bool
  | .string | .object _ | .collection _ => true
  | _ => false

/-- The kinds whose values have an order that filters may refer to. -/
def isOrdered : MemberKind → Bool
  | .boolean | .object _ | .collection _ => false
  | _ => true

end MemberKind

/-- Whether a member may be null. -/
def Member.isNullable (member : Member) : Bool :=
  member.declaredNullable || member.kind.isReference

namespace RecordType

/-- A type without members. -/
def empty (name : String) : RecordType :=
  ⟨name, []⟩

/-- Adds a member at the end, in place of an earlier one of the same name. -/
def add (type : RecordType) (member : Member) : RecordType :=
  ⟨type.name, type.members.filter (fun other => other.name ≠ member.name) ++ [member]⟩

/-- The member with the given name. -/
def find? (type : RecordType) (name : String) : Option Member :=
  type.members.find? fun member => member.name = name

end RecordType

end RecordFilter
