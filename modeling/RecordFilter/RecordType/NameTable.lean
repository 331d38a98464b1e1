import Std.Data.HashMap
import RecordFilter.Criteria.Rename
import RecordFilter.RecordType.Basic
import RecordFilter.Text.LowerCase

namespace RecordFilter

/-!
# Tables of property names

* `NameTable` — canonical names, found without regard to case.
* `RecordType.paths` — the dotted names of all members of a type, those of its objects included.
* `NameTable.ofType` — the table of those names.
* `NameTable.resolve` — a filter with its property names replaced by the canonical ones.
-/

/-- Canonical names by their lower-case spelling. -/
structure NameTable where
  names : Std.HashMap String String

namespace NameTable

/-- A table without names. -/
def empty : NameTable :=
  ⟨∅⟩

/-- Registers a spelling of a name. A spelling that differs only in case is replaced. -/
def insert (table : NameTable) (spelling canonical : String) : NameTable :=
  ⟨table.names.insert (Text.lowerCase spelling) canonical⟩

/-- The canonical name of a spelling. -/
def lookup? (table : NameTable) (name : String) : Option String :=
  table.names[Text.lowerCase name]?

/-- The number of spellings. -/
def size (table : NameTable) : Nat :=
  table.names.size

end NameTable

/-! ### The names of a type -/

/-- The dotted name of a member of an object that has the given dotted name itself. -/
def memberPath (parent name : String) : String :=
  if parent = "" then name else parent ++ "." ++ name

mutual

/-- The dotted names of a type's members, each object after its own members. -/
def RecordType.paths (parent : String) : RecordType → List String
  | ⟨_, members⟩ => Member.listPaths parent members

/-- The dotted names that a list of members adds. -/
def Member.listPaths (parent : String) : List Member → List String
  | [] => []
  | member :: rest => member.paths parent ++ Member.listPaths parent rest

/-- The dotted names that a member adds: those of its own members, if it is an object, and its own. -/
def Member.paths (parent : String) : Member → List String
  | ⟨name, kind, _⟩ => kind.paths (memberPath parent name) ++ [memberPath parent name]

/-- The dotted names that the members of an object add. -/
def MemberKind.paths (parent : String) : MemberKind → List String
  | .object type => type.paths parent
  | _ => []

end

namespace NameTable

/-- The table of the dotted names of a type. -/
def ofType (type : RecordType) : NameTable :=
  (type.paths "").foldl (fun table path => table.insert path path) empty

/-- Replaces every property name of a filter by the canonical one. -/
def resolve (table : NameTable) (criteria : Criteria) : Except FilterError Criteria :=
  criteria.rename table.lookup?

end NameTable

end RecordFilter
