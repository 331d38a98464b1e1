import RecordFilter.Error
import RecordFilter.RecordType.Basic
import RecordFilter.Text.Blank
import RecordFilter.Text.Pieces

namespace RecordFilter

open Text

/-!
# Member paths

* `MemberPath` — the names that lead from a record through its objects to a member.
* `MemberPath.parse` — cuts a dotted name into its segments.
* `RecordType.resolve` — the member that a path leads to.
-/

/-- The names that lead to a member; there is at least one. -/
structure MemberPath where
  /-- A member of the record itself. -/
  first : String
  /-- Members of the objects along the path. -/
  rest : List String
deriving DecidableEq

namespace MemberPath

/-- The names of a path in order. -/
def segments (path : MemberPath) : List String :=
  path.first :: path.rest

/-- The characters of a dotted name. -/
def chars (path : MemberPath) : List Char :=
  ['.'].intercalate (path.segments.map String.toList)

/-- The dotted name. -/
def text (path : MemberPath) : String :=
  String.ofList path.chars

/-- Cuts a dotted name into its segments, none of which may be blank. -/
def parse (name : String) : Except FilterError MemberPath :=
  let segments := splitOn '.' name.toList
  match segments.map String.ofList with
  | [] => .error (.construction (.segment name))
  | first :: rest =>
    if segments.any allBlank then .error (.construction (.segment name)) else .ok ⟨first, rest⟩

end MemberPath

namespace RecordType

/-- The member with the given name, which the type has to have. -/
def member (type : RecordType) (name : String) : Except FilterError Member :=
  match type.find? name with
  | some member => .ok member
  | none => .error (.memberNotFound type.name name)

/-- Follows the names of a path. All but the last one have to be objects. -/
def resolveFrom (type : RecordType) (name : String) : List String → Except FilterError Member
  | [] => type.member name
  | next :: rest => do
    let member ← type.member name
    match member.kind with
    | .object nested => nested.resolveFrom next rest
    | other => .error (.typeMismatch (.notAnObject name type.name other.name next))

/-- The member that a path leads to. -/
def resolvePath (type : RecordType) (path : MemberPath) : Except FilterError Member :=
  type.resolveFrom path.first path.rest

/-- The path that a dotted name writes, and the member that it leads to. -/
def resolve (type : RecordType) (name : String) : Except FilterError (MemberPath × Member) := do
  let path ← MemberPath.parse name
  return (path, ← type.resolvePath path)

end RecordType

end RecordFilter
