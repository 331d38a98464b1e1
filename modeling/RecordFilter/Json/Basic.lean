import RecordFilter.Double.Basic

namespace RecordFilter

/-!
# JSON values

* `Json` — a JSON document. Objects keep the order of their members and may name a member twice.
* `Json.lookup?` — the member of an object; of several with one name the last one counts.
* `Json.canonical` — the same document with the members of every object sorted by name and without
  repetitions.
-/

/-- A JSON document. Numbers without fraction and exponent are integers where they fit into 64 bits,
    all others are doubles. -/
inductive Json where
  | null
  | bool (value : Bool)
  | int (value : Int)
  | float (value : Double)
  | string (value : String)
  | array (items : List Json)
  | object (members : List (String × Json))
deriving Inhabited

namespace Json

/-- Puts a member into an object that is sorted by name, in place of one of the same name. -/
def insertMember (name : String) (value : Json) : List (String × Json) → List (String × Json)
  | [] => [(name, value)]
  | (other, old) :: rest =>
    if name = other then (name, value) :: rest
    else if name < other then (name, value) :: (other, old) :: rest
    else (other, old) :: insertMember name value rest

/-- An object's members sorted by name; of several with one name the last one stays. -/
def sortMembers (members : List (String × Json)) : List (String × Json) :=
  members.foldl (fun sorted member => insertMember member.1 member.2 sorted) []

mutual

/-- The document with the members of every object sorted by name and without repetitions. -/
def canonical : Json → Json
  | .array items => .array (canonicalItems items)
  | .object members => .object (sortMembers (canonicalMembers members))
  | other => other

/-- The canonical forms of a list of documents. -/
def canonicalItems : List Json → List Json
  | [] => []
  | item :: rest => canonical item :: canonicalItems rest

/-- The canonical forms of the values of an object. -/
def canonicalMembers : List (String × Json) → List (String × Json)
  | [] => []
  | (name, value) :: rest => (name, canonical value) :: canonicalMembers rest

end

end Json

end RecordFilter
