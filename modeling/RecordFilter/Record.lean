import RecordFilter.Error
import RecordFilter.RecordType.Path
import RecordFilter.Text.Quoted

namespace RecordFilter

open Text

/-!
# Records

* `Record` — what a filter is evaluated on: the values of named members.
* `FieldValue` — the value of a member: a scalar, a record or a list of records.
* `readMember` — follows a path through nested records.
-/

/-- The value of a member of a record. -/
inductive FieldValue where
  | null
  | bool (value : Bool)
  | int (value : Int64)
  | float (value : Double)
  | text (value : String)
  | dateTime (value : DateTime)
  /-- The number of an enumeration's name. -/
  | enumeration (value : Int64)
  /-- A record. -/
  | object (record : String → Option FieldValue)
  /-- A list of records. -/
  | collection (items : List (String → Option FieldValue))

/-- A record: the value of every member that it has. -/
abbrev Record := String → Option FieldValue

namespace FieldValue

/-- Whether the value is null. -/
def isNull : FieldValue → Bool
  | .null => true
  | _ => false

/-- What kind of value it is, for messages. -/
def kindName : FieldValue → String
  | .null => "null"
  | .bool _ => "boolean"
  | .int _ => "integer"
  | .float _ => "float"
  | .text _ => "string"
  | .dateTime _ => "date/time"
  | .enumeration _ => "enum"
  | .object _ => "object"
  | .collection _ => "collection"

/-- A short description of the value for diagnostics. -/
def describe : FieldValue → String
  | .null => "Null"
  | .bool value => "Bool(" ++ (if value then "true" else "false") ++ ")"
  | .int value => "Int(" ++ String.ofList (intChars value.toInt) ++ ")"
  | .float value => "Float(" ++ value.plainText ++ ")"
  | .text value => "Text(" ++ quoted value ++ ")"
  | .dateTime value => "DateTime(" ++ value.plainText ++ ")"
  | .enumeration value => "Enum(" ++ String.ofList (intChars value.toInt) ++ ")"
  | .object _ => "Object(..)"
  | .collection items => "Collection(len=" ++ String.ofList (natChars items.length) ++ ")"

end FieldValue

/-- The error about a value of an unexpected kind at the end of a path or along it. -/
def unexpectedValue (path : MemberPath) (value : FieldValue) : FilterError :=
  .typeMismatch (.unexpectedValue path.text value.kindName)

/-- Follows the names of a path from a record on. All but the last one have to be records. -/
def readFrom (path : MemberPath) (record : Record) (name : String) :
    List String → Except FilterError FieldValue
  | [] =>
    match record name with
    | some value => .ok value
    | none => .error (.evaluation (.noMember name))
  | next :: rest =>
    match record name with
    | some (.object nested) => readFrom path nested next rest
    | some .null => .error (.evaluation (.nullReference name path.text))
    | some other => .error (unexpectedValue path other)
    | none => .error (.evaluation (.noMember name))

/-- The value at the end of a path. -/
def readMember (record : Record) (path : MemberPath) : Except FilterError FieldValue :=
  readFrom path record path.first path.rest

end RecordFilter
