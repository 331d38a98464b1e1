import RecordFilter.Culture.Basic
import RecordFilter.Json.Reader
import RecordFilter.Json.Text

namespace RecordFilter

/-!
# Cultures in JSON

* `Culture.ofJsonText` — reads a culture. What is missing is as in the standard culture, and what is
  unknown is ignored.
* `Culture.toJson` — a culture as a JSON object.
-/

namespace DateOrder

/-- The name of an order. -/
def name : DateOrder → String
  | .dayMonthYear => "DayMonthYear"
  | .monthDayYear => "MonthDayYear"
  | .yearMonthDay => "YearMonthDay"

/-- The order with the given name. -/
def ofName? (name : String) : Option DateOrder :=
  [dayMonthYear, monthDayYear, yearMonthDay].find? fun order => order.name = name

/-- Reads an order: its name, or an object with the name as its only member and null as the value. -/
def ofJson? : Json → Option DateOrder
  | .string name => ofName? name
  | .object [(name, .null)] => ofName? name
  | _ => none

end DateOrder

namespace Culture

/-- The settings of a culture in order. -/
def fieldNames : List String :=
  ["decimal_separator", "date_separator", "date_order", "date_formats"]

/-- Reads a string of one character. -/
def charOfJson? : Json → Option Char
  | .string text =>
    match text.toList with
    | [c] => some c
    | _ => none
  | _ => none

/-- Reads a string. -/
def stringOfJson? : Json → Option String
  | .string text => some text
  | _ => none

/-- Reads a list of strings. -/
def stringsOfJson? : Json → Option (List String)
  | .array items => items.mapM stringOfJson?
  | _ => none

/-- Changes one setting. A setting that does not exist changes nothing. -/
def set? (culture : Culture) (field : String) (value : Json) : Option Culture :=
  if field = "decimal_separator" then
    (charOfJson? value).map fun c => { culture with decimalSeparator := c }
  else if field = "date_separator" then
    (charOfJson? value).map fun c => { culture with dateSeparator := c }
  else if field = "date_order" then
    (DateOrder.ofJson? value).map fun order => { culture with dateOrder := order }
  else if field = "date_formats" then
    (stringsOfJson? value).map fun formats => { culture with dateFormats := formats }
  else some culture

/-- Changes several settings of the standard culture, none of them twice. -/
def ofFields? (fields : List (String × Json)) : Option Culture :=
  if (fields.map Prod.fst).Nodup then
    fields.foldlM (fun culture field => culture.set? field.1 field.2) standard
  else none

/-- Reads a culture: an object with some of the settings, or an array of the first settings in
    order. -/
def ofJsonText? (text : String) : Option Culture :=
  match Json.ofText? text with
  | some (.array items) =>
    if items.length ≤ fieldNames.length then ofFields? (fieldNames.zip items) else none
  | _ => (Json.fieldsOfText? fieldNames.contains text).bind ofFields?

/-- A culture as a JSON object. -/
def toJson (culture : Culture) : Json :=
  .object
    [("decimal_separator", .string (String.singleton culture.decimalSeparator)),
     ("date_separator", .string (String.singleton culture.dateSeparator)),
     ("date_order", .string culture.dateOrder.name),
     ("date_formats", .array (culture.dateFormats.map .string))]

end Culture

end RecordFilter
