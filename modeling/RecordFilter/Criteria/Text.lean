import RecordFilter.Criteria.Basic

namespace RecordFilter

/-!
# Filter texts

* `Criteria.text` — the canonical text of a filter, from which it can be read back.
* `Criteria.sameText` — two filters count as equal when they are written alike.
-/

namespace PropertyTest

/-- Value tokens separated by a comma and a space. -/
def listChars : List Value → List Char
  | [] => []
  | [value] => value.chars
  | value :: rest => value.chars ++ ',' :: ' ' :: listChars rest

/-- What a property test writes after the name of the property and a space. -/
def chars : PropertyTest → List Char
  | .compare operator value => operator.symbol.toList ++ ' ' :: value.chars
  | .text function argument => function.name.toList ++ ' ' :: argument.chars
  | .isNullOrEmpty => PropertyFunction.isNullOrEmpty.name.toList
  | .between low high =>
    "between ".toList ++ low.chars ++ " and ".toList ++ high.chars
  | .oneOf values => "in (".toList ++ listChars values ++ [')']
  | .isNull => "is NULL".toList
  | .isNotNull => "is not NULL".toList
  | .within interval => interval.name.toList

@[simp] theorem chars_between (low high : Value) :
    (between low high).chars = "between ".toList ++ low.chars ++ " and ".toList ++ high.chars := rfl

@[simp] theorem chars_oneOf (values : List Value) :
    (oneOf values).chars = "in (".toList ++ listChars values ++ [')'] := rfl

end PropertyTest

namespace Criteria

/-- The characters of a filter's canonical text. -/
def chars : Criteria → List Char
  | .and left right => '(' :: (left.chars ++ " AND ".toList ++ right.chars ++ [')'])
  | .or left right => '(' :: (left.chars ++ " OR ".toList ++ right.chars ++ [')'])
  | .not inner => "not (".toList ++ inner.chars ++ [')']
  | .property name test => '[' :: (name.toList ++ ' ' :: test.chars ++ [']'])
  | .any name item =>
    '[' :: (name.toList ++ ".Any(".toList ++ item.chars ++ [')', ']'])
  | .currentUser => "CurrentUser".toList

@[simp] theorem chars_and (left right : Criteria) :
    (and left right).chars = '(' :: (left.chars ++ " AND ".toList ++ right.chars ++ [')']) := rfl

@[simp] theorem chars_or (left right : Criteria) :
    (or left right).chars = '(' :: (left.chars ++ " OR ".toList ++ right.chars ++ [')']) := rfl

@[simp] theorem chars_not (inner : Criteria) :
    (not inner).chars = "not (".toList ++ inner.chars ++ [')'] := rfl

@[simp] theorem chars_property (name : String) (test : PropertyTest) :
    (property name test).chars = '[' :: (name.toList ++ ' ' :: test.chars ++ [']']) := rfl

@[simp] theorem chars_any (name : String) (item : Criteria) :
    (any name item).chars
      = '[' :: (name.toList ++ ".Any(".toList ++ item.chars ++ [')', ']']) := rfl

/-- The canonical text of a filter. -/
def text (criteria : Criteria) : String :=
  String.ofList criteria.chars

/-- Whether two filters have the same canonical text. -/
def sameText (left right : Criteria) : Bool :=
  left.text == right.text

end Criteria

end RecordFilter
