import RecordFilter.Criteria.Text
import RecordFilter.Json.Reader

namespace RecordFilter

/-!
# Reading compact arrays

Grid widgets send filters as nested arrays, `[["Age", ">", 18], "and", ["Name", "startswith", "A"]]`.

* `CompactArray.toCriteria` — the filter that a document describes.
* `CompactArray.joinAdjacent` — the first pass over a chain of filters, which joins by conjunction.
* `CompactArray.joinRest` — the second pass, which joins what is left from left to right.
-/

namespace CompactArray

/-! ### Leaves -/

/-- The value of a JSON scalar. Strings stay strings. -/
def scalar : Json → Except FilterError Value
  | .null => .ok .null
  | .bool value => .ok (.bool value)
  | .int number => .ok (.ofNumber number)
  | .float number => .ok (.float number)
  | .string text => .ok (.string text)
  | other => .error (.invalidOperand (.notAScalar other))

/-- The comparison that a word asks for. -/
def comparisonOfWord? (word : String) : Option ComparisonOperator :=
  if word = "=" then some .equal
  else if word = "<>" then some .notEqual
  else if word = ">" then some .greater
  else if word = ">=" then some .greaterOrEqual
  else if word = "<" then some .less
  else if word = "<=" then some .lessOrEqual
  else none

/-- The text test that a word asks for. -/
def functionOfWord? (word : String) : Option TextFunction :=
  if word = "startswith" then some .startsWith
  else if word = "endswith" then some .endsWith
  else if word = "contains" then some .contains
  else none

/-- The test that a comparison with a value makes: being equal to null is being null. -/
def comparison (operator : ComparisonOperator) (value : Value) : PropertyTest :=
  match operator, value with
  | .equal, .null => .isNull
  | .notEqual, .null => .isNotNull
  | operator, value => .compare operator value

/-- The filter that a property, an operator word and an operand make. -/
def leaf (name word : String) (operand : Json) : Except FilterError Criteria :=
  if word = "between" then
    match operand with
    | .array [low, high] => do
      let low ← scalar low
      let high ← scalar high
      Criteria.ofTest name (.between low high)
    | other => .error (.invalidOperand (.notTwoBounds other))
  else do
    let value ← scalar operand
    match comparisonOfWord? word, functionOfWord? word with
    | some operator, _ => Criteria.ofTest name (comparison operator value)
    | none, some function => Criteria.ofTest name (.text function value)
    | none, none =>
      if word = "notcontains" then do
        return .not (← Criteria.ofTest name (.text .contains value))
      else throw (.unsupported (.arrayOperator word))

/-! ### Chains -/

/-- An item of a chain: a filter or the reason why it is none, or a scalar. -/
inductive Link where
  | scalar (json : Json)
  | filter (reading : Except FilterError Criteria)

namespace Link

/-- The filter of an item. -/
def criteria : Link → Except FilterError Criteria
  | .scalar json => .error (.invalidOperand (.notAFilter json))
  | .filter reading => reading

/-- The word that an item is. -/
def word? : Link → Option String
  | .scalar (.string word) => some word
  | _ => none

/-- Whether an item is in the place of a filter. -/
def isFilter : Link → Bool
  | .filter _ => true
  | _ => false

end Link

/-- The connective that a word stands for. -/
def connective (word : String) : Except FilterError Connective :=
  if word = "and" then .ok .and
  else if word = "or" then .ok .or
  else .error (.unsupported (.connective word))

/-- Joins two items by conjunction, looking at the right one first. -/
def conjunction (left right : Link) : Except FilterError Link := do
  let right ← right.criteria
  let left ← left.criteria
  return .filter (.ok (.and left right))

/-- The first pass over a chain joins two filters that stand side by side or with an `and` between them.
    It goes on behind the joined pair, so that a connective right after a pair stays where it is. -/
def joinAdjacent : List Link → Except FilterError (List Link)
  | left :: link :: rest =>
    if link.word? = some "and" then
      match rest with
      | [] => .error (.invalidOperand (.dangling "and"))
      | right :: rest => do
        let joined ← conjunction left right
        return joined :: (← joinAdjacent rest)
    else if left.isFilter && link.isFilter then do
      let joined ← conjunction left link
      return joined :: (← joinAdjacent rest)
    else do return left :: (← joinAdjacent (link :: rest))
  | links => .ok links

/-- The second pass over a chain joins every filter to what comes before it, by the word in front of it or
    by conjunction. -/
def joinRest (joined : Criteria) : List Link → Except FilterError Criteria
  | [] => .ok joined
  | link :: rest =>
    match link.word? with
    | none => do joinRest (.and joined (← link.criteria)) rest
    | some word =>
      match rest with
      | [] => .error (.invalidOperand (.dangling word))
      | right :: rest => do
        let right ← right.criteria
        joinRest ((← connective word).join joined right) rest

/-- The filter of a chain of items. -/
def chain (links : List Link) : Except FilterError Criteria := do
  match ← joinAdjacent links with
  | [] => throw (.invalidOperand .emptyArray)
  | first :: rest => joinRest (← first.criteria) rest

/-! ### Arrays -/

/-- The filter of an array, given its items both as they are and as links of a chain. Up to three items
    are one filter, a property test, a negation or a pair of filters; more are a chain. -/
def array (items : List Json) (links : List Link) : Except FilterError Criteria :=
  match items, links with
  | [], _ => .error (.invalidOperand .emptyArray)
  | [_], [link] => link.criteria
  | [.string name, operand], [_, link] =>
    if name = "!" then do return .not (← link.criteria)
    else leaf name "=" operand
  | [.string name, .string word, operand], _ => leaf name word operand
  | [.array _, _], [left, right] => do
    let left ← left.criteria
    return .and left (← right.criteria)
  | [.array _, .string word, _], [left, _, right] => do
    let left ← left.criteria
    let right ← right.criteria
    return (← connective word).join left right
  | [.array _, other, _], _ => .error (.invalidOperand (.notAConnective other))
  | _ :: _ :: _ :: _ :: _, links => chain links
  | items, _ => .error (.invalidOperand (.unreadable (.array items)))

mutual

/-- An item of an array as a link of a chain. -/
def link : Json → Link
  | .array items => .filter (array items (links items))
  | scalar => .scalar scalar

/-- The items of an array as links of a chain. -/
def links : List Json → List Link
  | [] => []
  | item :: rest => link item :: links rest

end

/-- The filter that a document describes. -/
def toCriteria : Json → Except FilterError Criteria
  | .array items => array items (links items)
  | other => .error (.invalidOperand (.notAnArray other))

/-- The filter that a JSON text describes. -/
def criteriaOfText (text : String) : Except FilterError Criteria :=
  match Json.ofText? text with
  | some document => toCriteria document
  | none => .error .deserialization

end CompactArray

end RecordFilter
