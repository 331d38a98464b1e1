import RecordFilter.Criteria.Basic
import RecordFilter.Proofs.Except
import RecordFilter.Value.Token

namespace RecordFilter

/-!
# What a culture reads from the texts of values and filters

Texts are written in one form, whatever the culture, and a culture may read them as something else or
not at all.

* `Value.reread?` — what a culture reads from the token of a value.
* `PropertyTest.reread?`, `Criteria.reread?` — a test or filter with all its values read so.
* `Criteria.reread?_eq_some_self_iff` — it stays the same exactly if all its values do.
-/

/-! ### Values -/

/-- The culture reads the value back from its token, wherever the token stands. -/
def Value.ReadsBack (culture : Culture) (value : Value) : Prop :=
  ∀ position, ofToken culture ⟨position, value.chars⟩ = .ok value

/-- What a culture reads from the token of a value, if it can be read. -/
def Value.reread? (culture : Culture) (value : Value) : Option Value :=
  (ofToken culture ⟨0, value.chars⟩).toOption

/-- A token is read the same way wherever it stands; only the failure names its position. -/
theorem Value.toOption_ofToken_congr (culture : Culture) {token other : Span}
    (h : token.chars = other.chars) :
    (ofToken culture token).toOption = (ofToken culture other).toOption := by
  unfold ofToken
  rw [h]
  split
  case h_1 rest _ => cases stringBody? rest <;> rfl
  case h_2 rest _ => cases culture.dateTime? (dateBody rest) <;> rfl
  case h_3 =>
    generalize (word? other.chars
      <|> (if looksNumeric other.chars then number? culture other.chars else none)) = found
    cases found <;> rfl

/-- Whether a token is read as a value does not depend on where it stands. -/
theorem Value.ofToken_congr {culture : Culture} {token other : Span} (h : token.chars = other.chars)
    {value : Value} : ofToken culture token = .ok value ↔ ofToken culture other = .ok value := by
  have hresult := toOption_ofToken_congr culture h
  constructor
  · intro hread
    rw [hread] at hresult
    exact eq_ok_of_toOption hresult.symm
  · intro hread
    rw [hread] at hresult
    exact eq_ok_of_toOption hresult

/-- The token of a value is read the same way wherever it stands. -/
theorem Value.toOption_ofToken (culture : Culture) (value : Value) (position : Nat) :
    (ofToken culture ⟨position, value.chars⟩).toOption = value.reread? culture :=
  toOption_ofToken_congr culture rfl

/-- A value reads back if it is what is read from its token. -/
theorem Value.readsBack_iff {culture : Culture} {value : Value} :
    value.ReadsBack culture ↔ value.reread? culture = some value := by
  constructor
  · intro h
    rw [reread?, h 0]
    rfl
  · intro h position
    exact eq_ok_of_toOption ((value.toOption_ofToken culture position).trans h)

/-! ### Property tests -/

/-- The values of a property test. -/
def PropertyTest.values : PropertyTest → List Value
  | .compare _ value => [value]
  | .text _ argument => [argument]
  | .between low high => [low, high]
  | .oneOf values => values
  | _ => []

/-- A property test with its values as the culture reads them from their tokens. -/
def PropertyTest.reread? (culture : Culture) : PropertyTest → Option PropertyTest
  | .compare operator value => (value.reread? culture).map (.compare operator)
  | .text function argument => (argument.reread? culture).map (.text function)
  | .between low high => do
    return .between (← low.reread? culture) (← high.reread? culture)
  | .oneOf values => (values.mapM (Value.reread? culture)).map .oneOf
  | test => some test

/-- A property test stays the same exactly if all its values do. -/
theorem PropertyTest.reread?_eq_some_self_iff {culture : Culture} {test : PropertyTest} :
    test.reread? culture = some test
      ↔ ∀ value ∈ test.values, value.reread? culture = some value := by
  cases test with
  | compare operator value => simp [reread?, values]
  | text function argument => simp [reread?, values]
  | between low high => simp [reread?, values, Option.bind_eq_some_iff]
  | oneOf values =>
    have hself : values.mapM (Value.reread? culture) = some values
        ↔ ∀ value ∈ values, value.reread? culture = some value :=
      mapM_eq_some_iff.trans List.forall₂_same
    simp [reread?, PropertyTest.values, hself]
  | _ => exact iff_of_true rfl fun _ h => absurd h List.not_mem_nil

/-! ### Filters -/

/-- The values in a filter, also within tests of items. -/
def Criteria.values : Criteria → List Value
  | .and left right => left.values ++ right.values
  | .or left right => left.values ++ right.values
  | .not inner => inner.values
  | .property _ test => test.values
  | .any _ item => item.values
  | .currentUser => []

/-- A filter with its values as the culture reads them from their tokens. -/
def Criteria.reread? (culture : Culture) : Criteria → Option Criteria
  | .and left right => do return .and (← left.reread? culture) (← right.reread? culture)
  | .or left right => do return .or (← left.reread? culture) (← right.reread? culture)
  | .not inner => (inner.reread? culture).map .not
  | .property name test => (test.reread? culture).map (.property name)
  | .any name item => (item.reread? culture).map (.any name)
  | .currentUser => some .currentUser

/-- Joined filters are read one after the other. -/
theorem Connective.reread?_join (joined : Connective) (culture : Culture) (left right : Criteria) :
    (joined.join left right).reread? culture
      = (left.reread? culture).bind fun l => (right.reread? culture).map (joined.join l) := by
  cases joined <;> cases hright : right.reread? culture <;>
    simp [join, Criteria.reread?, hright]

/-- **A filter stays the same exactly if all its values do.** -/
theorem Criteria.reread?_eq_some_self_iff {culture : Culture} {criteria : Criteria} :
    criteria.reread? culture = some criteria
      ↔ ∀ value ∈ criteria.values, value.reread? culture = some value := by
  induction criteria with
  | and left right ihl ihr =>
    rw [values, List.forall_mem_append, ← ihl, ← ihr]
    simp [reread?, Option.bind_eq_some_iff]
  | or left right ihl ihr =>
    rw [values, List.forall_mem_append, ← ihl, ← ihr]
    simp [reread?, Option.bind_eq_some_iff]
  | not inner ih =>
    rw [values, ← ih]
    simp [reread?]
  | property name test =>
    rw [values, ← PropertyTest.reread?_eq_some_self_iff]
    simp [reread?]
  | any name item ih =>
    rw [values, ← ih]
    simp [reread?]
  | currentUser => exact iff_of_true rfl fun _ h => absurd h List.not_mem_nil

end RecordFilter
