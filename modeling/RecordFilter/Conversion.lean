import RecordFilter.CompactArray.Reading
import RecordFilter.CompactArray.Writing
import RecordFilter.Grammar.Expression
import RecordFilter.OperatorTree.Criteria
import RecordFilter.OperatorTree.Json

namespace RecordFilter

/-!
# Conversions of filter texts

* `Conversion` — the ways to turn a text of one filter format into a text of another one.
* `Conversion.apply` — carries out a conversion.
* `Conversion.run` — carries out several ones in a row.
-/

/-- A conversion between texts. -/
inductive Conversion where
  /-- A filter text to its canonical form. -/
  | normalize
  /-- A filter text to the text of its negation. -/
  | negate
  /-- A filter text to a compact array. -/
  | toCompact
  /-- A compact array to a filter text. -/
  | ofCompact
  /-- A filter text to an operator tree. -/
  | toTree
  /-- An operator tree to a filter text. -/
  | ofTree
deriving DecidableEq

namespace Conversion

/-- Why a conversion has no result. -/
inductive Failure where
  /-- A filter is needed, and the text is blank. -/
  | blank
  | fault (error : FilterError)

/-- Turns the filter of a text into another text. -/
def fromFilter (text : String) (convert : Criteria → Except FilterError String) :
    Except Failure String :=
  match Criteria.parse .standard text with
  | .error error => .error (.fault error)
  | .ok none => .error .blank
  | .ok (some criteria) => (convert criteria).mapError .fault

/-- Carries out a conversion. -/
def apply (conversion : Conversion) (text : String) : Except Failure String :=
  match conversion with
  | .normalize => fromFilter text fun criteria => .ok criteria.text
  | .negate => fromFilter text fun criteria => .ok (Criteria.not criteria).text
  | .toCompact => fromFilter text CompactArray.textOfCriteria
  | .ofCompact => ((CompactArray.criteriaOfText text).map Criteria.text).mapError .fault
  | .toTree => fromFilter text fun criteria => do
    return (← OperatorTree.ofCriteria criteria).toJson.text
  | .ofTree =>
    (((OperatorTree.ofJsonText text).bind OperatorTree.toCriteria).map Criteria.text).mapError .fault

/-- Carries out several conversions in a row: the texts up to the first failure, and the failure. -/
def run : List Conversion → String → List String × Option Failure
  | [], _ => ([], none)
  | conversion :: rest, text =>
    match conversion.apply text with
    | .error failure => ([], some failure)
    | .ok result =>
      let (results, failure) := run rest result
      (result :: results, failure)

end Conversion

end RecordFilter
