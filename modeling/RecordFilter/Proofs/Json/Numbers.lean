import RecordFilter.Proofs.Double.Range
import RecordFilter.Proofs.Json.Invariant

namespace RecordFilter

/-!
# The numbers of JSON documents

* `Json.NumbersFit` — every integer of a document fits into 64 bits and every double is finite.
* `Json.NumberToken.numbersFit_of_value?` — the value of a number fits.
* `Json.numbersFit_of_ofText?` — hence so do all numbers of a document that is read from a text.
-/

open Double

/-- The integers of a document fit into 64 bits, with a sign or without one, and its doubles are
    finite. -/
inductive Json.NumbersFit : Json → Prop where
  | null : NumbersFit .null
  | bool (value : Bool) : NumbersFit (.bool value)
  | int (value : Int) (lower : Int64.minValue.toInt ≤ value)
      (upper : value ≤ (NumberToken.wordMax : Int)) : NumbersFit (.int value)
  | float (value : Double) (finite : value.IsFinite) : NumbersFit (.float value)
  | string (value : String) : NumbersFit (.string value)
  | array (items : List Json) (fit : ∀ item ∈ items, item.NumbersFit) : NumbersFit (.array items)
  | object (members : List (String × Json)) (fit : ∀ member ∈ members, member.2.NumbersFit) :
      NumbersFit (.object members)

/-! ### Numbers -/

namespace NumberToken

/-- The digits that are taken in make a number that fits into a word. -/
theorem absorb_le {word : Nat} (digits : List Char) (h : word ≤ wordMax) :
    (absorb word digits).1 ≤ wordMax := by
  induction digits generalizing word with
  | nil => exact h
  | cons c rest ih =>
    rw [absorb]
    split
    case isTrue hfits => exact ih hfits
    case isFalse => exact h

/-- Dividing a magnitude by one that is no less than a power of two lowers its binade by as much as the
    exponent of that power. The bound may be met where the magnitude was below it. -/
theorem quotient_le (exponent count : Nat) {magnitude power : Nat}
    (h : magnitude < (exponent + count + 2) * binade) (hp : 2 ^ count ≤ power) :
    quotient magnitude (nearest power 1) ≤ (exponent + 2) * binade := by
  refine nearest_le ?_
  have hdivisor : 2 ^ (count + 1074) ≤ units (nearest power 1) := le_units (le_nearest_one hp)
  have hdividend : units magnitude < 2 ^ (exponent + count + 53) := units_lt h
  refine Nat.div_lt_of_lt_mul ?_
  calc units magnitude * unitsPerOne
      < 2 ^ (exponent + count + 53) * unitsPerOne :=
        Nat.mul_lt_mul_of_pos_right hdividend unitsPerOne_pos
    _ = 2 ^ (count + 1074 + (exponent + 53)) := by
        rw [pow_mul_unitsPerOne]
        congr 1
        omega
    _ = 2 ^ (count + 1074) * 2 ^ (exponent + 53) := Nat.pow_add 2 _ _
    _ ≤ units (nearest power 1) * 2 ^ (exponent + 53) := Nat.mul_le_mul_right _ hdivisor

/-- Scaling down does not lead to a later binade. -/
theorem scaleDown_lt {magnitude exponent : Nat} (steps : Nat)
    (h : magnitude < (exponent + 3) * binade) :
    scaleDown steps magnitude < (exponent + 3) * binade := by
  induction steps generalizing magnitude with
  | zero => exact h
  | succ steps ih =>
    rw [scaleDown]
    split
    case isTrue => exact Nat.lt_of_le_of_lt (Nat.zero_le _) h
    case isFalse =>
      have hpower : ∀ count, 2 ^ 1 ≤ Nat.pow 10 (count + 1) := fun count =>
        Nat.le_trans (by decide : 2 ^ 1 ≤ 10 ^ 1)
          (Nat.pow_le_pow_right (by decide) (Nat.le_add_left 1 count))
      refine ih (Nat.lt_of_le_of_lt (quotient_le exponent 1 h ?_) ?_)
      · apply hpower
      · exact Nat.mul_lt_mul_of_pos_right (by omega) (by decide)

/-- A word scaled by a power of ten is a finite magnitude, if it has a value at all. -/
theorem scale?_lt {word magnitude : Nat} {exponent : Int} (hword : word ≤ wordMax)
    (h : scale? (nearest word 1) exponent = some magnitude) : magnitude < bound := by
  -- A word is below `2 ^ 64`, which lies in the middle of the binades of the finite doubles.
  have hstart : nearest word 1 < (1085 + 3) * binade := by
    have hlt : word < 2 ^ 64 := Nat.lt_of_le_of_lt hword (by decide)
    exact Nat.lt_of_le_of_lt (nearest_one_le hlt) (Nat.mul_lt_mul_of_pos_right (by decide) (by decide))
  unfold scale? at h
  generalize nearest word 1 = start at h hstart
  split at h
  case isTrue =>
    cases h
    decide
  case isFalse =>
    split at h
    case isTrue => cases h
    case isFalse =>
      split at h
      case isTrue =>
        dsimp only at h
        split at h
        case isTrue hbound =>
          rw [← Option.some.inj h]
          exact hbound
        case isFalse => cases h
      case isFalse =>
        rw [← Option.some.inj h]
        have hscaled := scaleDown_lt (((-exponent).toNat - 1) / 308) hstart
        refine Nat.lt_of_le_of_lt (quotient_le 1086 0 hscaled ?_) ?_
        · exact Nat.pow_pos (by decide)
        · exact Nat.mul_lt_mul_of_pos_right (by decide) (by decide)

/-- **The value of a number fits.** -/
theorem numbersFit_of_value? {token : NumberToken} {document : Json}
    (h : token.value? = some document) : document.NumbersFit := by
  have hwhole := absorb_le token.whole (Nat.zero_le wordMax)
  have hall := absorb_le (token.fraction.getD []) hwhole
  unfold value? at h
  dsimp only at h
  split at h
  case isTrue =>
    cases h
    exact .int _ (Int.le_trans (by decide) (Int.natCast_nonneg _)) (Int.ofNat_le.2 hwhole)
  case isFalse =>
    split at h
    case isTrue hnegative =>
      cases h
      simp only [Bool.and_eq_true, decide_eq_true_eq] at hnegative
      exact .int _ hnegative.2 (Int.le_trans (Int.neg_nonpos_of_nonneg (Int.natCast_nonneg _))
        (Int.natCast_nonneg _))
    case isFalse =>
      obtain ⟨magnitude, hscale, rfl⟩ := Option.map_eq_some_iff.1 h
      exact .float _ (isFinite_ofMagnitude _ (scale?_lt hall hscale))

end NumberToken

namespace Json

/-! ### Documents -/

/-- Fitting numbers are kept by a reader at any depth. -/
theorem invariant_numbersFit : Invariant fun _ document => document.NumbersFit where
  null _ := .null
  bool _ value := .bool value
  number _ := NumberToken.numbersFit_of_value?
  string _ value := .string value
  array := .array _
  object := .object _

/-- **The numbers of a document that is read from a text fit.** -/
theorem numbersFit_of_ofText? {text : String} {document : Json} (h : ofText? text = some document) :
    document.NumbersFit :=
  invariant_numbersFit.of_ofText? h

end Json

end RecordFilter
