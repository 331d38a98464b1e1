import Mathlib.Algebra.Group.Nat.Defs
import RecordFilter.Double.Notation
import RecordFilter.Proofs.Double.Rounding

namespace RecordFilter.Double

/-!
# The range of doubles

* `IsFinite` — a double that is a number. These are the doubles that have a JSON form.
* `nearest_le`, `nearest_one_le` and `le_nearest_one` — a bound on a number bounds the magnitude nearest
  to it.
* `units_lt` and `le_units` — a bound on a magnitude bounds its value.
* `isFinite_ofInt` — an integer of 64 bits is not too great for a double.

All bounds are powers of two, for which a magnitude changes from one binade to the next.
-/

/-- Neither NaN nor an infinity. -/
inductive IsFinite : Double → Prop where
  | finite (negative : Bool) (magnitude : Fin bound) : IsFinite (.finite negative magnitude)

/-- The finite doubles are those with a JSON form. -/
theorem isSome_jsonText?_iff {value : Double} : value.jsonText?.isSome ↔ value.IsFinite := by
  constructor
  · intro h
    cases value with
    | finite negative magnitude => exact .finite negative magnitude
    | nan => cases h
    | infinity => cases h
  · rintro ⟨negative, magnitude⟩
    rfl

/-- A magnitude below the bound makes a finite double. -/
theorem isFinite_ofMagnitude {magnitude : Nat} (negative : Bool) (h : magnitude < bound) :
    (ofMagnitude negative magnitude).IsFinite := by
  rw [ofMagnitude, dif_pos h]
  exact .finite negative ⟨magnitude, h⟩

/-! ### Bounds on the nearest magnitude -/

/-- A power of two in least doubles is a power of two. -/
theorem pow_mul_unitsPerOne (exponent : Nat) :
    2 ^ exponent * unitsPerOne = 2 ^ (exponent + 1074) := by
  have hpow : ∀ count, 2 ^ exponent * Nat.pow 2 count = 2 ^ (exponent + count) :=
    fun count => (Nat.pow_add 2 exponent count).symm
  apply hpow

/-- A number below `2 ^ (exponent + 53)` units loses so many digits that the rest lies in the binade
    of the exponent or at its end. -/
theorem nearest_le {numerator denominator exponent : Nat}
    (h : numerator * unitsPerOne / denominator < 2 ^ (exponent + 53)) :
    nearest numerator denominator ≤ (exponent + 2) * binade := by
  have hdigits : roundedDigits numerator denominator ≤ exponent := by
    unfold roundedDigits
    by_cases hzero : numerator * unitsPerOne / denominator = 0
    · rw [hzero, Nat.log2_zero]
      exact Nat.zero_le exponent
    · have := (Nat.log2_lt hzero).2 h
      omega
  rw [nearest_eq_significand, Nat.add_mul]
  exact Nat.add_le_add (Nat.mul_le_mul_right _ hdigits) (significand_le _ _)

/-- A whole number below `2 ^ exponent` rounds to a magnitude that is not past the binades before that
    power of two. -/
theorem nearest_one_le {number exponent : Nat} (h : number < 2 ^ exponent) :
    nearest number 1 ≤ (exponent + 1023) * binade := by
  have hunits : number * unitsPerOne / 1 < 2 ^ (exponent + 1021 + 53) :=
    calc number * unitsPerOne / 1 = number * unitsPerOne := Nat.div_one _
      _ < 2 ^ exponent * unitsPerOne := Nat.mul_lt_mul_of_pos_right h unitsPerOne_pos
      _ = 2 ^ (exponent + 1021 + 53) := pow_mul_unitsPerOne exponent
  exact nearest_le hunits

/-- A whole number from `2 ^ exponent` on rounds to a magnitude that is past the binades before that
    power of two. -/
theorem le_nearest_one {number exponent : Nat} (h : 2 ^ exponent ≤ number) :
    (exponent + 1023) * binade ≤ nearest number 1 := by
  have hunits : 2 ^ (exponent + 1074) ≤ number * unitsPerOne :=
    calc 2 ^ (exponent + 1074) = 2 ^ exponent * unitsPerOne := (pow_mul_unitsPerOne exponent).symm
      _ ≤ number * unitsPerOne := Nat.mul_le_mul_right _ h
  have hdigits : exponent + 1022 ≤ roundedDigits number 1 := by
    rw [roundedDigits, Nat.div_one]
    generalize number * unitsPerOne = units at hunits ⊢
    have hne : units ≠ 0 := Nat.ne_of_gt (Nat.lt_of_lt_of_le (Nat.pow_pos (by decide)) hunits)
    have := (Nat.le_log2 hne).2 hunits
    omega
  have hsignificand : binade ≤ significand number 1 := binade_le_significand (by omega)
  rw [nearest_eq_significand, show exponent + 1023 = exponent + 1022 + 1 from rfl, Nat.succ_mul]
  exact Nat.add_le_add (Nat.mul_le_mul_right _ hdigits) hsignificand

/-! ### Bounds on the value of a magnitude -/

/-- The value of a magnitude before the end of a binade. -/
theorem units_lt {magnitude exponent : Nat} (h : magnitude < (exponent + 1) * binade) :
    units magnitude < 2 ^ (exponent + 52) := by
  have hbinade : binade = 2 ^ 52 := rfl
  unfold units
  split
  case isTrue hsub =>
    exact Nat.lt_of_lt_of_le hsub (Nat.pow_le_pow_right (by decide) (by omega))
  case isFalse hnormal =>
    have hpos : 0 < binade := by decide
    have hquotient : 0 < magnitude / binade := Nat.div_pos (Nat.le_of_not_lt hnormal) hpos
    have hle : magnitude / binade < exponent + 1 := (Nat.div_lt_iff_lt_mul hpos).2 h
    have hmod : magnitude % binade < binade := Nat.mod_lt _ hpos
    calc (binade + magnitude % binade) * Nat.pow 2 (magnitude / binade - 1)
        < 2 ^ 53 * Nat.pow 2 (magnitude / binade - 1) :=
          Nat.mul_lt_mul_of_pos_right (by omega) (Nat.pow_pos (by decide))
      _ = 2 ^ (53 + (magnitude / binade - 1)) := (Nat.pow_add 2 53 _).symm
      _ ≤ 2 ^ (exponent + 52) := Nat.pow_le_pow_right (by decide) (by omega)

/-- The value of a magnitude before a power of two. -/
theorem units_lt_pow_mul {magnitude exponent : Nat} (h : magnitude < (exponent + 1023) * binade) :
    units magnitude < 2 ^ exponent * unitsPerOne := by
  rw [pow_mul_unitsPerOne]
  have hbinade : magnitude < (exponent + 1022 + 1) * binade := h
  exact units_lt hbinade

/-- The value of a magnitude from the begin of a binade on. -/
theorem le_units {magnitude exponent : Nat} (h : (exponent + 1) * binade ≤ magnitude) :
    2 ^ (exponent + 52) ≤ units magnitude := by
  have hpos : 0 < binade := by decide
  have hle : exponent + 1 ≤ magnitude / binade := (Nat.le_div_iff_mul_le hpos).2 h
  have hnormal : ¬ magnitude < binade :=
    Nat.not_lt.2 (Nat.le_trans (Nat.le_mul_of_pos_left binade (Nat.succ_pos exponent)) h)
  rw [units, if_neg hnormal]
  calc 2 ^ (exponent + 52) = binade * 2 ^ exponent := by
        rw [Nat.add_comm]
        exact Nat.pow_add 2 52 exponent
    _ ≤ binade * Nat.pow 2 (magnitude / binade - 1) :=
        Nat.mul_le_mul_left _ (Nat.pow_le_pow_right (by decide) (by omega))
    _ ≤ (binade + magnitude % binade) * Nat.pow 2 (magnitude / binade - 1) :=
        Nat.mul_le_mul_right _ (Nat.le_add_right _ _)

/-- The value of a magnitude from a power of two on. -/
theorem pow_mul_le_units {magnitude exponent : Nat} (h : (exponent + 1023) * binade ≤ magnitude) :
    2 ^ exponent * unitsPerOne ≤ units magnitude := by
  rw [pow_mul_unitsPerOne]
  have hbinade : (exponent + 1022 + 1) * binade ≤ magnitude := h
  exact le_units hbinade

/-! ### Integers -/

/-- **An integer of 64 bits rounds to a finite double.** -/
theorem isFinite_ofInt {value : Int} (h : value.natAbs < 2 ^ 64) : (ofInt value).IsFinite := by
  rw [ofInt, ofRatio]
  have hle := nearest_one_le h
  have hlt : (64 + 1023) * binade < bound := Nat.mul_lt_mul_of_pos_right (by decide) (by decide)
  exact isFinite_ofMagnitude _ (Nat.lt_of_le_of_lt hle hlt)

end RecordFilter.Double
