import Mathlib.Data.Nat.Log
import RecordFilter.Proofs.Double.Shortest

namespace RecordFilter.Double

/-!
# Rounding a quotient to a double

* `significand` — what is left of a quotient when digits are rounded off; it lies between two powers of
  two.
* `nearest_mono` — a greater quotient rounds to no smaller magnitude.
* `units_nearest_one_le` — how far the value of a rounded number can be above the number.
-/

/-! ### Rounded quotients -/

/-- Rounding adds one at most. -/
theorem roundedQuotient_le (dividend divisor : Nat) :
    roundedQuotient dividend divisor ≤ dividend / divisor + 1 := by
  unfold roundedQuotient
  split
  · exact Nat.le_refl _
  · exact Nat.le_succ _

/-- A greater dividend makes no smaller rounded quotient. -/
theorem roundedQuotient_mono {dividend dividend' : Nat} (divisor : Nat)
    (h : dividend ≤ dividend') :
    roundedQuotient dividend divisor ≤ roundedQuotient dividend' divisor := by
  rcases Nat.lt_or_eq_of_le (Nat.div_le_div_right (c := divisor) h) with hlt | heq
  -- Rounding the smaller quotient up comes as far as the greater one at most.
  · calc roundedQuotient dividend divisor ≤ dividend / divisor + 1 := roundedQuotient_le _ _
      _ ≤ dividend' / divisor := hlt
      _ ≤ roundedQuotient dividend' divisor := Nat.le_add_right _ _
  · have hmod : dividend % divisor ≤ dividend' % divisor := by
      have hsplit := Nat.div_add_mod dividend divisor
      have hsplit' := Nat.div_add_mod dividend' divisor
      rw [← heq] at hsplit'
      omega
    unfold roundedQuotient
    rw [← heq]
    refine Nat.add_le_add_left ?_ _
    -- With the same quotient, a greater remainder is rounded up if a smaller one is.
    split
    case isTrue hup =>
      rw [if_pos]
      simp only [Bool.or_eq_true, Bool.and_eq_true, decide_eq_true_eq, beq_iff_eq] at hup ⊢
      omega
    case isFalse => exact Nat.zero_le _

/-- A greater quotient makes no smaller rounded quotient. -/
theorem roundedQuotient_le_of_mul_le {dividend divisor dividend' divisor' : Nat}
    (hd : 0 < divisor) (hd' : 0 < divisor') (h : dividend * divisor' ≤ dividend' * divisor) :
    roundedQuotient dividend divisor ≤ roundedQuotient dividend' divisor' := by
  rw [← roundedQuotient_mul_left hd' dividend divisor, ← roundedQuotient_mul_left hd dividend' divisor',
    Nat.mul_comm divisor' divisor, Nat.mul_comm divisor' dividend, Nat.mul_comm divisor dividend']
  exact roundedQuotient_mono _ h

/-! ### Significands -/

/-- What is left of a quotient, as a multiple of the least double, when digits are rounded off. -/
def significand (numerator denominator : Nat) : Nat :=
  roundedQuotient (numerator * unitsPerOne)
    (denominator * Nat.pow 2 (roundedDigits numerator denominator))

/-- Unfolding lemma: the nearest magnitude is its binade and the significand. -/
theorem nearest_eq_significand (numerator denominator : Nat) :
    nearest numerator denominator
      = roundedDigits numerator denominator * binade + significand numerator denominator :=
  nearest_eq numerator denominator

/-- A significand has 53 digits at most, or is the power of two after those. -/
theorem significand_le (numerator denominator : Nat) :
    significand numerator denominator ≤ 2 * binade := by
  refine Nat.le_trans (roundedQuotient_le _ _) (?_ : _ < 2 ^ 53)
  rw [← Nat.div_div_eq_div_mul]
  have hdigits : roundedDigits numerator denominator
      = (numerator * unitsPerOne / denominator).log2 - 52 := rfl
  generalize roundedDigits numerator denominator = digits at hdigits ⊢
  generalize numerator * unitsPerOne / denominator = quotient at hdigits ⊢
  refine Nat.div_lt_of_lt_mul ?_
  calc quotient < 2 ^ (quotient.log2 + 1) := Nat.lt_log2_self
    _ ≤ 2 ^ (digits + 53) := Nat.pow_le_pow_right (by decide) (by omega)
    _ = Nat.pow 2 digits * 2 ^ 53 := Nat.pow_add 2 digits 53

/-- If digits are rounded off, 53 digits are left. -/
theorem binade_le_significand {numerator denominator : Nat}
    (h : 0 < roundedDigits numerator denominator) :
    binade ≤ significand numerator denominator := by
  refine Nat.le_trans ?_ (Nat.le_add_right _ _)
  rw [← Nat.div_div_eq_div_mul]
  have hdigits : roundedDigits numerator denominator
      = (numerator * unitsPerOne / denominator).log2 - 52 := rfl
  generalize roundedDigits numerator denominator = digits at hdigits h ⊢
  generalize numerator * unitsPerOne / denominator = quotient at hdigits ⊢
  have hne : quotient ≠ 0 := by
    rintro rfl
    rw [Nat.log2_zero] at hdigits
    omega
  have hpow : 0 < Nat.pow 2 digits := Nat.pow_pos (by decide)
  rw [Nat.le_div_iff_mul_le hpow]
  calc binade * Nat.pow 2 digits = 2 ^ (52 + digits) := (Nat.pow_add 2 52 digits).symm
    _ = 2 ^ quotient.log2 := by rw [hdigits, Nat.add_sub_cancel' (by omega)]
    _ ≤ quotient := Nat.log2_self_le hne

/-! ### Order -/

/-- A greater quotient has no fewer digits to round off. -/
theorem roundedDigits_mono {numerator denominator numerator' denominator' : Nat}
    (hd : 0 < denominator) (hd' : 0 < denominator')
    (h : numerator * denominator' ≤ numerator' * denominator) :
    roundedDigits numerator denominator ≤ roundedDigits numerator' denominator' := by
  unfold roundedDigits
  generalize unitsPerOne = one
  have hquotient : numerator * one / denominator ≤ numerator' * one / denominator' := by
    rw [Nat.le_div_iff_mul_le hd']
    refine Nat.le_of_mul_le_mul_right ?_ hd
    calc numerator * one / denominator * denominator' * denominator
        = numerator * one / denominator * denominator * denominator' := Nat.mul_right_comm _ _ _
      _ ≤ numerator * one * denominator' := Nat.mul_le_mul_right _ (Nat.div_mul_le_self _ _)
      _ = numerator * denominator' * one := Nat.mul_right_comm _ _ _
      _ ≤ numerator' * denominator * one := Nat.mul_le_mul_right _ h
      _ = numerator' * one * denominator := Nat.mul_right_comm _ _ _
  rw [Nat.log2_eq_log_two, Nat.log2_eq_log_two]
  exact Nat.sub_le_sub_right (Nat.log_mono_right hquotient) 52

/-- **A greater quotient rounds to no smaller magnitude.** -/
theorem nearest_mono {numerator denominator numerator' denominator' : Nat}
    (hd : 0 < denominator) (hd' : 0 < denominator')
    (h : numerator * denominator' ≤ numerator' * denominator) :
    nearest numerator denominator ≤ nearest numerator' denominator' := by
  rw [nearest_eq_significand, nearest_eq_significand]
  rcases Nat.lt_or_eq_of_le (roundedDigits_mono hd hd' h) with hlt | heq
  -- A smaller binade ends before a greater one.
  · have hle : (roundedDigits numerator denominator + 1) * binade
        ≤ roundedDigits numerator' denominator' * binade := Nat.mul_le_mul_right _ hlt
    have hhigh := significand_le numerator denominator
    have hlow := binade_le_significand (Nat.zero_lt_of_lt hlt)
    rw [Nat.succ_mul] at hle
    omega
  · rw [heq]
    refine Nat.add_le_add_left ?_ _
    unfold significand
    rw [heq]
    have hpow : 0 < Nat.pow 2 (roundedDigits numerator' denominator') := Nat.pow_pos (by decide)
    refine roundedQuotient_le_of_mul_le (Nat.mul_pos hd hpow) (Nat.mul_pos hd' hpow) ?_
    generalize Nat.pow 2 (roundedDigits numerator' denominator') = power
    generalize unitsPerOne = one
    calc numerator * one * (denominator' * power)
        = numerator * denominator' * (one * power) := Nat.mul_mul_mul_comm _ _ _ _
      _ ≤ numerator' * denominator * (one * power) := Nat.mul_le_mul_right _ h
      _ = numerator' * one * (denominator * power) := Nat.mul_mul_mul_comm _ _ _ _

/-! ### The value of a rounded number -/

/-- The value of a significand in a binade. -/
theorem units_binades {digits rest : Nat} (hlow : binade ≤ rest) (hhigh : rest ≤ 2 * binade) :
    units (digits * binade + rest) = rest * Nat.pow 2 digits := by
  have hpos : 0 < binade := by decide
  have hnormal : ¬ digits * binade + rest < binade := by omega
  rw [units, if_neg hnormal]
  rcases Nat.lt_or_eq_of_le hhigh with hlt | rfl
  · have hsplit : digits * binade + rest = (rest - binade) + binade * (digits + 1) := by
      rw [Nat.mul_add binade digits 1, Nat.mul_comm binade digits]
      omega
    have hrest : rest - binade < binade := by omega
    rw [hsplit, Nat.add_mul_mod_self_left, Nat.add_mul_div_left _ _ hpos, Nat.mod_eq_of_lt hrest,
      Nat.div_eq_of_lt hrest, Nat.add_sub_cancel' hlow, Nat.zero_add, Nat.add_sub_cancel]
  -- The power of two after 53 digits begins the next binade.
  · have hsplit : digits * binade + 2 * binade = binade * (digits + 2) := by
      rw [← Nat.add_mul, Nat.mul_comm]
    have hexponent : digits + 2 - 1 = digits + 1 := rfl
    rw [hsplit, Nat.mul_mod_right, Nat.mul_div_cancel_left _ hpos, Nat.add_zero, hexponent,
      Nat.mul_comm 2, Nat.mul_assoc]
    exact congrArg (binade * ·) (Nat.mul_comm _ 2)

/-- **The value of a rounded positive number is above the number by less than one unit in the last of its
    53 digits.** -/
theorem units_nearest_one_le {number : Nat} (h : 0 < number) :
    binade * units (nearest number 1) ≤ (binade + 1) * (number * unitsPerOne) := by
  have hdigits : roundedDigits number 1 = (number * unitsPerOne).log2 - 52 := by
    rw [roundedDigits, Nat.div_one]
  have hne : number * unitsPerOne ≠ 0 := Nat.ne_of_gt (Nat.mul_pos h unitsPerOne_pos)
  have hlog : (number * unitsPerOne).log2 = number.log2 + 1074 := by
    apply log2_mul_pow
    exact Nat.ne_of_gt h
  have hpositive : 0 < roundedDigits number 1 := by omega
  rw [nearest_eq_significand, units_binades (binade_le_significand hpositive) (significand_le _ _)]
  have hround := roundedQuotient_le (number * unitsPerOne) (1 * Nat.pow 2 (roundedDigits number 1))
  unfold significand
  generalize roundedDigits number 1 = digits at hdigits hround ⊢
  generalize number * unitsPerOne = value at hdigits hne hlog hround ⊢
  generalize roundedQuotient value (1 * Nat.pow 2 digits) = rounded at hround ⊢
  -- The value has 53 digits before those that are rounded off.
  have hvalue : binade * Nat.pow 2 digits ≤ value :=
    calc binade * Nat.pow 2 digits = 2 ^ (52 + digits) := (Nat.pow_add 2 52 digits).symm
      _ = 2 ^ value.log2 := by rw [hdigits, Nat.add_sub_cancel' (by omega)]
      _ ≤ value := Nat.log2_self_le hne
  generalize Nat.pow 2 digits = power at hround hvalue ⊢
  have hrounded : rounded * power ≤ value + power :=
    calc rounded * power ≤ (value / (1 * power) + 1) * power := Nat.mul_le_mul_right _ hround
      _ = value / power * power + power := by rw [Nat.one_mul, Nat.succ_mul]
      _ ≤ value + power := Nat.add_le_add_right (Nat.div_mul_le_self _ _) _
  calc binade * (rounded * power) ≤ binade * (value + power) := Nat.mul_le_mul_left _ hrounded
    _ = binade * value + binade * power := Nat.mul_add _ _ _
    _ ≤ binade * value + value := Nat.add_le_add_left hvalue _
    _ = (binade + 1) * value := (Nat.succ_mul _ _).symm

end RecordFilter.Double
