import RecordFilter.Double.Decimal

namespace RecordFilter.Double

/-!
# The shortest decimal number is a decimal number of the double

* `nearest_mul_left` — rounding a quotient does not depend on how the quotient is written.
* `nearest_units` — a magnitude is what its own value rounds to.
* `nearestDecimal_exactDecimal` — the exact decimal expansion reads back.
* `nearestDecimal_shortest` — so does the shortest one, which is either tested by reading it back
  or the exact expansion.

The powers in `unitsPerOne` and `exactDecimal` are far too large to be written out, so every step
below treats them as unknown positive numbers.
-/

/-! ### Rounding -/

/-- A quotient rounded to a whole number, a half to the even neighbour. -/
def roundedQuotient (dividend divisor : Nat) : Nat :=
  dividend / divisor +
    (if divisor < 2 * (dividend % divisor) ||
        (divisor == 2 * (dividend % divisor) && dividend / divisor % 2 == 1) then 1 else 0)

/-- How many binary digits of a quotient are rounded off. -/
def roundedDigits (numerator denominator : Nat) : Nat :=
  (numerator * unitsPerOne / denominator).log2 - 52

/-- Unfolding lemma: the nearest magnitude is its binade and the rounded significand. -/
theorem nearest_eq (numerator denominator : Nat) :
    nearest numerator denominator
      = roundedDigits numerator denominator * binade
        + roundedQuotient (numerator * unitsPerOne)
            (denominator * Nat.pow 2 (roundedDigits numerator denominator)) := by
  unfold nearest roundedQuotient roundedDigits
  -- Neither constant may be evaluated.
  generalize unitsPerOne = one
  generalize binade = width
  rw [← Nat.add_assoc]

/-- A rounded quotient does not depend on how the quotient is written. -/
theorem roundedQuotient_mul_left {factor : Nat} (hf : 0 < factor) (dividend divisor : Nat) :
    roundedQuotient (factor * dividend) (factor * divisor) = roundedQuotient dividend divisor := by
  have hne : factor ≠ 0 := Nat.ne_of_gt hf
  unfold roundedQuotient
  -- The quotient stays, and the factor scales the remainder.
  rw [Nat.mul_div_mul_left _ _ hf, Nat.mul_mod_mul_left, Nat.mul_left_comm 2]
  have hequal : (factor * divisor == factor * (2 * (dividend % divisor)))
      = (divisor == 2 * (dividend % divisor)) := by
    rw [Bool.eq_iff_iff, beq_iff_eq, beq_iff_eq, Nat.mul_right_inj hne]
  simp only [Nat.mul_lt_mul_left hf, hequal]

/-- A quotient without remainder is not rounded. -/
theorem roundedQuotient_mul_self (quotient : Nat) {divisor : Nat} (hd : 0 < divisor) :
    roundedQuotient (quotient * divisor) divisor = quotient := by
  unfold roundedQuotient
  rw [Nat.mul_div_cancel _ hd, Nat.mul_mod_left, Nat.mul_zero]
  have hzero : (0 : Nat) ≠ divisor := Nat.ne_of_lt hd
  simp [hzero.symm]

/-- Rounding does not depend on how a quotient is written. -/
theorem nearest_mul_left {factor : Nat} (hf : 0 < factor) (numerator denominator : Nat) :
    nearest (factor * numerator) (factor * denominator) = nearest numerator denominator := by
  have hdigits : roundedDigits (factor * numerator) (factor * denominator)
      = roundedDigits numerator denominator := by
    unfold roundedDigits
    rw [Nat.mul_assoc, Nat.mul_div_mul_left _ _ hf]
  rw [nearest_eq, nearest_eq, hdigits, Nat.mul_assoc, Nat.mul_assoc, roundedQuotient_mul_left hf]

/-! ### The value of a magnitude -/

/-- The significand of a magnitude above the subnormal ones fills 53 binary digits. -/
theorem log2_significand (magnitude : Nat) : (binade + magnitude % binade).log2 = 52 := by
  have hbinade : binade = 2 ^ 52 := rfl
  have hmod : magnitude % binade < binade := Nat.mod_lt _ (by decide)
  rw [Nat.log2_eq_iff (by omega)]
  omega

/-- The binary digits of a number scaled by a power of two. -/
theorem log2_mul_pow (number count : Nat) (hn : number ≠ 0) :
    (number * Nat.pow 2 count).log2 = number.log2 + count := by
  induction count with
  | zero => rw [show Nat.pow 2 0 = 1 from rfl, Nat.mul_one, Nat.add_zero]
  | succ count ih =>
    have hne : number * Nat.pow 2 count ≠ 0 :=
      Nat.mul_ne_zero hn (Nat.ne_of_gt (Nat.pow_pos (by decide)))
    have hstep : number * Nat.pow 2 (count + 1) = 2 * (number * Nat.pow 2 count) := by
      rw [show Nat.pow 2 (count + 1) = Nat.pow 2 count * 2 from rfl, ← Nat.mul_assoc, Nat.mul_comm]
    rw [hstep, Nat.log2_two_mul hne, ih]
    omega

/-- One is a positive number of least doubles. -/
theorem unitsPerOne_pos : 0 < unitsPerOne := by
  decide +kernel

/-- A magnitude is what its own value rounds to. -/
theorem nearest_units (magnitude : Nat) : nearest (units magnitude) unitsPerOne = magnitude := by
  have hone := unitsPerOne_pos
  have hdigits : roundedDigits (units magnitude) unitsPerOne = (units magnitude).log2 - 52 := by
    unfold roundedDigits
    rw [Nat.mul_div_cancel _ hone]
  rw [nearest_eq, hdigits, Nat.mul_comm unitsPerOne]
  unfold units
  by_cases hsub : magnitude < binade
  -- A subnormal magnitude has at most 52 digits, none of which is rounded off.
  · have hlog : magnitude.log2 - 52 = 0 := by
      by_cases hzero : magnitude = 0
      · rw [hzero]
        rfl
      · have := (Nat.log2_lt hzero).2 (show magnitude < 2 ^ 52 from hsub)
        omega
    rw [if_pos hsub, hlog, Nat.zero_mul, Nat.zero_add, show Nat.pow 2 0 = 1 from rfl, Nat.one_mul,
      roundedQuotient_mul_self _ hone]
  -- The exponent counts the digits behind the 53 significant ones.
  · have hbinade : 0 < binade := by decide
    have hlog : ((binade + magnitude % binade) * Nat.pow 2 (magnitude / binade - 1)).log2 - 52
        = magnitude / binade - 1 := by
      rw [log2_mul_pow _ _ (by omega), log2_significand]
      omega
    have hpow : 0 < Nat.pow 2 (magnitude / binade - 1) := Nat.pow_pos (by decide)
    rw [if_neg hsub, hlog, Nat.mul_assoc, roundedQuotient_mul_self _ (Nat.mul_pos hpow hone)]
    have hquotient : 0 < magnitude / binade := Nat.div_pos (Nat.le_of_not_lt hsub) (by decide)
    have hsplit := Nat.div_add_mod magnitude binade
    rw [Nat.sub_mul, Nat.one_mul]
    have : binade ≤ magnitude / binade * binade := Nat.le_mul_of_pos_left _ hquotient
    rw [Nat.mul_comm] at hsplit
    omega

/-- Every magnitude but zero has a positive value. -/
theorem units_pos {magnitude : Nat} (h : 0 < magnitude) : 0 < units magnitude := by
  have hbinade : 0 < binade := by decide
  unfold units
  split
  · exact h
  · exact Nat.mul_pos (by omega) (Nat.pow_pos (by decide))

/-! ### Decimal numbers of a magnitude -/

/-- The exact decimal expansion of a magnitude reads back. -/
theorem nearestDecimal_exactDecimal {magnitude : Nat} (h : 0 < magnitude) :
    nearestDecimal (exactDecimal magnitude) = magnitude := by
  have hunits := units_pos h
  have hfive : 0 < Nat.pow 5 1074 := by decide +kernel
  -- `10 ^ 1074 = 5 ^ 1074 * 2 ^ 1074`, so that the fives cancel in the end.
  have hten : Nat.pow 10 1074 = Nat.pow 5 1074 * unitsPerOne := by decide +kernel
  have hdigits : units magnitude * Nat.pow 5 1074 ≠ 0 := Nat.ne_of_gt (Nat.mul_pos hunits hfive)
  -- There are too many digits for the number to count as zero.
  have hlog : 673 ≤ (units magnitude * Nat.pow 5 1074).log2 := by
    rw [Nat.le_log2 hdigits]
    calc 2 ^ 673 ≤ Nat.pow 5 1074 := by decide +kernel
      _ ≤ units magnitude * Nat.pow 5 1074 := Nat.le_mul_of_pos_left _ hunits
  unfold nearestDecimal exactDecimal
  simp only
  have hexponent : (-(-1074 : Int)).toNat = 1074 := rfl
  rw [if_neg hdigits, if_neg (by omega), if_neg (by omega), if_neg (by omega), hexponent, hten,
    Nat.mul_comm (units magnitude), nearest_mul_left hfive, nearest_units]

/-- Of two decimal numbers only one that reads back is found. -/
theorem nearestDecimal_of_firstReadingBack? {magnitude : Nat} {first second number : Decimal}
    (h : firstReadingBack? magnitude first second = some number) :
    nearestDecimal number = magnitude := by
  unfold firstReadingBack? at h
  split at h
  case isTrue hfirst =>
    rw [← Option.some.inj h]
    exact hfirst
  case isFalse =>
    split at h
    case isTrue hsecond =>
      rw [← Option.some.inj h]
      exact hsecond
    case isFalse => cases h

/-- What is found with a given count of digits was tested by reading it back. -/
theorem nearestDecimal_of_shortestWith? {tie : Tie} {magnitude count : Nat} {number : Decimal}
    (h : shortestWith? tie magnitude count = some number) : nearestDecimal number = magnitude := by
  unfold shortestWith? at h
  dsimp only at h
  split at h
  · exact nearestDecimal_of_firstReadingBack? h
  · exact nearestDecimal_of_firstReadingBack? h

/-- **The shortest decimal number of a double reads back.** -/
theorem nearestDecimal_shortest (tie : Tie) (magnitude : Nat) :
    nearestDecimal (shortest tie magnitude) = magnitude := by
  unfold shortest
  by_cases hzero : magnitude = 0
  · rw [if_pos hzero, hzero]
    rfl
  · rw [if_neg hzero]
    cases hfound : (List.range 17).findSome? fun i => shortestWith? tie magnitude (i + 1) with
    | none => exact nearestDecimal_exactDecimal (Nat.pos_of_ne_zero hzero)
    | some number =>
      obtain ⟨i, _, hi⟩ := List.exists_of_findSome?_eq_some hfound
      exact nearestDecimal_of_shortestWith? hi

end RecordFilter.Double
