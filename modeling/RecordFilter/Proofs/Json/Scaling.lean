import RecordFilter.Proofs.Json.Numbers
import RecordFilter.Proofs.Text.Digits

namespace RecordFilter

open Double Text

/-!
# Scaling never leaves the doubles

A number with a fraction or an exponent is read by rounding twice, so that what was written for a double
near the greatest one could come out beyond all doubles. It does not.

* `Double.lt_of_nearestDecimal_lt` — a decimal number that rounds below a magnitude is less than its value.
* `NumberToken.product_lt` — two roundings do not lead beyond the doubles from below the five greatest
  ones.
* `NumberToken.absorb_mul_pow_le` — the digits that a word takes in make no greater number than all digits.
* `NumberToken.exists_scaled?_shortest` — the digits written for a double can be scaled.
-/

namespace Double

/-- A decimal number that rounds below a magnitude is less than the value of the magnitude. -/
theorem lt_of_nearestDecimal_lt {number : Decimal} {magnitude : Nat}
    (hpos : 0 < nearestDecimal number) (h : nearestDecimal number < magnitude)
    (hbound : magnitude ≤ bound) :
    number.digits * Nat.pow 10 number.exponent.toNat * unitsPerOne
      < units magnitude * Nat.pow 10 (-number.exponent).toNat := by
  have hpow : ∀ count, 0 < Nat.pow 10 count := fun count => Nat.pow_pos (by decide)
  rw [← Nat.not_le]
  intro hle
  refine absurd h (Nat.not_lt.2 ?_)
  rw [← nearest_units magnitude]
  unfold nearestDecimal at hpos h ⊢
  by_cases hzero : number.digits = 0
  · rw [if_pos hzero] at hpos
    exact absurd hpos (Nat.lt_irrefl 0)
  rw [if_neg hzero] at hpos h ⊢
  by_cases hgreat : 400 < number.exponent
  · rw [if_pos hgreat] at h
    exact absurd h (Nat.not_lt.2 hbound)
  rw [if_neg hgreat] at hpos h ⊢
  by_cases hsmall : number.exponent + number.digits.log2 + 1 < -400
  · rw [if_pos hsmall] at hpos
    exact absurd hpos (Nat.lt_irrefl 0)
  rw [if_neg hsmall]
  -- Only one of the two powers of ten counts.
  by_cases hwhole : 0 ≤ number.exponent
  · rw [if_pos hwhole]
    refine nearest_mono unitsPerOne_pos Nat.one_pos ?_
    rwa [show (-number.exponent).toNat = 0 by omega] at hle
  · rw [if_neg hwhole]
    refine nearest_mono unitsPerOne_pos (hpow _) ?_
    rwa [show number.exponent.toNat = 0 by omega, show Nat.pow 10 0 = 1 from rfl, Nat.mul_one]
      at hle

end Double

namespace NumberToken

/-! ### Two roundings -/

/-- The first of the five greatest magnitudes. -/
def safeBound : Nat := bound - 5

/-- The value of the first of the five greatest magnitudes. -/
theorem units_safeBound : units safeBound = (2 * binade - 5) * Nat.pow 2 2045 := by
  decide +kernel

/-- The value of the greatest magnitude. -/
theorem units_last : units (bound - 1) = (2 * binade - 1) * Nat.pow 2 2045 := by
  decide +kernel

/-- **A product of rounded numbers is no greater than the greatest double, if the product of the numbers is
    no greater than the first of the five greatest.** -/
theorem product_lt {x y : Nat} (hx : 0 < x) (hy : 0 < y)
    (h : x * y * unitsPerOne ≤ units safeBound) :
    product (nearest x 1) (nearest y 1) < bound := by
  have hone := unitsPerOne_pos
  have hleft := units_nearest_one_le hx
  have hright := units_nearest_one_le hy
  have hconstant : (binade + 1) * (binade + 1) * (2 * binade - 5)
      ≤ binade * binade * (2 * binade - 1) := by
    decide
  have hle : units (nearest x 1) * units (nearest y 1) * unitsPerOne
      ≤ units (bound - 1) * (unitsPerOne * unitsPerOne) := by
    rw [units_safeBound] at h
    rw [units_last]
    have hwidth : 0 < binade * binade := by decide
    refine Nat.le_of_mul_le_mul_left ?_ hwidth
    generalize units (nearest x 1) = a at hleft ⊢
    generalize units (nearest y 1) = b at hright ⊢
    generalize unitsPerOne = one at h hleft hright ⊢
    generalize Nat.pow 2 2045 = power at h ⊢
    generalize 2 * binade - 5 = safe at h hconstant
    generalize 2 * binade - 1 = last at hconstant ⊢
    generalize binade = width at hleft hright hconstant ⊢
    calc width * width * (a * b * one) = width * a * (width * b) * one := by
          ac_rfl
      _ ≤ (width + 1) * (x * one) * ((width + 1) * (y * one)) * one :=
          Nat.mul_le_mul_right _ (Nat.mul_le_mul hleft hright)
      _ = (width + 1) * (width + 1) * (x * y * one) * (one * one) := by
          ac_rfl
      _ ≤ (width + 1) * (width + 1) * (safe * power) * (one * one) :=
          Nat.mul_le_mul_right _ (Nat.mul_le_mul_left _ h)
      _ = (width + 1) * (width + 1) * safe * (power * (one * one)) := by
          ac_rfl
      _ ≤ width * width * last * (power * (one * one)) := Nat.mul_le_mul_right _ hconstant
      _ = width * width * (last * power * (one * one)) := by
          ac_rfl
  have hmono := nearest_mono (Nat.mul_pos hone hone) hone hle
  rw [nearest_units] at hmono
  exact Nat.lt_of_le_of_lt hmono (by decide)

/-- A word can be scaled if that does not make it greater than the first of the five greatest doubles. -/
theorem exists_scale? {word : Nat} {exponent : Int}
    (h : 0 ≤ exponent → word * Nat.pow 10 exponent.toNat * unitsPerOne ≤ units safeBound) :
    ∃ magnitude, scale? (nearest word 1) exponent = some magnitude := by
  unfold scale?
  split
  case isTrue => exact ⟨0, rfl⟩
  case isFalse hne =>
    have hword : 0 < word := by
      rcases Nat.eq_zero_or_pos word with rfl | hpos
      · exact absurd (by decide +kernel) hne
      · exact hpos
    by_cases hwhole : 0 ≤ exponent
    · have hle := h hwhole
      -- The powers of ten from `10 ^ 309` on are beyond the doubles.
      have hsmall : ¬ 308 < exponent := by
        intro hgreat
        have hten : 2 ^ 1024 ≤ Nat.pow 10 exponent.toNat :=
          calc 2 ^ 1024 ≤ 10 ^ 309 := by decide +kernel
            _ ≤ 10 ^ exponent.toNat := Nat.pow_le_pow_right (by decide) (by omega)
        have hlt : units safeBound < 2 ^ 1024 * unitsPerOne := units_lt_pow_mul (by decide)
        refine absurd hle (Nat.not_le.2 (Nat.lt_of_lt_of_le hlt ?_))
        calc 2 ^ 1024 * unitsPerOne
            ≤ Nat.pow 10 exponent.toNat * unitsPerOne := Nat.mul_le_mul_right _ hten
          _ ≤ word * Nat.pow 10 exponent.toNat * unitsPerOne :=
            Nat.mul_le_mul_right _ (Nat.le_mul_of_pos_left _ hword)
      rw [if_neg hsmall, if_pos hwhole]
      exact ⟨_, if_pos (product_lt hword (Nat.pow_pos (by decide)) hle)⟩
    · rw [if_neg (by omega), if_neg hwhole]
      exact ⟨_, rfl⟩

/-! ### Digits that fit into a word -/

/-- The number that digits make behind a number. -/
theorem mul_pow_le_foldl (word : Nat) (digits : List Char) :
    word * 10 ^ digits.length
      ≤ digits.foldl (fun value c => 10 * value + digitValue c) word := by
  induction digits generalizing word with
  | nil => simp
  | cons c rest ih =>
    refine Nat.le_trans ?_ (ih _)
    rw [List.length_cons, Nat.pow_succ', ← Nat.mul_assoc, Nat.mul_comm word]
    exact Nat.mul_le_mul_right _ (Nat.le_add_right _ _)

/-- **The digits that a word takes in make no greater number than all digits**, if zeros stand for those
    that it does not take in. -/
theorem absorb_mul_pow_le (word : Nat) (digits : List Char) :
    (absorb word digits).2 ≤ digits.length
      ∧ (absorb word digits).1 * 10 ^ (digits.length - (absorb word digits).2)
        ≤ digits.foldl (fun value c => 10 * value + digitValue c) word := by
  induction digits generalizing word with
  | nil => simp [absorb]
  | cons c rest ih =>
    rw [absorb]
    split
    case isTrue =>
      obtain ⟨hcount, hle⟩ := ih (10 * word + digitValue c)
      refine ⟨Nat.succ_le_succ hcount, ?_⟩
      rwa [List.length_cons, Nat.add_sub_add_right]
    case isFalse => exact ⟨Nat.zero_le _, mul_pow_le_foldl word (c :: rest)⟩

/-! ### Scientific notation -/

/-- What a reader makes of a number in scientific notation: as many of its digits as a word takes in are
    rounded and scaled. -/
def scaled? (number : Decimal) : Option Nat :=
  let (word, taken) := absorb 0 (natChars number.digits)
  scale? (nearest word 1) (number.exponent + ((natChars number.digits).length - taken : Nat))

/-- A number below the five greatest doubles can be scaled. -/
theorem exists_scaled? {number : Decimal}
    (h : number.digits * Nat.pow 10 number.exponent.toNat * unitsPerOne
      < units safeBound * Nat.pow 10 (-number.exponent).toNat) :
    ∃ magnitude, scaled? number = some magnitude := by
  obtain ⟨-, hle⟩ := absorb_mul_pow_le 0 (natChars number.digits)
  have hdigits : (natChars number.digits).foldl (fun value c => 10 * value + digitValue c) 0
      = number.digits := digitsValue_natChars number.digits
  rw [hdigits] at hle
  unfold scaled?
  dsimp only
  generalize (absorb 0 (natChars number.digits)).1 = word at hle ⊢
  generalize (natChars number.digits).length - (absorb 0 (natChars number.digits)).2 = left at hle ⊢
  refine exists_scale? fun hwhole => Nat.le_of_lt ?_
  have hpow : 0 < Nat.pow 10 (-number.exponent).toNat := Nat.pow_pos (by decide)
  refine Nat.lt_of_mul_lt_mul_right (a := Nat.pow 10 (-number.exponent).toNat) ?_
  refine Nat.lt_of_le_of_lt ?_ h
  -- The powers of ten that a negative exponent takes away have been added for the digits left out.
  have hsplit : (number.exponent + left).toNat + (-number.exponent).toNat
      = left + number.exponent.toNat := by omega
  have hten : Nat.pow 10 (number.exponent + left).toNat * Nat.pow 10 (-number.exponent).toNat
      = 10 ^ left * Nat.pow 10 number.exponent.toNat := by
    show 10 ^ _ * 10 ^ _ = 10 ^ _ * 10 ^ _
    rw [← Nat.pow_add, ← Nat.pow_add, hsplit]
  calc word * Nat.pow 10 (number.exponent + left).toNat * unitsPerOne
        * Nat.pow 10 (-number.exponent).toNat
      = word * (Nat.pow 10 (number.exponent + left).toNat * Nat.pow 10 (-number.exponent).toNat)
        * unitsPerOne := by
        rw [Nat.mul_right_comm, Nat.mul_assoc word]
    _ = word * 10 ^ left * Nat.pow 10 number.exponent.toNat * unitsPerOne := by
        rw [hten, Nat.mul_assoc word (10 ^ left)]
    _ ≤ number.digits * Nat.pow 10 number.exponent.toNat * unitsPerOne :=
        Nat.mul_le_mul_right _ (Nat.mul_le_mul_right _ hle)

/-- The digits written for the five greatest doubles can be scaled. -/
theorem isSome_scaled?_greatest :
    ∀ i < 5, (scaled? (shortest .even (safeBound + i))).isSome = true := by
  decide +kernel

/-- **The digits written for a double can be scaled.** -/
theorem exists_scaled?_shortest {magnitude : Nat} (hpos : 0 < magnitude) (h : magnitude < bound) :
    ∃ scaled, scaled? (shortest .even magnitude) = some scaled := by
  have hnearest := nearestDecimal_shortest .even magnitude
  by_cases hsafe : magnitude < safeBound
  · refine exists_scaled? (lt_of_nearestDecimal_lt ?_ ?_ (Nat.sub_le _ _))
    · rwa [hnearest]
    · rwa [hnearest]
  · have hgreatest := isSome_scaled?_greatest (magnitude - safeBound) (by unfold safeBound at *; omega)
    rw [Nat.add_sub_cancel' (Nat.le_of_not_lt hsafe)] at hgreatest
    exact Option.isSome_iff_exists.1 hgreatest

end NumberToken

end RecordFilter
