import RecordFilter.Double.Notation
import RecordFilter.Proofs.Double.Shortest
import RecordFilter.Proofs.Text.Digits

namespace RecordFilter

open Text

/-!
# Written doubles read back

* `Decimal.exists_pointed_eq` — the positional form is two runs of digits around a point.
* `Double.ofText?_literalText` — a finite double reads back from the form that filter texts write.
-/

namespace Decimal

/-- Unfolding lemma: a whole number is written with the fraction zero. -/
theorem pointed_of_nonneg {number : Decimal} (h : 0 ≤ number.exponent) :
    number.pointed
      = (natChars number.digits ++ List.replicate number.exponent.toNat '0') ++ ['.', '0'] := by
  rw [pointed, if_pos h, positional, if_pos h]

/-- Unfolding lemma: a number with a fraction is written as its digits with a point among them,
    zeros in front if there are too few of them. -/
theorem pointed_of_neg (number : Decimal) (h : number.exponent < 0) :
    ∃ whole fraction, number.pointed = whole ++ '.' :: fraction ∧ whole ≠ []
      ∧ (∀ c ∈ whole ++ fraction, isDigit c = true)
      ∧ fraction.length = (-number.exponent).toNat
      ∧ digitsValue (whole ++ fraction) = number.digits := by
  have hdigits : ∀ c ∈ natChars number.digits, isDigit c = true :=
    fun c hc => isDigit_of_mem_natChars hc
  rw [pointed, if_neg (by omega), positional, if_neg (by omega)]
  dsimp only
  generalize hplaces : (-number.exponent).toNat = places
  by_cases hfew : places < (natChars number.digits).length
  -- The point stands among the digits.
  · rw [if_pos hfew]
    refine ⟨_, _, rfl, ?_, ?_, ?_, ?_⟩
    · rw [← List.length_pos_iff, List.length_take]
      omega
    · rw [List.take_append_drop]
      exact hdigits
    · rw [List.length_drop]
      omega
    · rw [List.take_append_drop, digitsValue_natChars]
  -- Zeros are put in front, the first of them before the point.
  · rw [if_neg hfew]
    refine ⟨['0'], _, rfl, by simp, ?_, ?_, ?_⟩
    · intro c hc
      simp only [List.mem_append, List.mem_replicate, List.mem_singleton] at hc
      rcases hc with rfl | ⟨_, rfl⟩ | hc
      · decide
      · decide
      · exact hdigits c hc
    · rw [List.length_append, List.length_replicate]
      omega
    · rw [show ['0'] = List.replicate 1 '0' from rfl, digitsValue_replicate_zero_append,
        digitsValue_replicate_zero_append, digitsValue_natChars]

/-- A positional form is two runs of digits around a point, and the digits are those of the number
    up to zeros at the end. -/
theorem exists_pointed_eq (number : Decimal) :
    ∃ whole fraction, number.pointed = whole ++ '.' :: fraction ∧ whole ≠ []
      ∧ (∀ c ∈ whole ++ fraction, isDigit c = true)
      ∧ ((fraction.length = (-number.exponent).toNat ∧ number.exponent < 0
            ∧ digitsValue (whole ++ fraction) = number.digits)
          ∨ (fraction.length = 1 ∧ 0 ≤ number.exponent
            ∧ digitsValue (whole ++ fraction)
                = 10 * (number.digits * Nat.pow 10 number.exponent.toNat))) := by
  by_cases h : 0 ≤ number.exponent
  · refine ⟨_, ['0'], pointed_of_nonneg h, by simp, ?_, Or.inr ⟨rfl, h, ?_⟩⟩
    · intro c hc
      simp only [List.mem_append, List.mem_replicate, List.mem_singleton] at hc
      rcases hc with (hc | ⟨_, rfl⟩) | rfl
      · exact isDigit_of_mem_natChars hc
      · decide
      · decide
    -- The zero behind the point makes the digits ten times the number.
    · rw [digitsValue_append, digitsValue_append, digitsValue_natChars, digitsValue_replicate_zero,
        List.length_replicate, show digitsValue ['0'] = 0 from rfl]
      simp only [List.length_singleton, Nat.add_zero]
      exact Nat.mul_comm _ _
  · obtain ⟨whole, fraction, heq, hne, hd, hlength, hvalue⟩ :=
      number.pointed_of_neg (by omega)
    exact ⟨whole, fraction, heq, hne, hd, Or.inl ⟨hlength, by omega, hvalue⟩⟩

/-- The JSON layout of a number has digits, a point, an exponent mark and signs in it. -/
theorem mem_moderate {number : Decimal} {c : Char} (h : c ∈ number.moderate) :
    isDigit c = true ∨ c ∈ ['.', 'e', '-', '+'] := by
  have hdigits : ∀ {number : Nat} {c : Char}, c ∈ natChars number → isDigit c = true :=
    fun hc => isDigit_of_mem_natChars hc
  unfold moderate at h
  dsimp only at h
  split at h
  case isTrue =>
    obtain ⟨whole, fraction, heq, _, hd, _⟩ := number.exists_pointed_eq
    rw [heq, List.mem_append, List.mem_cons] at h
    rcases h with hc | rfl | hc
    · exact .inl (hd c (List.mem_append_left _ hc))
    · exact .inr (by simp)
    · exact .inl (hd c (List.mem_append_right _ hc))
  case isFalse =>
    unfold scientific at h
    simp only [List.mem_append, List.mem_cons, List.not_mem_nil, or_false] at h
    rcases h with ((hc | hc) | rfl | rfl) | hc
    · exact .inl (hdigits (List.mem_of_mem_take hc))
    · split at hc
      case isTrue => cases hc
      case isFalse =>
        rcases List.mem_cons.1 hc with rfl | hc
        · exact .inr (by simp)
        · exact .inl (hdigits (List.mem_of_mem_drop hc))
    · exact .inr (by simp)
    · split <;> exact .inr (by simp)
    · exact .inl (hdigits hc)

end Decimal

namespace Double

/-- Digits around a point read as the decimal number that they write. -/
theorem readDecimal?_point {whole fraction : List Char} (hne : whole ≠ [])
    (hd : ∀ c ∈ whole ++ fraction, isDigit c = true) :
    readDecimal? (whole ++ '.' :: fraction)
      = some ⟨digitsValue (whole ++ fraction), -(fraction.length : Int)⟩ := by
  have hwhole : ∀ c ∈ whole, isDigit c = true := fun c hc => hd c (List.mem_append_left _ hc)
  have hfraction : ∀ c ∈ fraction, isDigit c = true := fun c hc => hd c (List.mem_append_right _ hc)
  have hpoint : NoDigitAhead ('.' :: fraction) := by
    rw [noDigitAhead_cons]
    decide
  have hspan : fraction.span isDigit = (fraction, []) := by
    have := span_isDigit_append hfraction noDigitAhead_nil
    rwa [List.append_nil] at this
  unfold readDecimal?
  rw [span_isDigit_append hwhole hpoint]
  simp only [readFraction, hspan, readExponent?, List.isEmpty_eq_false_iff.2 hne, Bool.false_and,
    Bool.false_eq_true, if_false, Option.bind_eq_bind, Option.bind_some, Int.zero_sub]

/-- Ten times the digits and one power of ten less are the same number. -/
theorem nearestDecimal_tenfold {number : Decimal} (h : 0 ≤ number.exponent)
    (hfinite : nearestDecimal number < bound) :
    nearestDecimal ⟨10 * (number.digits * Nat.pow 10 number.exponent.toNat), -(1 : Nat)⟩
      = nearestDecimal number := by
  have hpow : 0 < Nat.pow 10 number.exponent.toNat := Nat.pow_pos (by decide)
  unfold nearestDecimal at hfinite ⊢
  by_cases hzero : number.digits = 0
  · simp [hzero]
  · have hdigits : 0 < number.digits * Nat.pow 10 number.exponent.toNat :=
      Nat.mul_pos (Nat.pos_of_ne_zero hzero) hpow
    rw [if_neg hzero] at hfinite ⊢
    split at hfinite
    case isTrue => exact absurd hfinite (Nat.lt_irrefl _)
    case isFalse hsmall =>
      -- The number is finite, so none of the bounds on exponents is exceeded.
      dsimp only
      rw [if_neg (by omega), if_neg (by omega), if_neg (by omega), if_neg (by omega),
        if_neg hsmall, if_neg (by omega), if_pos h]
      exact nearest_mul_left (by decide) _ 1

/-- The positional form of a decimal number reads as a decimal number that rounds alike. -/
theorem readDecimal?_pointed (number : Decimal) (hfinite : nearestDecimal number < bound) :
    ∃ read, readDecimal? number.pointed = some read
      ∧ nearestDecimal read = nearestDecimal number := by
  obtain ⟨whole, fraction, heq, hne, hd, hcases⟩ := number.exists_pointed_eq
  rw [heq, readDecimal?_point hne hd]
  refine ⟨_, rfl, ?_⟩
  rcases hcases with ⟨hlength, hneg, hvalue⟩ | ⟨hlength, hnonneg, hvalue⟩
  · have hexponent : -(fraction.length : Int) = number.exponent := by omega
    rw [hvalue, hexponent]
  · rw [hvalue, hlength]
    exact nearestDecimal_tenfold hnonneg hfinite

/-! ### Signs and words -/

/-- A digit has no lower case. -/
theorem toLower_of_isDigit {c : Char} (h : isDigit c = true) : c.toLower = c := by
  obtain ⟨_, hhigh⟩ := toNat_of_isDigit h
  unfold Char.toLower
  rw [dif_neg]
  rintro ⟨hupper, _⟩
  have : 65 ≤ c.toNat := UInt32.le_iff_toNat_le.1 hupper
  omega

/-- A text that begins with a digit is no word. -/
theorem lowered_ne_of_isDigit {c : Char} (rest : List Char) {word : String} (hc : isDigit c = true)
    (hword : NoDigitAhead word.toList) : String.ofList ((c :: rest).map Char.toLower) ≠ word := by
  rintro rfl
  rw [String.toList_ofList, List.map_cons, noDigitAhead_cons, toLower_of_isDigit hc, hc] at hword
  exact absurd hword (by decide)

/-- A text that begins with a digit, but for a minus sign, reads as a decimal number. -/
theorem ofText?_signed {text : List Char} (negative : Bool)
    (hdigit : ∃ c ∈ text.head?, isDigit c = true) :
    ofText? (String.ofList (signed negative text))
      = (readDecimal? text).map (ofDecimal negative) := by
  obtain ⟨c, hc, hdigit⟩ := hdigit
  obtain ⟨rest, rfl⟩ : ∃ rest, text = c :: rest := by
    cases text with
    | nil => exact absurd hc (by simp)
    | cons d rest => exact ⟨rest, by simp_all⟩
  have hsign : readSign (signed negative (c :: rest)) = (negative, c :: rest) := by
    cases negative with
    | false => exact readSign_of_isDigit hdigit
    | true => rfl
  unfold ofText?
  rw [String.toList_ofList, hsign]
  dsimp only
  -- NaN and the two words for infinity begin with letters.
  rw [if_neg, if_neg]
  · exact lowered_ne_of_isDigit rest hdigit (by decide)
  · rintro (h | h)
    · exact lowered_ne_of_isDigit rest hdigit (by decide) h
    · exact lowered_ne_of_isDigit rest hdigit (by decide) h

/-- **A finite double reads back from its literal.** -/
theorem ofText?_literalText (negative : Bool) (magnitude : Fin bound) :
    ofText? (literalText (.finite negative magnitude)) = some (.finite negative magnitude) := by
  have hround := nearestDecimal_shortest .up magnitude
  obtain ⟨read, hread, hnearest⟩ :=
    readDecimal?_pointed (shortest .up magnitude) (by rw [hround]; exact magnitude.isLt)
  obtain ⟨whole, fraction, heq, hne, hd, _⟩ := (shortest .up magnitude).exists_pointed_eq
  have hdigit : ∃ c ∈ (shortest .up magnitude).pointed.head?, isDigit c = true := by
    rw [heq]
    cases whole with
    | nil => exact absurd rfl hne
    | cons c whole => exact ⟨c, by simp, hd c (by simp)⟩
  rw [literalText, ofText?_signed negative hdigit, hread, Option.map_some, ofDecimal, hnearest,
    hround, ofMagnitude, dif_pos magnitude.isLt]

end Double

end RecordFilter
