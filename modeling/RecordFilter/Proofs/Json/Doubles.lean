import RecordFilter.Proofs.Json.Scaling
import RecordFilter.Proofs.Json.Written

namespace RecordFilter

open Double Text

/-!
# Every written double is read as a double

* `Decimal.exists_pointed_whole` — the positional form of a number is a whole part, a point and a fraction as
  JSON has them.
* `NumberToken.ofChars?_parts` — a sign, a whole part, a fraction and an exponent are read as such.
* `NumberToken.exists_value?_pointed`, `exists_value?_scientific` — both forms have the value of a double.
* `Json.exists_ofWord?_float` — hence a reader takes the JSON form of a finite double for a finite double,
  though it can be another one.
-/

namespace NumberToken

/-! ### The parts of a number -/

/-- Digits that may stand before the point: no zero precedes another digit. -/
structure IsWhole (whole : List Char) : Prop where
  ne_nil : whole ≠ []
  isDigit : ∀ c ∈ whole, isDigit c = true
  noLeadingZero : ∀ rest, whole = '0' :: rest → rest = []

/-- The characters of a fraction, if there is one. -/
def fractionChars : Option (List Char) → List Char
  | none => []
  | some digits => '.' :: digits

/-- The first digits of a written number may stand before the point. -/
theorem isWhole_take {number count : Nat} (h : 0 < count) :
    IsWhole ((natChars number).take count) where
  ne_nil := by
    rw [Ne, List.take_eq_nil_iff]
    rintro (rfl | hnil)
    · exact absurd h (Nat.lt_irrefl 0)
    · exact natChars_ne_nil number hnil
  isDigit c hc := isDigit_of_mem_natChars (List.mem_of_mem_take hc)
  noLeadingZero rest hrest := by
    cases hdigits : natChars number with
    | nil => exact absurd hdigits (natChars_ne_nil number)
    | cons c more =>
      obtain ⟨count, rfl⟩ : ∃ before, count = before + 1 := ⟨count - 1, by omega⟩
      rw [hdigits, List.take_succ_cons] at hrest
      obtain ⟨rfl, rfl⟩ := List.cons.inj hrest
      rw [eq_nil_of_natChars hdigits, List.take_nil]

/-- The digits before the point are read. -/
theorem readWhole?_append {whole rest : List Char} (h : IsWhole whole) (hrest : NoDigitAhead rest) :
    readWhole? (whole ++ rest) = some (whole, rest) := by
  unfold readWhole?
  rw [span_isDigit_append h.isDigit hrest]
  split
  case h_1 hnil => exact absurd (Prod.mk.inj hnil).1 h.ne_nil
  case h_2 hzero => cases h.noLeadingZero _ (Prod.mk.inj hzero).1
  case h_3 => rfl

/-- A fraction is read, if there is one. -/
theorem readFraction?_append {fraction : Option (List Char)} {rest : List Char}
    (h : ∀ digits ∈ fraction, digits ≠ [] ∧ ∀ c ∈ digits, isDigit c = true)
    (hrest : NoDigitAhead rest) (hpoint : ∀ c ∈ rest.head?, c ≠ '.') :
    readFraction? (fractionChars fraction ++ rest) = some (fraction, rest) := by
  cases fraction with
  | none =>
    rw [fractionChars, List.nil_append]
    unfold readFraction?
    split
    case h_1 => exact absurd rfl (hpoint '.' rfl)
    case h_2 => rfl
  | some digits =>
    obtain ⟨hne, hdigits⟩ := h digits rfl
    rw [fractionChars, List.cons_append, readFraction?, span_isDigit_append hdigits hrest]
    split
    case h_1 hnil => exact absurd (Prod.mk.inj hnil).1 hne
    case h_2 heq =>
      obtain ⟨rfl, rfl⟩ := Prod.mk.inj heq
      rfl

/-- A sign and digits behind an exponent mark are read. -/
theorem readExponent?_mark {sign : Char} {negative : Bool} {digits : List Char}
    (hsign : readSign (sign :: digits) = (negative, digits)) (hne : digits ≠ [])
    (hdigits : ∀ c ∈ digits, isDigit c = true) :
    readExponent? ('e' :: sign :: digits)
      = some (some (if negative then -(digitsValue digits : Int) else digitsValue digits), []) := by
  have hspan : (digits ++ []).span isDigit = (digits, []) :=
    span_isDigit_append hdigits noDigitAhead_nil
  rw [List.append_nil] at hspan
  rw [readExponent?, if_pos (.inl rfl), hsign]
  dsimp only
  rw [hspan]
  cases digits with
  | nil => exact absurd rfl hne
  | cons => rfl

/-- A signed exponent is read. -/
theorem readExponent?_signed (exponent : Int) :
    readExponent? ('e' :: (if exponent < 0 then '-' else '+') :: natChars exponent.natAbs)
      = some (some exponent, []) := by
  have hdigits : ∀ c ∈ natChars exponent.natAbs, isDigit c = true :=
    fun c hc => isDigit_of_mem_natChars hc
  by_cases hnegative : exponent < 0
  · have hvalue : -(exponent.natAbs : Int) = exponent := by omega
    have hsign : readSign ('-' :: natChars exponent.natAbs) = (true, natChars exponent.natAbs) := rfl
    rw [if_pos hnegative, readExponent?_mark hsign (natChars_ne_nil _) hdigits, if_pos rfl,
      digitsValue_natChars, hvalue]
  · have hvalue : (exponent.natAbs : Int) = exponent := by omega
    have hsign : readSign ('+' :: natChars exponent.natAbs) = (false, natChars exponent.natAbs) := rfl
    rw [if_neg hnegative, readExponent?_mark hsign (natChars_ne_nil _) hdigits, if_neg (by decide),
      digitsValue_natChars, hvalue]

/-- **A number is read part by part.** -/
theorem ofChars?_parts (negative : Bool) {whole tail : List Char} {fraction : Option (List Char)}
    {exponent : Option Int} (hwhole : IsWhole whole)
    (hfraction : ∀ digits ∈ fraction, digits ≠ [] ∧ ∀ c ∈ digits, isDigit c = true)
    (htail : readExponent? tail = some (exponent, []))
    (hahead : ∀ c ∈ tail.head?, isDigit c = false ∧ c ≠ '.') :
    ofChars? (signed negative (whole ++ (fractionChars fraction ++ tail)))
      = some ⟨negative, whole, fraction, exponent⟩ := by
  have hminus : readMinus (signed negative (whole ++ (fractionChars fraction ++ tail)))
      = (negative, whole ++ (fractionChars fraction ++ tail)) := by
    cases negative with
    | true => rfl
    | false =>
      cases hdigits : whole with
      | nil => exact absurd hdigits hwhole.ne_nil
      | cons c more =>
        have hc := hwhole.isDigit c (hdigits ▸ List.mem_cons_self)
        show readMinus (c :: (more ++ (fractionChars fraction ++ tail))) = _
        unfold readMinus
        split
        case h_1 hsign =>
          obtain ⟨rfl, -⟩ := List.cons.inj hsign
          exact absurd hc (by decide)
        case h_2 => rfl
  have hbehind : NoDigitAhead (fractionChars fraction ++ tail) := by
    cases fraction with
    | none => exact fun c hc => (hahead c hc).1
    | some digits => exact (noDigitAhead_cons '.' _).2 (by decide)
  unfold ofChars?
  simp only [hminus, readWhole?_append hwhole hbehind,
    readFraction?_append hfraction (fun c hc => (hahead c hc).1) (fun c hc => (hahead c hc).2), htail,
    Option.bind_eq_bind, Option.bind_some, List.isEmpty_nil, if_true]

/-! ### Values -/

/-- A number with a fraction or an exponent is a double. -/
theorem value?_eq {token : NumberToken}
    (h : (token.fraction.isNone && token.exponent.isNone) = false) :
    token.value?
      = (scale? (nearest (absorb (absorb 0 token.whole).1 (token.fraction.getD [])).1 1)
          (token.exponent.getD 0 + (token.whole.length - (absorb 0 token.whole).2 : Nat)
            - (absorb (absorb 0 token.whole).1 (token.fraction.getD [])).2)).map
        fun magnitude => .float (ofMagnitude token.negative magnitude) := by
  unfold value?
  simp only [h, Bool.false_and, Bool.false_eq_true, if_false]

/-- **A number in positional notation is a double**, unless it has too many digits before the point. -/
theorem exists_value?_pointed (negative : Bool) {whole fraction : List Char}
    (h : whole.length ≤ 16) :
    ∃ number, value? ⟨negative, whole, some fraction, none⟩ = some (.float number) := by
  have hword := absorb_le fraction (absorb_le whole (Nat.zero_le wordMax))
  rw [value?_eq rfl]
  dsimp only [Option.getD_some, Option.getD_none]
  generalize (absorb (absorb 0 whole).1 fraction).1 = word at hword ⊢
  generalize hexponent : (0 + ((whole.length - (absorb 0 whole).2 : Nat) : Int)
    - (absorb (absorb 0 whole).1 fraction).2) = exponent
  have hscaled : 0 ≤ exponent →
      word * Nat.pow 10 exponent.toNat * unitsPerOne ≤ units safeBound := by
    intro _
    have hpow : Nat.pow 10 exponent.toNat ≤ 10 ^ 16 :=
      Nat.pow_le_pow_right (by decide) (by omega)
    calc word * Nat.pow 10 exponent.toNat * unitsPerOne
        ≤ wordMax * 10 ^ 16 * unitsPerOne := Nat.mul_le_mul_right _ (Nat.mul_le_mul hword hpow)
      _ ≤ 2 ^ 128 * unitsPerOne := Nat.mul_le_mul_right _ (by decide)
      _ ≤ units safeBound := pow_mul_le_units (by decide)
  obtain ⟨magnitude, hmagnitude⟩ := exists_scale? hscaled
  exact ⟨_, by rw [hmagnitude, Option.map_some]⟩

/-- The digits behind the first one are taken in after it. -/
theorem absorb_zero_cons {c : Char} (h : isDigit c = true) (rest : List Char) :
    absorb 0 (c :: rest)
      = ((absorb (digitValue c) rest).1, (absorb (digitValue c) rest).2 + 1) := by
  obtain ⟨-, hhigh⟩ := toNat_of_isDigit h
  have hfits : 10 * 0 + digitValue c ≤ wordMax := by
    have hzero : '0'.toNat = 48 := rfl
    have hmax : wordMax = 2 ^ 64 - 1 := rfl
    unfold digitValue
    omega
  rw [absorb, if_pos hfits, Nat.mul_zero, Nat.zero_add]

/-- **A number in scientific notation is a double if its digits can be scaled.** -/
theorem exists_value?_scientific (negative : Bool) {number : Decimal} {fraction : Option (List Char)}
    (hfraction : fraction.getD [] = (natChars number.digits).drop 1) {scaled : Nat}
    (h : scaled? number = some scaled) :
    ∃ value, value? ⟨negative, (natChars number.digits).take 1, fraction,
      some (number.exponent + (natChars number.digits).length - 1)⟩ = some (.float value) := by
  have hmark : (fraction.isNone && (some (number.exponent + (natChars number.digits).length - 1)).isNone)
      = false := Bool.and_false _
  rw [value?_eq hmark]
  dsimp only [Option.getD_some]
  rw [hfraction]
  unfold scaled? at h
  cases hdigits : natChars number.digits with
  | nil => exact absurd hdigits (natChars_ne_nil number.digits)
  | cons c rest =>
    have hc : isDigit c = true := isDigit_of_mem_natChars (hdigits ▸ List.mem_cons_self)
    obtain ⟨hplaces, -⟩ := absorb_mul_pow_le (digitValue c) rest
    have hfirst : absorb 0 [c] = (digitValue c, 1) := absorb_zero_cons hc []
    rw [hdigits, absorb_zero_cons hc] at h
    dsimp only at h
    rw [List.take_succ_cons, List.take_zero, List.drop_succ_cons, List.drop_zero, hfirst]
    dsimp only
    have hexponent : number.exponent + ((c :: rest).length : Int) - 1
          + (([c].length - 1 : Nat) : Int) - ((absorb (digitValue c) rest).2 : Int)
        = number.exponent
          + (((c :: rest).length - ((absorb (digitValue c) rest).2 + 1) : Nat) : Int) := by
      rw [List.length_cons, List.length_singleton]
      omega
    rw [hexponent, h]
    exact ⟨_, rfl⟩

end NumberToken

/-! ### Decimal numbers -/

/-- The positional form of a number is a whole part, a point and a fraction. -/
theorem Decimal.exists_pointed_whole {number : Decimal}
    (hzero : number.digits = 0 → number.exponent = 0) :
    ∃ whole fraction, number.pointed = whole ++ '.' :: fraction ∧ NumberToken.IsWhole whole
      ∧ fraction ≠ [] ∧ (∀ c ∈ fraction, isDigit c = true)
      ∧ (whole.length : Int) ≤ max 1 (number.exponent + (natChars number.digits).length) := by
  have hdigits : ∀ c ∈ natChars number.digits, isDigit c = true :=
    fun c hc => isDigit_of_mem_natChars hc
  have hlength : 0 < (natChars number.digits).length :=
    List.length_pos_iff.2 (natChars_ne_nil number.digits)
  by_cases hnonneg : 0 ≤ number.exponent
  · refine ⟨_, ['0'], Decimal.pointed_of_nonneg hnonneg, ⟨?_, ?_, ?_⟩, by simp,
      List.forall_mem_singleton.2 (by decide), ?_⟩
    · simp
    · intro c hc
      rcases List.mem_append.1 hc with hc | hc
      · exact hdigits c hc
      · rw [(List.mem_replicate.1 hc).2]
        decide
    -- Only zero starts with a zero, and nothing is written behind it.
    · intro rest hrest
      cases hfirst : natChars number.digits with
      | nil => exact absurd hfirst (natChars_ne_nil number.digits)
      | cons c more =>
        rw [hfirst, List.cons_append] at hrest
        obtain ⟨rfl, rfl⟩ := List.cons.inj hrest
        obtain rfl := eq_nil_of_natChars hfirst
        have hvalue := digitsValue_natChars number.digits
        rw [hfirst] at hvalue
        rw [hzero hvalue.symm]
        rfl
    · rw [List.length_append, List.length_replicate]
      omega
  · rw [Decimal.pointed, if_neg hnonneg, Decimal.positional, if_neg hnonneg]
    dsimp only
    generalize hplaces : (-number.exponent).toNat = places
    by_cases hfew : places < (natChars number.digits).length
    · rw [if_pos hfew]
      refine ⟨_, _, rfl, NumberToken.isWhole_take (by omega), ?_, ?_, ?_⟩
      · rw [← List.length_pos_iff, List.length_drop]
        omega
      · exact fun c hc => hdigits c (List.mem_of_mem_drop hc)
      · rw [List.length_take]
        omega
    · rw [if_neg hfew]
      refine ⟨['0'], _, rfl, ⟨by simp, List.forall_mem_singleton.2 (by decide), ?_⟩, ?_, ?_, ?_⟩
      · intro rest hrest
        exact (List.cons.inj hrest).2.symm
      · simp
      · intro c hc
        rcases List.mem_append.1 hc with hc | hc
        · rw [(List.mem_replicate.1 hc).2]
          decide
        · exact hdigits c hc
      · rw [List.length_singleton]
        omega

namespace NumberToken

/-- **The JSON layout of a number is read as a double** if its digits can be scaled. -/
theorem exists_ofChars?_moderate (negative : Bool) {number : Decimal} {scaled : Nat}
    (hzero : number.digits = 0 → number.exponent = 0)
    (h : number.digits ≠ 0 → scaled? number = some scaled) :
    ∃ token value, ofChars? (signed negative number.moderate) = some token
      ∧ token.value? = some (.float value) := by
  unfold Decimal.moderate
  dsimp only
  split
  case isTrue hmoderate =>
    obtain ⟨whole, fraction, heq, hwhole, hne, hdigits, hlength⟩ := Decimal.exists_pointed_whole hzero
    have hfraction : ∀ digits ∈ some fraction, digits ≠ [] ∧ ∀ c ∈ digits, isDigit c = true := by
      rintro digits ⟨⟩
      exact ⟨hne, hdigits⟩
    have hread := ofChars?_parts negative hwhole hfraction
      (show readExponent? [] = some (none, []) from rfl) (fun c hc => by cases hc)
    rw [fractionChars, List.append_nil, ← heq] at hread
    have hshort : whole.length ≤ 16 := by
      rcases hmoderate with hdigits | ⟨-, hpoint⟩
      · have hone : natChars number.digits = ['0'] := by rw [hdigits]; rfl
        rw [hone, hzero hdigits] at hlength
        simp at hlength
        omega
      · omega
    obtain ⟨value, hvalue⟩ := exists_value?_pointed negative hshort
    exact ⟨_, value, hread, hvalue⟩
  case isFalse hmoderate =>
    have hdigits : ∀ c ∈ natChars number.digits, isDigit c = true :=
      fun c hc => isDigit_of_mem_natChars hc
    have hlength : 0 < (natChars number.digits).length :=
      List.length_pos_iff.2 (natChars_ne_nil number.digits)
    -- With a single digit there is no point.
    obtain ⟨fraction, hchars, hgetD, hfraction⟩ : ∃ fraction : Option (List Char),
        (if (natChars number.digits).length = 1 then [] else '.' :: (natChars number.digits).drop 1)
            = fractionChars fraction
          ∧ fraction.getD [] = (natChars number.digits).drop 1
          ∧ ∀ digits ∈ fraction, digits ≠ [] ∧ ∀ c ∈ digits, isDigit c = true := by
      by_cases hone : (natChars number.digits).length = 1
      · refine ⟨none, if_pos hone, ?_, nofun⟩
        rw [List.drop_eq_nil_of_le (Nat.le_of_eq hone)]
        rfl
      · refine ⟨some ((natChars number.digits).drop 1), if_neg hone, rfl, ?_⟩
        rintro digits ⟨⟩
        refine ⟨?_, fun c hc => hdigits c (List.mem_of_mem_drop hc)⟩
        rw [← List.length_pos_iff, List.length_drop]
        omega
    have hwhole : IsWhole ((natChars number.digits).take 1) := isWhole_take Nat.one_pos
    have hread := ofChars?_parts negative hwhole hfraction
      (readExponent?_signed (number.exponent + (natChars number.digits).length - 1))
      (by rintro c ⟨⟩; decide)
    obtain ⟨value, hvalue⟩ := exists_value?_scientific negative hgetD
      (h fun hnone => hmoderate (.inl hnone))
    refine ⟨_, value, ?_, hvalue⟩
    rw [← hread, Decimal.scientific]
    rw [hchars, List.append_assoc, List.append_assoc]
    rfl

end NumberToken

namespace Json

/-- **The written form of a finite double is read as a finite double.** -/
theorem exists_ofWord?_float {value : Double} (h : value.IsFinite) :
    ∃ read : Double, read.IsFinite
      ∧ Token.ofWord? (chars (.float value)) = some (.scalar (some (.float read))) := by
  obtain ⟨negative, magnitude⟩ := h
  have hnearest := nearestDecimal_shortest .even magnitude
  have hzero : (shortest .even magnitude).digits = 0 → (shortest .even magnitude).exponent = 0 := by
    intro hdigits
    rw [nearestDecimal, if_pos hdigits] at hnearest
    rw [← hnearest]
    rfl
  have hscaled : ∃ scaled, (shortest .even magnitude).digits ≠ 0 →
      NumberToken.scaled? (shortest .even magnitude) = some scaled := by
    by_cases hmagnitude : magnitude.val = 0
    · refine ⟨0, fun hdigits => absurd ?_ hdigits⟩
      rw [hmagnitude]
      rfl
    · obtain ⟨scaled, hscaled⟩ :=
        NumberToken.exists_scaled?_shortest (Nat.pos_of_ne_zero hmagnitude) magnitude.isLt
      exact ⟨scaled, fun _ => hscaled⟩
  obtain ⟨scaled, hscaled⟩ := hscaled
  obtain ⟨token, read, htoken, hvalue⟩ :=
    NumberToken.exists_ofChars?_moderate negative hzero hscaled
  have hfinite : read.IsFinite := by
    cases NumberToken.numbersFit_of_value? hvalue with
    | float _ finite => exact finite
  refine ⟨read, hfinite, ?_⟩
  have hchars : chars (.float (.finite negative magnitude))
      = signed negative (shortest .even magnitude).moderate := by
    rw [chars, jsonText?]
    dsimp only
    rw [String.toList_ofList]
  -- None of the constants is a number.
  have hconstant : ∀ {word : List Char}, NumberToken.ofChars? word = none →
      signed negative (shortest .even magnitude).moderate ≠ word := by
    rintro word hnone rfl
    rw [htoken] at hnone
    cases hnone
  rw [hchars, Token.ofWord?, if_neg (hconstant rfl), if_neg (hconstant rfl), if_neg (hconstant rfl),
    htoken, Option.map_some, hvalue]

end Json

end RecordFilter
