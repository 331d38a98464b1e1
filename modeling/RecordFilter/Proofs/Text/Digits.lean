import Mathlib.Data.List.TakeDrop
import RecordFilter.Calendar.DateTime
import RecordFilter.Text.Digits

namespace RecordFilter.Text

/-!
# Written numbers read back

* `digitsValue_natChars`, `readInt?_intChars` — the digits of a number stand for the number.
* `eq_nil_of_natChars` — written numbers have no zeros in front.
* `takeWhile_isDigit_append`, `dropWhile_isDigit_append` — a run of digits ends at the first
  character that is none.
* `digitsValue_padded`, `length_padded` — a number with zeros in front.
-/

/-! ### Digits -/

/-- Characters that a test tells apart are different. -/
theorem ne_of_test {p : Char → Bool} {c d : Char} (h : p c = true) (hd : p d = false) : c ≠ d := by
  rintro rfl
  rw [h] at hd
  cases hd

/-- A digit is one of the digits of the character library. -/
theorem isDigit_eq_charIsDigit (c : Char) : isDigit c = c.isDigit := by
  simp only [isDigit, Char.isDigit, ge_iff_le, Char.le_def]

/-- The code points of the digits. -/
theorem toNat_of_isDigit {c : Char} (h : isDigit c = true) : 48 ≤ c.toNat ∧ c.toNat ≤ 57 := by
  simp only [isDigit, Bool.and_eq_true, decide_eq_true_eq, Char.le_def, UInt32.le_iff_toNat_le] at h
  exact h

/-- Unfolding lemma: the value of digits in terms of the library's fold. -/
theorem digitsValue_eq_ofDigitChars (digits : List Char) :
    digitsValue digits = Nat.ofDigitChars 10 digits 0 := by
  rw [Nat.ofDigitChars_eq_foldl]
  rfl

/-- A written number consists of digits. -/
theorem isDigit_of_mem_natChars {c : Char} {number : Nat} (h : c ∈ natChars number) :
    isDigit c = true := by
  rw [isDigit_eq_charIsDigit]
  exact Nat.isDigit_of_mem_toDigits (by decide) (by decide) h

/-- A written integer consists of digits and perhaps a minus sign. -/
theorem mem_intChars {c : Char} {number : Int} (h : c ∈ intChars number) :
    isDigit c = true ∨ c = '-' := by
  unfold intChars at h
  split at h
  · rcases List.mem_cons.1 h with rfl | h
    · exact Or.inr rfl
    · exact Or.inl (isDigit_of_mem_natChars h)
  · exact Or.inl (isDigit_of_mem_natChars h)

/-- The digits of a number stand for the number. -/
@[simp] theorem digitsValue_natChars (number : Nat) : digitsValue (natChars number) = number := by
  rw [digitsValue_eq_ofDigitChars, natChars, Nat.ofDigitChars_ten_toDigits]

/-- A written number is not empty. -/
@[simp] theorem natChars_ne_nil (number : Nat) : natChars number ≠ [] :=
  Nat.toDigits_ne_nil

/-- The first digit of a written number is no zero, unless it is the only one. -/
theorem eq_nil_of_natChars {number : Nat} {rest : List Char} (h : natChars number = '0' :: rest) :
    rest = [] := by
  induction number using Nat.strongRecOn generalizing rest with
  | ind number ih =>
    by_cases hsmall : number < 10
    · rw [natChars, Nat.toDigits_of_lt_base hsmall] at h
      exact (List.cons.inj h).2.symm
    · have hsplit : natChars number = natChars (number / 10) ++ [(number % 10).digitChar] :=
        Nat.toDigits_of_base_le (by decide) (by omega)
      cases hlead : natChars (number / 10) with
      | nil => exact absurd hlead (natChars_ne_nil _)
      | cons c lead =>
        rw [hsplit, hlead] at h
        obtain ⟨rfl, -⟩ := List.cons.inj h
        -- The leading digits would be those of zero.
        obtain rfl := ih _ (by omega) hlead
        have hzero := digitsValue_natChars (number / 10)
        rw [hlead] at hzero
        have : number / 10 = 0 := hzero.symm
        omega

/-- Unfolding lemma: the value of digits that follow other ones. -/
theorem digitsValue_append (digits more : List Char) :
    digitsValue (digits ++ more)
      = digitsValue digits * Nat.pow 10 more.length + digitsValue more := by
  simp only [digitsValue_eq_ofDigitChars, Nat.ofDigitChars_append]
  rw [Nat.ofDigitChars_eq_ofDigitChars_zero, Nat.mul_comm]
  rfl

/-- Zeros stand for zero. -/
@[simp] theorem digitsValue_replicate_zero (count : Nat) :
    digitsValue (List.replicate count '0') = 0 := by
  rw [digitsValue_eq_ofDigitChars, Nat.ofDigitChars_replicate_zero, Nat.mul_zero]

/-- Zeros in front do not count. -/
@[simp] theorem digitsValue_replicate_zero_append (count : Nat) (digits : List Char) :
    digitsValue (List.replicate count '0' ++ digits) = digitsValue digits := by
  rw [digitsValue_append, digitsValue_replicate_zero, Nat.zero_mul, Nat.zero_add]

/-! ### Runs of digits -/

/-- A text that no digit begins. -/
def NoDigitAhead (text : List Char) : Prop :=
  ∀ c ∈ text.head?, isDigit c = false

@[simp] theorem noDigitAhead_nil : NoDigitAhead [] := by
  simp [NoDigitAhead]

@[simp] theorem noDigitAhead_cons (c : Char) (rest : List Char) :
    NoDigitAhead (c :: rest) ↔ isDigit c = false := by
  simp [NoDigitAhead]

instance : (text : List Char) → Decidable (NoDigitAhead text)
  | [] => isTrue noDigitAhead_nil
  | c :: rest => decidable_of_iff _ (noDigitAhead_cons c rest).symm

/-- A run of digits ends at the first character that is none. -/
theorem takeWhile_isDigit_append {digits rest : List Char} (hd : ∀ c ∈ digits, isDigit c = true)
    (hr : NoDigitAhead rest) : (digits ++ rest).takeWhile isDigit = digits := by
  rw [List.takeWhile_append_of_pos hd]
  cases rest with
  | nil => simp
  | cons c rest => simp_all

/-- What follows a run of digits is what begins with the first character that is none. -/
theorem dropWhile_isDigit_append {digits rest : List Char} (hd : ∀ c ∈ digits, isDigit c = true)
    (hr : NoDigitAhead rest) : (digits ++ rest).dropWhile isDigit = rest := by
  rw [List.dropWhile_append_of_pos hd]
  cases rest with
  | nil => simp
  | cons c rest => simp_all

/-- A text is cut behind its run of digits. -/
theorem span_isDigit_append {digits rest : List Char} (hd : ∀ c ∈ digits, isDigit c = true)
    (hr : NoDigitAhead rest) : (digits ++ rest).span isDigit = (digits, rest) := by
  rw [List.span_eq_takeWhile_dropWhile, takeWhile_isDigit_append hd hr,
    dropWhile_isDigit_append hd hr]

/-! ### Integers -/

/-- A text that begins with a digit has no sign. -/
theorem readSign_of_isDigit {c : Char} {rest : List Char} (h : isDigit c = true) :
    readSign (c :: rest) = (false, c :: rest) := by
  have hminus := ne_of_test h (show isDigit '-' = false by decide)
  have hplus := ne_of_test h (show isDigit '+' = false by decide)
  rw [readSign]
  · simpa using hminus
  · simpa using hplus

/-- A written natural number has no sign. -/
theorem readSign_natChars_append (number : Nat) (rest : List Char) :
    readSign (natChars number ++ rest) = (false, natChars number ++ rest) := by
  cases h : natChars number with
  | nil => exact absurd h (natChars_ne_nil number)
  | cons c digits => exact readSign_of_isDigit (isDigit_of_mem_natChars (h ▸ List.mem_cons_self))

/-- An optional sign and a run of digits read as an integer. -/
theorem readInt?_of_readSign {text digits : List Char} {negative : Bool}
    (hsign : readSign text = (negative, digits)) (hne : digits ≠ [])
    (hd : ∀ c ∈ digits, isDigit c = true) :
    readInt? text
      = some (if negative then -(digitsValue digits : Int) else digitsValue digits) := by
  have hguard : (digits.isEmpty || !digits.all isDigit) = false := by
    rw [List.all_eq_true.2 hd, Bool.not_true, Bool.or_false, List.isEmpty_eq_false_iff]
    exact hne
  unfold readInt?
  rw [hsign]
  simp only [hguard, Bool.false_eq_true, if_false]

/-- A written integer reads back. -/
@[simp] theorem readInt?_intChars (number : Int) : readInt? (intChars number) = some number := by
  have hdigits : ∀ c ∈ natChars number.natAbs, isDigit c = true :=
    fun c hc => isDigit_of_mem_natChars hc
  unfold intChars
  by_cases hneg : number < 0
  -- Only negative numbers are written with a sign.
  · have hsign : readSign ('-' :: natChars number.natAbs) = (true, natChars number.natAbs) := rfl
    rw [if_pos hneg, readInt?_of_readSign hsign (natChars_ne_nil _) hdigits,
      digitsValue_natChars, if_pos rfl]
    congr 1
    omega
  · have hsign := readSign_natChars_append number.natAbs []
    rw [List.append_nil] at hsign
    rw [if_neg hneg, readInt?_of_readSign hsign (natChars_ne_nil _) hdigits,
      digitsValue_natChars, if_neg (by simp)]
    congr 1
    omega

end RecordFilter.Text

namespace RecordFilter.DateTime

open Text

/-! ### Numbers of a fixed width -/

/-- A number with zeros in front consists of digits. -/
theorem isDigit_of_mem_padded {c : Char} {width number : Nat} (h : c ∈ padded width number) :
    isDigit c = true := by
  simp only [padded, List.mem_append, List.mem_replicate] at h
  rcases h with ⟨_, rfl⟩ | h
  · decide
  · exact isDigit_of_mem_natChars h

/-- Zeros in front do not change a number. -/
@[simp] theorem digitsValue_padded (width number : Nat) :
    digitsValue (padded width number) = number := by
  rw [padded, digitsValue_replicate_zero_append, digitsValue_natChars]

/-- A number that fits into a width takes up exactly the width. -/
theorem length_padded {width number : Nat} (hw : 0 < width) (h : number < Nat.pow 10 width) :
    (padded width number).length = width := by
  have hle : (natChars number).length ≤ width :=
    (Nat.length_toDigits_le_iff (by decide) hw).2 h
  -- The digits fit, so the zeros fill up the rest of the width.
  simp only [padded, List.length_append, List.length_replicate]
  omega

/-- A number with zeros in front is not empty. -/
@[simp] theorem padded_ne_nil (width number : Nat) : padded width number ≠ [] := by
  simp [padded]

end RecordFilter.DateTime
