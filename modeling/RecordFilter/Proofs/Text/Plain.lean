import RecordFilter.Proofs.Text.Digits
import RecordFilter.PropertyName

namespace RecordFilter

open Text

/-!
# Characters that do not structure a filter text

* `isPlain` — neither a blank nor a delimiter of the filter language.
* `isPlain_of_isWord`, `isPlain_of_isNameChar`, `isPlain_of_isDigit` — names and numbers consist
  of such characters.
* `checkPropertyName_eq_ok` — hence the names that are accepted are the property names.
-/

namespace Text

/-- What holds of all characters of a text is decided along the text. There are finitely many
    characters, so running through all of them would do as well, but takes far longer. -/
instance (priority := high) decidableForallMem {p : Char → Prop} [DecidablePred p]
    (text : List Char) : Decidable (∀ c ∈ text, p c) :=
  List.decidableBAll p text

/-! ### Members of a character class -/

/-- The code points of a class one by one. -/
def CodeSet.codes (set : CodeSet) : List Nat :=
  set.flatMap fun (low, high) => List.range' low (high + 1 - low)

/-- A member of a class is one of its code points. -/
theorem CodeSet.mem_codes_of_containsCode {set : CodeSet} {code : Nat}
    (h : set.containsCode code = true) : code ∈ set.codes := by
  induction set with
  | nil => exact absurd h (by simp [CodeSet.containsCode])
  | cons range rest ih =>
    obtain ⟨low, high⟩ := range
    simp only [CodeSet.codes, List.flatMap_cons, List.mem_append, List.mem_range'_1]
    simp only [CodeSet.containsCode] at h
    -- The code point is in the first range, or else in one of the others.
    split at h
    · exact absurd h (by simp)
    · split at h
      · exact Or.inl (by omega)
      · exact Or.inr (ih h)

/-- No word character is a blank: the table of blanks is run through point by point. -/
theorem not_isBlank_of_isWord {c : Char} (h : isWord c = true) : isBlank c = false := by
  have hdisjoint : blanks.codes.all (fun code => !wordCharacters.containsCode code) = true := by
    decide +kernel
  rw [Bool.eq_false_iff]
  intro hblank
  have hmem := CodeSet.mem_codes_of_containsCode hblank
  have hword := List.all_eq_true.1 hdisjoint _ hmem
  rw [show wordCharacters.containsCode c.toNat = true from h] at hword
  exact absurd hword (by decide)

/-- No blank is a word character. -/
theorem not_isWord_of_isBlank {c : Char} (h : isBlank c = true) : isWord c = false := by
  rw [Bool.eq_false_iff]
  intro hword
  rw [not_isBlank_of_isWord hword] at h
  exact absurd h (by decide)

/-- A digit is a word character. -/
theorem isWord_of_isDigit {c : Char} (h : isDigit c = true) : isWord c = true := by
  obtain ⟨hlow, hhigh⟩ := toNat_of_isDigit h
  unfold isWord CodeSet.contains wordCharacters
  rw [CodeSet.containsCode, if_neg (by omega), if_pos (by omega)]

end Text

/-! ### Plain characters -/

/-- The characters that open, close or separate parts of a filter text. -/
def delimiters : List Char :=
  ['\'', '#', '[', ']', '(', ')', ',']

/-- A character that is neither a blank nor a delimiter. -/
def isPlain (c : Char) : Bool :=
  !isBlank c && !delimiters.contains c

/-- A plain character is no blank. -/
theorem not_isBlank_of_isPlain {c : Char} (h : isPlain c = true) : isBlank c = false := by
  simp only [isPlain, Bool.and_eq_true, Bool.not_eq_true'] at h
  exact h.1

/-- Word characters are plain. -/
theorem isPlain_of_isWord {c : Char} (h : isWord c = true) : isPlain c = true := by
  have hdelimiters : delimiters.all (fun d => !isWord d) = true := by decide +kernel
  simp only [isPlain, not_isBlank_of_isWord h, Bool.not_false, Bool.true_and, Bool.not_eq_true']
  rw [Bool.eq_false_iff]
  intro hmem
  have hword := List.all_eq_true.1 hdelimiters c (List.contains_iff_mem.1 hmem)
  rw [h] at hword
  exact absurd hword (by decide)

/-- Digits are plain. -/
theorem isPlain_of_isDigit {c : Char} (h : isDigit c = true) : isPlain c = true :=
  isPlain_of_isWord (isWord_of_isDigit h)

/-- The characters of property names are plain. -/
theorem isPlain_of_isNameChar {c : Char} (h : isNameChar c = true) : isPlain c = true := by
  simp only [isNameChar, Bool.or_eq_true, beq_iff_eq] at h
  rcases h with h | rfl
  · exact isPlain_of_isWord h
  · decide +kernel

/-! ### Property names -/

/-- A text with a character that is no blank is not blank. -/
theorem allBlank_eq_false {text : List Char} {c : Char} (hc : c ∈ text) (h : isBlank c = false) :
    allBlank text = false := by
  rw [allBlank, List.all_eq_false]
  exact ⟨c, hc, by simp [h]⟩

/-- Property names are accepted, and nothing else is. -/
theorem checkPropertyName_eq_ok {name : String} :
    checkPropertyName name = .ok () ↔ IsPropertyName name := by
  unfold checkPropertyName
  constructor
  · intro h
    split at h
    · cases h
    · split at h
      case isTrue hname => exact hname
      case isFalse => cases h
  · intro h
    -- The test for blanks comes first, but a property name does not begin with one.
    obtain ⟨c, hc⟩ := List.exists_mem_of_ne_nil _ h.1
    have hblank : allBlank name.toList = false :=
      allBlank_eq_false hc (not_isBlank_of_isPlain (isPlain_of_isNameChar (h.2 c hc)))
    rw [hblank, if_neg (by decide), if_pos h]

end RecordFilter
