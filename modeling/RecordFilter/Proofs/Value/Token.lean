import Mathlib.Data.List.DropRight
import RecordFilter.Proofs.Calendar.Written
import RecordFilter.Proofs.Double.Literal
import RecordFilter.Proofs.Grammar.Scan
import RecordFilter.Value.Token

namespace RecordFilter

open Text

/-!
# Value tokens read back

* `Culture.ReadsMoment` — a culture reads a date-time back from the form that filter texts write.
* `Culture.ReadsNumbers` — the decimal separator is no part of a written integer.
* `Value.ofToken_chars` — a token reads back as its value.
* `Value.passes_chars` — a token keeps its delimiters inside literals, whatever text it stands for.
-/

/-! ### Strings -/

namespace Value

/-- A text with its quotes written twice. -/
def doubled (text : List Char) : List Char :=
  text.flatMap fun c => if c = '\'' then ['\'', '\''] else [c]

@[simp] theorem doubled_quote (rest : List Char) :
    doubled ('\'' :: rest) = '\'' :: '\'' :: doubled rest := rfl

/-- Unfolding lemma: what is no quote is written once. -/
theorem doubled_cons {c : Char} (h : c ≠ '\'') (rest : List Char) :
    doubled (c :: rest) = c :: doubled rest := by
  rw [doubled, List.flatMap_cons, if_neg h]
  rfl

/-- Quotes written twice are read once. -/
theorem unquote_doubled (text : List Char) : unquote (doubled text) = text := by
  induction text with
  | nil => rfl
  | cons c rest ih =>
    by_cases h : c = '\''
    · subst h
      rw [doubled_quote, unquote, ih]
    -- Only a quote is read together with the character behind it.
    · rw [doubled_cons h, unquote, ih]
      exact fun _ hc _ => h hc

/-- A string literal reads back. -/
theorem stringBody?_doubled (text : List Char) :
    stringBody? (doubled text ++ ['\'']) = some (String.ofList text) := by
  rw [stringBody?, List.getLast?_concat, if_pos rfl, List.dropLast_concat, unquote_doubled]

/-- A string literal keeps its content inside: two quotes close the literal and open it again. -/
theorem passes_doubled (text : List Char) :
    Scan.literals.Passes .quoted (doubled text ++ ['\'']) .outside := by
  induction text with
  | nil => exact .single rfl
  | cons c rest ih =>
    by_cases h : c = '\''
    -- Between the two quotes the scan is outside of the literal, but no character stands there.
    · subst h
      exact .cons rfl (.cons rfl ih)
    · rw [doubled_cons h, List.cons_append]
      refine .cons rfl ?_
      rw [show Scan.literals.next .quoted c = .quoted from if_neg h]
      exact ih

end Value

/-! ### Dates -/

namespace DateTime

/-- A written date-time has no number sign. -/
theorem ne_hash_of_mem_text {c : Char} {moment : DateTime} (h : c ∈ moment.text ' ') : c ≠ '#' := by
  rintro rfl
  rcases mem_text h with h | h
  · exact absurd h (by decide)
  · exact absurd h (by decide)

/-- The delimiters around a written date-time are dropped, and nothing else. -/
theorem dateBody_text (moment : DateTime) :
    Value.dateBody (moment.text ' ' ++ ['#']) = moment.text ' ' := by
  obtain ⟨front, last, htext, hlast⟩ := moment.exists_text_eq_concat ' '
  have hhash : last ≠ '#' := ne_hash_of_mem_text (show last ∈ moment.text ' ' by simp [htext])
  show (moment.text ' ' ++ ['#']).rdropWhile (· == '#') = moment.text ' '
  rw [List.rdropWhile_concat_pos _ _ _ (by simp), htext,
    List.rdropWhile_concat_neg _ _ _ (by simpa using hhash)]

/-- A date literal keeps its content inside. -/
theorem passes_text (moment : DateTime) :
    Scan.literals.Passes .hashed (moment.text ' ' ++ ['#']) .outside := by
  refine Scan.Passes.append (.of_forall ?_) (.single rfl)
  intro c hc
  exact ⟨if_neg (ne_hash_of_mem_text hc), rfl⟩

end DateTime

namespace Culture

/-- The culture reads a date-time back from the form that filter texts write. -/
def ReadsMoment (culture : Culture) (moment : DateTime) : Prop :=
  culture.dateTime? (moment.text ' ') = some moment

/-- The first format of filter texts is the written form. -/
theorem ofFormat_timestamp :
    DatePattern.ofFormat "%Y-%m-%d %H:%M:%S%.f".toList = DatePattern.timestamp .blanks := by
  decide +kernel

/-- Blanks in a pattern read the space between date and time. -/
theorem readItem?_space (parts : DateParts) (number : Nat) (rest : List Char) :
    DatePattern.readItem? .blanks parts (' ' :: (DateTime.padded 2 number ++ rest))
      = some (parts, DateTime.padded 2 number ++ rest) := by
  have hspace : isBlank ' ' = true := by decide
  have htrim := DatePattern.trimStart_padded 2 number rest
  unfold trimStart at htrim
  rw [DatePattern.readItem?, trimStart, List.dropWhile_cons, if_pos hspace, htrim]

/-- **A culture whose first format is the written form reads every date-time back.** -/
theorem readsMoment_of_head? {culture : Culture}
    (h : culture.dateFormats.head? = some "%Y-%m-%d %H:%M:%S%.f") (moment : DateTime) :
    culture.ReadsMoment moment := by
  obtain ⟨nanosecond, hnanosecond, hread⟩ := DatePattern.read?_timestamp readItem?_space moment
  have hformat : dateTimeByFormat? (moment.text ' ') "%Y-%m-%d %H:%M:%S%.f" = some moment := by
    rw [dateTimeByFormat?, ofFormat_timestamp, hread, Option.bind_some,
      DatePattern.dateTime?_writtenParts hnanosecond]
    rfl
  obtain ⟨others, hformats⟩ := List.head?_eq_some_iff.1 h
  -- The text is no time stamp with an offset, so the formats of the culture are tried.
  unfold ReadsMoment dateTime?
  simp only [DateTime.trim_text, DateTime.ofRfc3339?_text (show ' ' ∈ ['T', 't', ' '] by decide)]
  rw [hformats, List.findSome?_cons, hformat]
  rfl

/-- The culture of filter texts reads every date-time back. -/
theorem readsMoment_standard (moment : DateTime) : standard.ReadsMoment moment :=
  readsMoment_of_head? rfl moment

/-- The decimal separator is no part of a written integer. -/
structure ReadsNumbers (culture : Culture) : Prop where
  not_isDigit : isDigit culture.decimalSeparator = false
  ne_minus : culture.decimalSeparator ≠ '-'

/-- A point or a comma is no part of a written integer. -/
theorem readsNumbers_of_separator {culture : Culture}
    (h : culture.decimalSeparator = '.' ∨ culture.decimalSeparator = ',') :
    culture.ReadsNumbers := by
  rcases h with h | h
  · exact ⟨by rw [h]; decide, by rw [h]; decide⟩
  · exact ⟨by rw [h]; decide, by rw [h]; decide⟩

theorem readsNumbers_standard : standard.ReadsNumbers :=
  readsNumbers_of_separator (.inl rfl)

/-- A number with a point is the same for every such culture. -/
theorem pointed_of_forall {culture : Culture} (h : culture.ReadsNumbers) {chars : List Char}
    (hc : ∀ c ∈ chars, isDigit c = true ∨ c = '-' ∨ c = '.') : culture.pointed chars = chars := by
  rw [pointed, List.map_congr_left (g := id), List.map_id]
  intro c hmem
  -- Only the separator is replaced, and among these characters it can be the point only.
  by_cases heq : c = culture.decimalSeparator
  · rw [if_pos heq]
    rcases hc c hmem with hdigit | rfl | rfl
    · rw [heq, h.not_isDigit] at hdigit
      exact absurd hdigit (by decide)
    · exact absurd heq.symm h.ne_minus
    · rfl
  · rw [if_neg heq]
    rfl

end Culture

/-! ### Numbers -/

namespace Value

/-- A text that may be a number is no word. -/
theorem word?_of_looksNumeric {chars : List Char} (h : looksNumeric chars = true) :
    word? chars = none := by
  unfold word?
  repeat' split
  all_goals first | rfl | simp_all [looksNumeric, readSign, isDigit]

/-- What reads as a number is the value of its token. -/
theorem ofToken_of_number? {culture : Culture} {chars : List Char} {value : Value}
    (h : looksNumeric chars = true) (hn : number? culture chars = some value) (position : Nat) :
    ofToken culture ⟨position, chars⟩ = .ok value := by
  unfold ofToken
  split
  · next heq =>
    rw [show chars = _ from heq] at h
    exact absurd h (by simp [looksNumeric, readSign, isDigit])
  · next heq =>
    rw [show chars = _ from heq] at h
    exact absurd h (by simp [looksNumeric, readSign, isDigit])
  · rw [word?_of_looksNumeric h, if_pos h, hn]
    rfl

/-- Digits after an optional sign may be a number. -/
theorem looksNumeric_of_readSign {chars digits : List Char} {negative : Bool} {c : Char}
    (h : readSign chars = (negative, c :: digits)) (hc : isDigit c = true) :
    looksNumeric chars = true := by
  simp [looksNumeric, h, hc]

/-- A written integer may be a number. -/
theorem looksNumeric_intChars (number : Int) : looksNumeric (intChars number) = true := by
  cases hdigits : natChars number.natAbs with
  | nil => exact absurd hdigits (natChars_ne_nil _)
  | cons c digits =>
    have hc : isDigit c = true := isDigit_of_mem_natChars (hdigits ▸ List.mem_cons_self)
    unfold intChars
    rw [hdigits]
    split
    · exact looksNumeric_of_readSign rfl hc
    · exact looksNumeric_of_readSign (readSign_of_isDigit hc) hc

/-- A 64-bit integer is the value of its number. -/
theorem ofInt?_toInt (number : Int64) : ofInt? number.toInt = some (.int number) := by
  rw [ofInt?, if_pos ⟨number.minValue_le_toInt, number.toInt_le⟩, Int64.ofInt_toInt]

/-- A 64-bit integer is the value of its number also where numbers may be beyond 64 bits. -/
theorem ofNumber_toInt (number : Int64) : ofNumber number.toInt = .int number := by
  rw [ofNumber, ofInt?_toInt]
  rfl

/-- A written 64-bit integer reads as an integer. -/
theorem number?_intChars {culture : Culture} (h : culture.ReadsNumbers) (number : Int64) :
    number? culture (intChars number.toInt) = some (.int number) := by
  have hpointed : culture.pointed (intChars number.toInt) = intChars number.toInt :=
    culture.pointed_of_forall h fun c hc => (mem_intChars hc).imp_right Or.inl
  have hseparator : culture.hasSeparator (intChars number.toInt) = false := by
    simp only [Culture.hasSeparator, Bool.or_eq_false_iff, List.contains_eq_mem,
      decide_eq_false_iff_not]
    constructor
    · intro hmem
      rcases mem_intChars hmem with hdigit | hminus
      · rw [h.not_isDigit] at hdigit
        exact absurd hdigit (by decide)
      · exact h.ne_minus hminus
    · intro hmem
      rcases mem_intChars hmem with hdigit | hminus
      · exact absurd hdigit (by decide)
      · exact absurd hminus (by decide)
  unfold number?
  simp only [hpointed, hseparator, Bool.false_eq_true, if_false, readInt?_intChars,
    Option.bind_some, ofInt?_toInt]
  rfl

/-- The literal of a finite double is an optional minus sign and digits around a point. -/
theorem literalText_finite (negative : Bool) (magnitude : Fin Double.bound) :
    ∃ c whole fraction, (Double.finite negative magnitude).literalText.toList
        = Double.signed negative (c :: whole ++ '.' :: fraction)
      ∧ ∀ d ∈ c :: whole ++ fraction, isDigit d = true := by
  obtain ⟨whole, fraction, heq, hne, hd, _⟩ := (Double.shortest .up magnitude).exists_pointed_eq
  cases whole with
  | nil => exact absurd rfl hne
  | cons c whole =>
    refine ⟨c, whole, fraction, ?_, hd⟩
    rw [Double.literalText, String.toList_ofList, heq]

/-- The characters of a finite double's literal. -/
theorem mem_literalText_finite {c : Char} {negative : Bool} {magnitude : Fin Double.bound}
    (h : c ∈ (Double.finite negative magnitude).literalText.toList) :
    isDigit c = true ∨ c = '-' ∨ c = '.' := by
  obtain ⟨first, whole, fraction, heq, hd⟩ := literalText_finite negative magnitude
  rw [heq] at h
  have hunsigned : c ∈ first :: whole ++ '.' :: fraction → isDigit c = true ∨ c = '.' := by
    intro hmem
    rcases List.mem_append.1 hmem with hmem | hmem
    · exact Or.inl (hd c (List.mem_append_left _ hmem))
    · rcases List.mem_cons.1 hmem with rfl | hmem
      · exact Or.inr rfl
      · exact Or.inl (hd c (List.mem_append_right _ hmem))
  cases negative with
  | false => exact (hunsigned h).imp_right Or.inr
  | true =>
    rcases List.mem_cons.1 h with rfl | h
    · exact Or.inr (Or.inl rfl)
    · exact (hunsigned h).imp_right Or.inr

/-- The literal of a finite double reads as the double: it has a point, so it is no integer. -/
theorem number?_literalText {culture : Culture} (h : culture.ReadsNumbers) (negative : Bool)
    (magnitude : Fin Double.bound) :
    number? culture (Double.finite negative magnitude).literalText.toList
      = some (.float (.finite negative magnitude)) := by
  have hpointed := culture.pointed_of_forall h
    fun c (hc : c ∈ (Double.finite negative magnitude).literalText.toList) =>
      mem_literalText_finite hc
  have hseparator :
      culture.hasSeparator (Double.finite negative magnitude).literalText.toList = true := by
    obtain ⟨c, whole, fraction, heq, _⟩ := literalText_finite negative magnitude
    rw [Culture.hasSeparator, heq, Bool.or_eq_true]
    cases negative <;> simp [Double.signed]
  unfold number?
  simp only [hpointed, hseparator, if_true, String.ofList_toList, Double.ofText?_literalText,
    Option.map_some]
  rfl

/-- The literal of a finite double may be a number. -/
theorem looksNumeric_literalText (negative : Bool) (magnitude : Fin Double.bound) :
    looksNumeric (Double.finite negative magnitude).literalText.toList = true := by
  obtain ⟨c, whole, fraction, heq, hd⟩ := literalText_finite negative magnitude
  have hc : isDigit c = true := hd c (by simp)
  rw [heq]
  cases negative with
  | false => exact looksNumeric_of_readSign (readSign_of_isDigit hc) hc
  | true => exact looksNumeric_of_readSign rfl hc

/-! ### Tokens of values -/

/-- A culture that reads the date-time of the value, if it is one, reads the token of the value. -/
theorem ofToken_chars {culture : Culture} (h : culture.ReadsNumbers) {value : Value}
    (hmoment : ∀ moment, value = .dateTime moment → culture.ReadsMoment moment) (position : Nat) :
    ofToken culture ⟨position, value.chars⟩ = .ok value := by
  cases value with
  | null => rfl
  | bool value => cases value <;> rfl
  | int number =>
    exact ofToken_of_number? (looksNumeric_intChars _) (number?_intChars h number) position
  | float number =>
    cases number with
    | nan => rfl
    | infinity negative => cases negative <;> rfl
    | finite negative magnitude =>
      exact ofToken_of_number? (looksNumeric_literalText negative magnitude)
        (number?_literalText h negative magnitude) position
  | dateTime moment =>
    have hread : culture.dateTime? (moment.text ' ') = some moment := hmoment moment rfl
    simp only [ofToken, chars, moment.dateBody_text, hread]
  | string text =>
    have hread := stringBody?_doubled text.toList
    unfold doubled at hread
    simp only [ofToken, chars, quotedChars, hread, String.ofList_toList]

/-- **Every value reads back from its token** in the culture of filter texts. -/
theorem ofToken_chars_standard (value : Value) (position : Nat) :
    ofToken .standard ⟨position, value.chars⟩ = .ok value :=
  ofToken_chars Culture.readsNumbers_standard
    (fun moment _ => Culture.readsMoment_standard moment) position

/-- Plain characters are outside of literals and structure nothing. -/
theorem passes_of_isPlain {text : List Char} (h : ∀ c ∈ text, isPlain c = true) :
    Scan.literals.Passes .outside text .outside := by
  refine .of_forall fun c hc => ?_
  have hplain := h c hc
  have hquote := ne_of_test hplain (show isPlain '\'' = false by decide)
  have hhash := ne_of_test hplain (show isPlain '#' = false by decide)
  have hstructuring : ∀ d ∈ Scan.structuring, isPlain d = false := by decide
  constructor
  · simp [Scan.literals, LiteralState.after, hquote, hhash]
  · simp only [Scan.literals, beq_self_eq_true, Bool.true_and, List.contains_eq_mem,
      decide_eq_false_iff_not]
    intro hmem
    rw [hstructuring c hmem] at hplain
    exact absurd hplain (by decide)

/-- A token consists of plain characters, or it is a literal between two delimiters. -/
theorem plain_or_literal (value : Value) :
    (∀ c ∈ value.chars, isPlain c = true)
      ∨ ∃ delimiter body, isBlank delimiter = false
          ∧ value.chars = delimiter :: (body ++ [delimiter])
          ∧ Scan.literals.Passes .outside value.chars .outside := by
  have hmark : ∀ c ∈ ['-', '.'], isPlain c = true := by decide +kernel
  cases value with
  | null => exact Or.inl (by decide)
  | bool value => exact Or.inl (by cases value <;> decide)
  | int number =>
    refine Or.inl fun c hc => ?_
    rcases mem_intChars hc with hdigit | rfl
    · exact isPlain_of_isDigit hdigit
    · exact hmark _ (by simp)
  | float number =>
    cases number with
    | nan => exact Or.inl (by decide)
    | infinity negative => exact Or.inl (by cases negative <;> decide)
    | finite negative magnitude =>
      refine Or.inl fun c hc => ?_
      rcases mem_literalText_finite hc with hdigit | rfl | rfl
      · exact isPlain_of_isDigit hdigit
      · exact hmark _ (by simp)
      · exact hmark _ (by simp)
  | dateTime moment =>
    exact Or.inr ⟨'#', moment.text ' ', by decide, rfl, .cons rfl moment.passes_text⟩
  | string text =>
    exact Or.inr ⟨'\'', doubled text.toList, by decide, rfl, .cons rfl (passes_doubled text.toList)⟩

/-- **The token of a value keeps its delimiters inside literals**, whatever text or number the value
    is. -/
theorem passes_chars (value : Value) : Scan.literals.Passes .outside value.chars .outside := by
  rcases value.plain_or_literal with hplain | ⟨_, _, _, _, hpass⟩
  · exact passes_of_isPlain hplain
  · exact hpass

/-- No token is empty. -/
theorem chars_ne_nil (value : Value) : value.chars ≠ [] := by
  intro hnil
  -- An empty token reads as no value.
  have hread := ofToken_chars_standard value 0
  rw [hnil] at hread
  cases hread

/-- A token begins with a character that is no blank. -/
theorem exists_chars_eq_cons (value : Value) :
    ∃ first rest, value.chars = first :: rest ∧ isBlank first = false := by
  obtain ⟨first, rest, heq⟩ := List.exists_cons_of_ne_nil value.chars_ne_nil
  rcases value.plain_or_literal with hplain | ⟨delimiter, body, hblank, hchars, _⟩
  · exact ⟨first, rest, heq, not_isBlank_of_isPlain (hplain first (by simp [heq]))⟩
  · exact ⟨delimiter, _, hchars, hblank⟩

/-- A token ends with a character that is no blank. -/
theorem exists_chars_eq_concat (value : Value) :
    ∃ front last, value.chars = front ++ [last] ∧ isBlank last = false := by
  obtain ⟨front, last, heq⟩ := (List.eq_nil_or_concat value.chars).resolve_left value.chars_ne_nil
  rw [List.concat_eq_append] at heq
  rcases value.plain_or_literal with hplain | ⟨delimiter, body, hblank, hchars, _⟩
  · exact ⟨front, last, heq, not_isBlank_of_isPlain (hplain last (by simp [heq]))⟩
  · exact ⟨delimiter :: body, delimiter, hchars, hblank⟩

end Value

end RecordFilter
