import RecordFilter.Condition.Evaluate
import RecordFilter.Proofs.Calendar.Written
import RecordFilter.Proofs.Text.Pieces

namespace RecordFilter

open Text

/-!
# What text tests find

* `Text.occursIn_iff_infix` — a text stands in another one if it is a stretch of it.
* `TextFunction.mem_of_holds` — a text in which another one is found has all its characters.
* `Culture.mem_dateParts` — the parts of a date, in whatever order.
* `Culture.mem_shortDate`, `Culture.mem_shortFragment` — the characters of a short date, and those
  that a typed part of one keeps.
* `Culture.holds_shortDate_eq_false`, `Condition.evaluate_text_shortDate` — so a text with a colon, such
  as a written date-time, is found in no short date.
-/

/-- A text stands inside another one if it is a stretch of it. -/
theorem Text.occursIn_iff_infix {needle text : List Char} :
    occursIn needle text = true ↔ needle <:+: text := by
  induction text with
  | nil => rw [occursIn, List.isEmpty_iff, List.infix_nil]
  | cons c rest ih =>
    rw [occursIn, Bool.or_eq_true, List.isPrefixOf_iff_prefix, ih, List.infix_cons_iff]

/-- A text in which another one is found has all its characters. -/
theorem TextFunction.mem_of_holds {function : TextFunction} {content needle : String} {c : Char}
    (h : function.holds content needle = true) (hc : c ∈ needle.toList) : c ∈ content.toList := by
  have hinfix : needle.toList <:+: content.toList := by
    cases function with
    | startsWith => exact (List.isPrefixOf_iff_prefix.1 h).isInfix
    | endsWith => exact (List.isSuffixOf_iff_suffix.1 h).isInfix
    | contains => exact occursIn_iff_infix.1 h
  exact hinfix.subset hc

namespace Culture

/-! ### Short dates -/

/-- The parts of a date are its day, its month and its year, in any order. -/
theorem mem_dateParts {culture : Culture} {date : Date} {part : List Char} :
    part ∈ culture.dateParts date
      ↔ part = natChars date.day ∨ part = natChars date.month ∨ part = intChars date.year := by
  unfold dateParts
  cases culture.dateOrder with
  | dayMonthYear => simp
  | monthDayYear => simp [or_left_comm]
  | yearMonthDay => simp [or_comm, or_assoc]

/-- A short date consists of digits, minus signs and separators. -/
theorem mem_shortDate {culture : Culture} {date : Date} {c : Char}
    (h : c ∈ (culture.shortDate date).toList) :
    isDigit c = true ∨ c = '-' ∨ c = culture.dateSeparator := by
  rw [shortDate, String.toList_ofList, mem_intercalate, List.mem_singleton] at h
  rcases h with ⟨rfl, _⟩ | ⟨part, hpart, hc⟩
  · exact Or.inr (Or.inr rfl)
  · rcases mem_dateParts.1 hpart with rfl | rfl | rfl
    · exact Or.inl (isDigit_of_mem_natChars hc)
    · exact Or.inl (isDigit_of_mem_natChars hc)
    · exact (mem_intChars hc).imp_right Or.inl

/-- Without its leading zeros a number keeps its other characters. -/
theorem mem_withoutZeros {digits : List Char} {c : Char} (h : c ∈ digits) (hzero : c ≠ '0') :
    c ∈ withoutZeros digits := by
  have hkept : c ∈ digits.dropWhile (· == '0') := by
    rw [← List.takeWhile_append_dropWhile (p := (· == '0')) (l := digits), List.mem_append] at h
    refine h.resolve_left fun hdropped => hzero ?_
    exact beq_iff_eq.1 (List.mem_takeWhile_imp (p := (· == '0')) hdropped)
  unfold withoutZeros
  split
  case h_1 hnil => exact absurd (hnil ▸ hkept) List.not_mem_nil
  case h_2 => exact hkept

/-- A typed part of a short date keeps its characters, zeros and separators apart. -/
theorem mem_shortFragment {culture : Culture} {fragment : String} {c : Char}
    (h : c ∈ fragment.toList) (hzero : c ≠ '0') (hseparator : c ≠ culture.dateSeparator) :
    c ∈ (culture.shortFragment fragment).toList := by
  obtain ⟨piece, hpiece, hc⟩ := exists_mem_splitOn h hseparator
  rw [shortFragment, String.toList_ofList, mem_intercalate]
  exact Or.inr ⟨_, List.mem_map_of_mem hpiece, mem_withoutZeros hc hzero⟩

/-- **A text with a colon is found in no short date**, unless colons separate the parts of dates. -/
theorem holds_shortDate_eq_false {culture : Culture} (hculture : culture.dateSeparator ≠ ':')
    (function : TextFunction) (date : Date) {needle : String} (hneedle : ':' ∈ needle.toList) :
    function.holds (culture.shortDate date) (culture.shortFragment needle) = false := by
  rw [Bool.eq_false_iff]
  intro h
  have hcolon := mem_shortFragment hneedle (by decide) hculture.symm
  rcases mem_shortDate (TextFunction.mem_of_holds h hcolon) with h | h | h
  · exact absurd h (by decide)
  · exact absurd h (by decide)
  · exact hculture h.symm

end Culture

/-- **All texts with a colon answer alike when dates are searched for them**: they are never found.
    -/
theorem Condition.evaluate_text_shortDate {culture : Culture} (h : culture.dateSeparator ≠ ':')
    (path : MemberPath) (function : TextFunction) {needle needle' : String}
    (hneedle : ':' ∈ needle.toList) (hneedle' : ':' ∈ needle'.toList) :
    (Condition.text path function (culture.shortFragment needle) (.shortDate culture)).evaluate
      = (Condition.text path function (culture.shortFragment needle')
          (.shortDate culture)).evaluate := by
  funext record
  rw [evaluate, evaluate]
  cases readMember record path with
  | error => rfl
  | ok field =>
    show testField path function _ _ field = testField path function _ _ field
    cases field with
    | dateTime moment =>
      rw [testField, testField, Culture.holds_shortDate_eq_false h function moment.date hneedle,
        Culture.holds_shortDate_eq_false h function moment.date hneedle']
    | _ => simp only [testField]

/-- A written date-time has a colon. -/
theorem DateTime.colon_mem_text (separator : Char) (moment : DateTime) :
    ':' ∈ moment.text separator := by
  simp [text]

end RecordFilter
