import Mathlib.Data.List.DropRight
import Mathlib.Data.List.TakeWhile
import RecordFilter.Calendar.Stamp
import RecordFilter.Proofs.Calendar.Parts
import RecordFilter.Proofs.Text.Digits
import RecordFilter.Proofs.Text.Plain

namespace RecordFilter

open Text DateTime

/-!
# Written date-times read back

* `DatePattern.timestamp` — the pattern of a written date-time, whatever stands between date and
  time.
* `DatePattern.read?_timestamp`, `dateTime?_writtenParts` — a written date-time reads back by it.
* `DateTime.ofRfc3339?_text` — it is no time stamp with an offset.
* `DateTime.mem_text`, `exists_text_eq_concat`, `trim_text` — it consists of digits and a few marks,
  ends with a digit and has no blanks around it.
-/

/-- A date-time is made again from its parts. -/
theorem DateTime.ofParts?_self {moment : DateTime} {second : Nat} (h : moment.second = second) :
    ofParts? moment.date moment.hour moment.minute second moment.nanosecond = some moment := by
  subst h
  exact dif_pos moment.valid

/-- A month has 31 days at most. -/
theorem Date.daysInMonth_le (year : Int) (month : Nat) : daysInMonth year month ≤ 31 := by
  unfold daysInMonth
  split
  · split <;> decide
  all_goals decide

/-- The leap day of 2020 exists. -/
theorem Date.valid_leapDay2020 : Valid 2020 2 29 := by
  decide

/-- The leap day of 2024 exists. -/
theorem Date.valid_leapDay2024 : Valid 2024 2 29 := by
  decide

namespace DatePattern

/-! ### Numbers of a date -/

/-- Digits in a limited number read as their value. -/
theorem readDigits?_append {digits rest : List Char} (hne : digits ≠ [])
    (hd : ∀ c ∈ digits, isDigit c = true) :
    readDigits? digits.length (digits ++ rest) = some (digitsValue digits, rest) := by
  have htake : ((digits ++ rest).takeWhile isDigit).take digits.length = digits := by
    rw [List.takeWhile_append_of_pos hd, List.take_left]
  unfold readDigits?
  simp only [htake, List.isEmpty_eq_false_iff.2 hne, Bool.false_eq_true, if_false, List.drop_left]

/-- All digits up to the first character that is none read as their value. -/
theorem readDigits?_run {digits rest : List Char} {most : Nat} (hne : digits ≠ [])
    (hd : ∀ c ∈ digits, isDigit c = true) (hr : NoDigitAhead rest) (hmost : digits.length ≤ most) :
    readDigits? most (digits ++ rest) = some (digitsValue digits, rest) := by
  have htake : ((digits ++ rest).takeWhile isDigit).take most = digits := by
    rw [takeWhile_isDigit_append hd hr, List.take_of_length_le hmost]
  unfold readDigits?
  simp only [htake, List.isEmpty_eq_false_iff.2 hne, Bool.false_eq_true, if_false, List.drop_left]

/-- A year without a sign has four digits at most. -/
theorem readYear?_of_isDigit {c : Char} {rest : List Char} (h : isDigit c = true) :
    readYear? (c :: rest) = readNumber? 4 (c :: rest) := by
  have hminus := ne_of_test h (show isDigit '-' = false by decide)
  have hplus := ne_of_test h (show isDigit '+' = false by decide)
  rw [readYear?]
  · simpa using hminus
  · simpa using hplus

/-- All digits up to the first character that is none are a number. -/
theorem readNumber?_run {digits rest : List Char} {most : Nat} (hne : digits ≠ [])
    (hd : ∀ c ∈ digits, isDigit c = true) (hr : NoDigitAhead rest) (hmost : digits.length ≤ most) :
    readNumber? most (digits ++ rest) = some ((digitsValue digits : Int), rest) := by
  rw [readNumber?, readDigits?_run hne hd hr hmost, Option.map_some]

/-- A written number of as many digits as may be read is that number. -/
theorem readNumber?_padded {width number : Nat} (hwidth : 0 < width)
    (h : number < Nat.pow 10 width) (rest : List Char) :
    readNumber? width (padded width number ++ rest) = some ((number : Int), rest) := by
  have hread : readDigits? (padded width number).length (padded width number ++ rest)
      = some (digitsValue (padded width number), rest) :=
    readDigits?_append (padded_ne_nil width number) fun c hc => isDigit_of_mem_padded hc
  rw [length_padded hwidth h, digitsValue_padded] at hread
  rw [readNumber?, hread, Option.map_some]

/-- A written year reads back up to the first character that is no digit. -/
theorem readYear?_yearText (year : Int) {rest : List Char} (hr : NoDigitAhead rest) :
    readYear? (yearText year ++ rest) = some (year, rest) := by
  have hd : ∀ c ∈ padded 4 year.natAbs, isDigit c = true := fun c hc => isDigit_of_mem_padded hc
  have hrun : readNumber? (padded 4 year.natAbs ++ rest).length (padded 4 year.natAbs ++ rest)
      = some ((year.natAbs : Int), rest) := by
    rw [readNumber?_run (padded_ne_nil _ _) hd hr (by simp), digitsValue_padded]
  unfold yearText
  split
  case isTrue hneg =>
    -- Behind a sign, all digits belong to the year.
    rw [List.cons_append, readYear?, hrun]
    simp only [Option.map_some, Option.some.injEq, Prod.mk.injEq, and_true]
    omega
  case isFalse hnonneg =>
    split
    case isTrue hfour =>
      -- Without a sign only four digits do, and four are written.
      have hread : readNumber? 4 (padded 4 year.natAbs ++ rest) = some ((year.natAbs : Int), rest) :=
        readNumber?_padded (by decide) (show year.natAbs < 10000 by omega) rest
      cases h : padded 4 year.natAbs with
      | nil => exact absurd h (padded_ne_nil _ _)
      | cons c digits =>
        rw [h, List.cons_append] at hread
        rw [List.cons_append, readYear?_of_isDigit (hd c (by simp [h])), hread,
          show (year.natAbs : Int) = year by omega]
    case isFalse hlong =>
      rw [List.cons_append, readYear?, hrun, show (year.natAbs : Int) = year by omega]

/-- The fields that a date-time is written with two digits for. -/
def twoDigits : List DateField :=
  [.month, .day, .hour, .minute, .second]

/-- Two written digits read back. -/
theorem readField?_padded {field : DateField} (hfield : field ∈ twoDigits) {number : Nat}
    (h : number < 100) (rest : List Char) :
    readField? field (padded 2 number ++ rest) = some ((number : Int), rest) := by
  have hread : readNumber? 2 (padded 2 number ++ rest) = some ((number : Int), rest) :=
    readNumber?_padded (by decide) h rest
  cases field with
  | month | day | hour | minute | second => exact hread
  | _ => exact absurd hfield (by decide)

/-! ### Parts of a pattern -/

/-- A text that begins with a digit has no blanks to skip. -/
theorem trimStart_of_isDigit {c : Char} {rest : List Char} (h : isDigit c = true) :
    trimStart (c :: rest) = c :: rest := by
  rw [trimStart, List.dropWhile_cons, not_isBlank_of_isPlain (isPlain_of_isDigit h)]
  simp

/-- Zeros and digits begin with a digit. -/
theorem trimStart_padded (width number : Nat) (rest : List Char) :
    trimStart (padded width number ++ rest) = padded width number ++ rest := by
  cases h : padded width number with
  | nil => exact absurd h (padded_ne_nil _ _)
  | cons c digits => exact trimStart_of_isDigit (isDigit_of_mem_padded (h ▸ List.mem_cons_self))

/-- A written year begins with a digit or a sign. -/
theorem trimStart_yearText (year : Int) (rest : List Char) :
    trimStart (yearText year ++ rest) = yearText year ++ rest := by
  have hminus : isBlank '-' = false := by decide
  have hplus : isBlank '+' = false := by decide
  unfold yearText
  split
  · rw [List.cons_append, trimStart, List.dropWhile_cons, hminus]
    simp
  · split
    · exact trimStart_padded _ _ _
    · rw [List.cons_append, trimStart, List.dropWhile_cons, hplus]
      simp

/-- A written year is entered as the year. -/
theorem readItem?_year {parts : DateParts} (hparts : parts.year = none) (year : Int)
    {rest : List Char} (hr : NoDigitAhead rest) :
    readItem? (.number .year) parts (yearText year ++ rest)
      = some ({ parts with year := some year }, rest) := by
  simp only [readItem?, enter?, trimStart_yearText, readField?, readYear?_yearText year hr,
    DateParts.set?, hparts, DateParts.agree, Option.bind_eq_bind, Option.bind_some, Option.map_some]

/-- What is found is entered. -/
theorem enter?_some {α : Type} (value : α) (rest : List Char) (set : α → Option DateParts) :
    enter? (some (value, rest)) set = (set value).map fun parts => (parts, rest) := by
  simp only [enter?, Option.bind_eq_bind, Option.bind_some]
  cases set value <;> rfl

/-- A written number of two digits is entered into its field. -/
theorem readItem?_padded {field : DateField} (hfield : field ∈ twoDigits) {number : Nat}
    (h : number < 100) (parts : DateParts) (rest : List Char) :
    readItem? (.number field) parts (padded 2 number ++ rest)
      = (parts.set? field number).map fun parts => (parts, rest) := by
  rw [readItem?, trimStart_padded, readField?_padded hfield h, enter?_some]

/-- The digits of a fraction count by their places. -/
theorem readNanoseconds?_padded {width number : Nat} (hw : 0 < width)
    (h : number < Nat.pow 10 width) (hnine : width ≤ 9) :
    readNanoseconds? (padded width number) = some (number * Nat.pow 10 (9 - width), []) := by
  have hlength := length_padded hw h
  have hall : (padded width number).takeWhile isDigit = padded width number :=
    List.takeWhile_eq_self_iff.2 fun c hc => isDigit_of_mem_padded hc
  have htake : (padded width number).take 9 = padded width number :=
    List.take_of_length_le (by omega)
  have hdrop : (padded width number).drop width = [] := List.drop_of_length_le (by omega)
  unfold readNanoseconds?
  simp only [hall, htake, List.isEmpty_eq_false_iff.2 (padded_ne_nil _ _), Bool.false_eq_true,
    if_false, digitsValue_padded, hlength, hdrop]

/-- A written fraction of a second is entered as nanoseconds, and no fraction enters nothing. -/
theorem readItem?_fraction {nanosecond : Nat} (h : nanosecond < 1000000000) :
    ∃ entered : Option Nat, entered.getD 0 = nanosecond
      ∧ ∀ parts : DateParts, parts.nanosecond = none →
        readItem? .fraction parts (fractionText nanosecond)
          = some ({ parts with nanosecond := entered }, []) := by
  have hpoint : ∀ {digits : List Char}, readNanoseconds? digits = some (nanosecond, []) →
      ∀ parts : DateParts, parts.nanosecond = none →
        readItem? .fraction parts ('.' :: digits)
          = some ({ parts with nanosecond := some nanosecond }, []) := by
    intro digits hread parts hparts
    simp only [readItem?, hread, enter?_some, DateParts.set?, hparts,
      DateParts.within_none (Nat.zero_le nanosecond) (show nanosecond ≤ 999999999 by omega), Option.map_some]
  -- A fraction has three, six or nine digits.
  unfold fractionText
  split
  case isTrue hzero =>
    refine ⟨none, hzero.symm, fun parts hparts => ?_⟩
    rw [← hparts]
    rfl
  case isFalse hpos =>
    split
    case isTrue hmilli =>
      refine ⟨some nanosecond, rfl, hpoint ?_⟩
      rw [readNanoseconds?_padded (by decide) (show nanosecond / 1000000 < 1000 by omega)
        (by decide)]
      rw [show nanosecond / 1000000 * Nat.pow 10 (9 - 3) = nanosecond / 1000000 * 1000000 from rfl]
      congr 2
      omega
    case isFalse =>
      split
      case isTrue hmicro =>
        refine ⟨some nanosecond, rfl, hpoint ?_⟩
        rw [readNanoseconds?_padded (by decide) (show nanosecond / 1000 < 1000000 by omega)
          (by decide)]
        rw [show nanosecond / 1000 * Nat.pow 10 (9 - 6) = nanosecond / 1000 * 1000 from rfl]
        congr 2
        omega
      case isFalse =>
        refine ⟨some nanosecond, rfl, hpoint ?_⟩
        rw [readNanoseconds?_padded (by decide) (show nanosecond < 1000000000 from h) (by decide)]
        rw [show nanosecond * Nat.pow 10 (9 - 9) = nanosecond * 1 from rfl, Nat.mul_one]

/-! ### Whole date-times -/

/-- The pattern of a written date-time, whatever stands between date and time. -/
def timestamp (between : Item) : DatePattern :=
  [.number .year, .literal '-', .number .month, .literal '-', .number .day, between, .number .hour,
   .literal ':', .number .minute, .literal ':', .number .second, .fraction]

/-- A character of a pattern reads itself. -/
theorem readItem?_literal (c : Char) (parts : DateParts) (rest : List Char) :
    readItem? (.literal c) parts (c :: rest) = some (parts, rest) := by
  simp only [readItem?, readOneOf?, List.mem_singleton, if_true, Option.map_some]

/-- The parts of a written date. -/
def dateParts (date : Date) : DateParts :=
  { DateParts.empty with
    year := some date.year
    month := some date.month
    day := some date.day }

/-- The parts of a written date-time. A leap second is second 60. -/
def writtenParts (moment : DateTime) (nanosecond : Option Nat) : DateParts :=
  { dateParts moment.date with
    halfDay := some (moment.hour / 12)
    hour12 := some (moment.hour % 12)
    minute := some moment.minute
    second := some (moment.second + moment.nanosecond / 1000000000)
    nanosecond := nanosecond }

/-- A written date is read number by number, whatever pattern and text follow. -/
theorem readFrom?_date (date : Date) (items : DatePattern) (rest : List Char) :
    readFrom? (.number .year :: .literal '-' :: .number .month :: .literal '-' :: .number .day
        :: items) DateParts.empty (dateText date ++ rest)
      = readFrom? items (dateParts date) rest := by
  obtain ⟨_, _, hmonth, hmonth', hday, hday'⟩ := date.valid
  have hday31 := Nat.le_trans hday' (Date.daysInMonth_le date.year date.month)
  have hdash : ∀ rest, NoDigitAhead ('-' :: rest) := fun rest => by
    rw [noDigitAhead_cons]
    decide
  simp only [dateText, List.append_assoc, List.cons_append]
  rw [readFrom?, readItem?_year rfl date.year (hdash _)]
  -- Every number lies within the bounds of its field, and no field is entered twice.
  simp only [readFrom?, Option.bind_some, readItem?_literal,
    readItem?_padded (show .month ∈ twoDigits by decide) (show date.month < 100 by omega),
    readItem?_padded (show .day ∈ twoDigits by decide) (show date.day < 100 by omega),
    DateParts.empty, DateParts.set?, DateParts.within_none hmonth hmonth', DateParts.within_none hday hday31,
    Option.map_some]
  rfl

/-- A written date-time is read part by part, whatever stands between date and time. -/
theorem read?_timestamp {between : Item} {separator : Char}
    (hbetween : ∀ (parts : DateParts) (number : Nat) (rest : List Char),
      readItem? between parts (separator :: (padded 2 number ++ rest))
        = some (parts, padded 2 number ++ rest)) (moment : DateTime) :
    ∃ nanosecond : Option Nat, nanosecond.getD 0 = moment.nanosecond % 1000000000
      ∧ (timestamp between).read? (moment.text separator)
          = some (writtenParts moment nanosecond) := by
  obtain ⟨hhour, hminute, hsecond, hnano⟩ := moment.valid
  -- Second 60 is a leap second.
  have hleap : moment.second + moment.nanosecond / 1000000000 ≤ 60 := by omega
  have hhour23 : (0 : Int) ≤ moment.hour ∧ (moment.hour : Int) ≤ 23 := by omega
  obtain ⟨entered, hentered, hfraction⟩ :=
    readItem?_fraction (Nat.mod_lt moment.nanosecond (show 0 < 1000000000 by decide))
  refine ⟨entered, hentered, ?_⟩
  simp only [DatePattern.read?, timestamp, DateTime.text, List.append_assoc, List.cons_append,
    readFrom?_date]
  simp only [readFrom?, Option.bind_some, readItem?_literal, hbetween,
    readItem?_padded (show .hour ∈ twoDigits by decide) (show moment.hour < 100 by omega),
    readItem?_padded (show .minute ∈ twoDigits by decide) (show moment.minute < 100 by omega),
    readItem?_padded (show .second ∈ twoDigits by decide)
      (show moment.second + moment.nanosecond / 1000000000 < 100 by omega),
    dateParts, DateParts.empty, DateParts.set?, hhour23, and_self, if_true, DateParts.setHour?,
    DateParts.agree, Int.toNat_natCast, Option.bind_eq_bind,
    DateParts.within_none (Nat.zero_le moment.minute) (show moment.minute ≤ 59 by omega),
    DateParts.within_none (Nat.zero_le _) hleap, Option.map_some, hfraction]
  rfl

/-- The parts of a written date-time name its date. -/
theorem date_writtenParts (moment : DateTime) (nanosecond : Option Nat) :
    (writtenParts moment nanosecond).date = .ok moment.date := by
  refine (DateParts.date_eq_ok_iff ⟨rfl, rfl, rfl⟩).2 ⟨?_, rfl⟩
  simp [DateParts.Fits, DateParts.Admits, writtenParts, dateParts, DateParts.empty]

/-- The written parts make the date-time on its date. -/
theorem dateTimeOn?_writtenParts {moment : DateTime} {nanosecond : Option Nat}
    (h : nanosecond.getD 0 = moment.nanosecond % 1000000000) :
    (writtenParts moment nanosecond).dateTimeOn? moment.date = some moment := by
  obtain ⟨hhour, hminute, hsecond, hnano⟩ := moment.valid
  simp only [DateParts.dateTimeOn?, writtenParts, Option.bind_eq_bind, Option.bind_some, h,
    Nat.div_add_mod]
  by_cases hleap : moment.nanosecond < 1000000000
  -- The second is no leap second.
  · have hzero : moment.nanosecond / 1000000000 = 0 := Nat.div_eq_of_lt hleap
    rw [hzero, Nat.add_zero, Nat.mod_eq_of_lt hleap, if_neg (by omega)]
    exact DateTime.ofParts?_self rfl
  -- A leap second follows second 59 and is written as second 60.
  · obtain ⟨hfiftynine, hbound⟩ : moment.second = 59 ∧ moment.nanosecond < 2000000000 := by omega
    have hone : moment.nanosecond / 1000000000 = 1 := by omega
    rw [hone, hfiftynine, if_pos rfl,
      show moment.nanosecond % 1000000000 + 1000000000 = moment.nanosecond by omega]
    exact DateTime.ofParts?_self hfiftynine

/-- The written parts make the date-time again. -/
theorem dateTime?_writtenParts {moment : DateTime} {nanosecond : Option Nat}
    (h : nanosecond.getD 0 = moment.nanosecond % 1000000000) :
    (writtenParts moment nanosecond).dateTime? = some moment := by
  -- No time stamp is written that the date-time would have to fit.
  have hfits : (writtenParts moment nanosecond).FitsTimestamp moment := by
    rintro timestamp ⟨⟩
  simp only [DateParts.dateTime?, date_writtenParts, dateTimeOn?_writtenParts h, hfits, if_true]

end DatePattern

/-! ### Time stamps with an offset -/

namespace Rfc3339

open DatePattern

/-- A number of exactly so many digits reads back. -/
theorem readFixed?_padded {count number : Nat} (hcount : 0 < count) (h : number < Nat.pow 10 count)
    (rest : List Char) : readFixed? count (padded count number ++ rest) = some (number, rest) := by
  have hlength := length_padded hcount h
  have htake : (padded count number ++ rest).take count = padded count number := by
    rw [List.take_append_of_le_length (by omega), List.take_of_length_le (by omega)]
  have hdrop : (padded count number ++ rest).drop count = rest := by
    rw [List.drop_append_of_le_length (by omega), List.drop_of_length_le (by omega),
      List.nil_append]
  have hdigits : (padded count number).all isDigit = true :=
    List.all_eq_true.2 fun c hc => isDigit_of_mem_padded hc
  unfold readFixed?
  simp only [htake, hdrop]
  rw [if_pos ⟨hlength, hdigits⟩, digitsValue_padded]

/-- A number of exactly so many digits is entered into its field. -/
theorem readPart?_padded {count number : Nat} (hcount : 0 < count) (h : number < Nat.pow 10 count)
    (parts : DateParts) (field : DateField) (rest : List Char) :
    readPart? parts field count (padded count number ++ rest)
      = (parts.set? field number).map fun parts => (parts, rest) := by
  rw [readPart?, readFixed?_padded hcount h, enter?_some]

/-- No time stamp begins with a sign. -/
theorem readParts?_of_sign {sign : Char} (h : isDigit sign = false) (rest : List Char) :
    readParts? (sign :: rest) = none := by
  have hfixed : readFixed? 4 (sign :: rest) = none := by
    unfold readFixed?
    simp only [List.take_succ_cons, List.all_cons, h, Bool.false_and, Bool.false_eq_true, and_false,
      if_false]
  simp only [readParts?, readPart?, enter?, hfixed, Option.bind_eq_bind, Option.bind_none]

/-- One of the expected characters is dropped. -/
theorem readOneOf?_cons {choices : List Char} {c : Char} (h : c ∈ choices) (rest : List Char) :
    readOneOf? choices (c :: rest) = some rest := by
  rw [readOneOf?, if_pos h]

/-- A written date-time with a year of four digits is used up when its parts are read. -/
theorem readParts?_text {separator : Char} (hseparator : separator ∈ ['T', 't', ' '])
    {moment : DateTime} (hyear : 0 ≤ moment.date.year) (hyear' : moment.date.year ≤ 9999) :
    ∃ parts, readParts? (moment.text separator) = some (parts, []) := by
  obtain ⟨_, _, hmonth, hmonth', hday, hday'⟩ := moment.date.valid
  have hday31 := Nat.le_trans hday' (Date.daysInMonth_le moment.date.year moment.date.month)
  obtain ⟨hhour, hminute, hsecond, hnano⟩ := moment.valid
  have hleap : moment.second + moment.nanosecond / 1000000000 ≤ 60 := by omega
  have htext : yearText moment.date.year = padded 4 moment.date.year.natAbs := by
    rw [yearText, if_neg (by omega), if_pos hyear']
  have hfour : moment.date.year.natAbs < Nat.pow 10 4 := by
    show moment.date.year.natAbs < 10000
    omega
  have htwo : ∀ {number : Nat}, number ≤ 60 → number < Nat.pow 10 2 := by
    intro number h
    show number < 100
    omega
  have hhour23 : (0 : Int) ≤ moment.hour ∧ (moment.hour : Int) ≤ 23 := by omega
  obtain ⟨entered, _, hfraction⟩ :=
    readItem?_fraction (Nat.mod_lt moment.nanosecond (show 0 < 1000000000 by decide))
  simp only [readParts?, DateTime.text, dateText, htext, List.append_assoc, List.cons_append]
  simp only [readPart?_padded (show 0 < 4 by decide) hfour,
    readPart?_padded (show 0 < 2 by decide) (htwo (show moment.date.month ≤ 60 by omega)),
    readPart?_padded (show 0 < 2 by decide) (htwo (show moment.date.day ≤ 60 by omega)),
    readPart?_padded (show 0 < 2 by decide) (htwo (show moment.hour ≤ 60 by omega)),
    readPart?_padded (show 0 < 2 by decide) (htwo (show moment.minute ≤ 60 by omega)),
    readPart?_padded (show 0 < 2 by decide) (htwo hleap),
    readOneOf?_cons hseparator, readOneOf?_cons List.mem_cons_self, DateParts.empty,
    DateParts.set?, DateParts.setHour?, DateParts.agree, hhour23, and_self, if_true,
    Int.toNat_natCast, DateParts.within_none hmonth hmonth', DateParts.within_none hday hday31,
    DateParts.within_none (Nat.zero_le moment.minute) (show moment.minute ≤ 59 by omega),
    DateParts.within_none (Nat.zero_le _) hleap, Option.map_some, Option.bind_eq_bind, Option.bind_some,
    hfraction]
  exact ⟨_, rfl⟩

end Rfc3339

/-- **A written date-time is no time stamp**: it has no offset. -/
theorem DateTime.ofRfc3339?_text {separator : Char} (h : separator ∈ ['T', 't', ' '])
    (moment : DateTime) : ofRfc3339? (moment.text separator) = none := by
  have hsign : ∀ {sign : Char}, isDigit sign = false →
      (∃ rest, moment.text separator = sign :: rest) →
        ofRfc3339? (moment.text separator) = none := by
    rintro sign hs ⟨rest, heq⟩
    rw [heq, ofRfc3339?, Rfc3339.readParts?_of_sign hs]
    rfl
  -- Years of other than four digits are written with a sign, which no time stamp begins with.
  by_cases hneg : moment.date.year < 0
  · refine hsign (show isDigit '-' = false by decide) ?_
    rw [DateTime.text, dateText, yearText, if_pos hneg]
    exact ⟨_, rfl⟩
  · by_cases hlong : moment.date.year ≤ 9999
    -- Nothing is left of the text where the offset should stand.
    · obtain ⟨parts, hparts⟩ := Rfc3339.readParts?_text h (by omega) hlong
      rw [ofRfc3339?, hparts]
      rfl
    · refine hsign (show isDigit '+' = false by decide) ?_
      rw [DateTime.text, dateText, yearText, if_neg hneg, if_neg hlong]
      exact ⟨_, rfl⟩

/-! ### Characters of a written date-time -/

namespace DateTime

/-- The characters of a written date-time besides digits. -/
def marks (separator : Char) : List Char :=
  ['-', '+', ':', '.', separator]

/-- A written year consists of digits and perhaps a sign. -/
theorem mem_yearText {c : Char} {year : Int} (h : c ∈ yearText year) :
    isDigit c = true ∨ c ∈ ['-', '+'] := by
  unfold yearText at h
  split at h
  · rcases List.mem_cons.1 h with rfl | h
    · exact Or.inr (by simp)
    · exact Or.inl (isDigit_of_mem_padded h)
  · split at h
    · exact Or.inl (isDigit_of_mem_padded h)
    · rcases List.mem_cons.1 h with rfl | h
      · exact Or.inr (by simp)
      · exact Or.inl (isDigit_of_mem_padded h)

/-- A written fraction is nothing, or a point and digits. -/
theorem fractionText_cases (nanosecond : Nat) :
    fractionText nanosecond = []
      ∨ ∃ width number, fractionText nanosecond = '.' :: padded width number := by
  unfold fractionText
  split
  · exact Or.inl rfl
  · split
    · exact Or.inr ⟨_, _, rfl⟩
    · split
      · exact Or.inr ⟨_, _, rfl⟩
      · exact Or.inr ⟨_, _, rfl⟩

/-- A written date-time consists of digits and marks. -/
theorem mem_text {separator c : Char} {moment : DateTime} (h : c ∈ moment.text separator) :
    isDigit c = true ∨ c ∈ marks separator := by
  have hfraction : c ∈ fractionText (moment.nanosecond % 1000000000) →
      isDigit c = true ∨ c = '.' := by
    intro hmem
    rcases fractionText_cases (moment.nanosecond % 1000000000) with heq | ⟨width, number, heq⟩
    · exact absurd (heq ▸ hmem) (by simp)
    · rcases List.mem_cons.1 (heq ▸ hmem) with rfl | hmem
      · exact Or.inr rfl
      · exact Or.inl (isDigit_of_mem_padded hmem)
  simp only [text, dateText, List.mem_append, List.mem_cons] at h
  simp only [marks, List.mem_cons]
  have hyear := @mem_yearText c moment.date.year
  have hpadded := @isDigit_of_mem_padded c
  grind

/-- A written date-time ends with a digit. -/
theorem exists_text_eq_concat (separator : Char) (moment : DateTime) :
    ∃ front last, moment.text separator = front ++ [last] ∧ isDigit last = true := by
  have hconcat : ∀ {width number : Nat} (front : List Char) (c : Char),
      ∃ before last, front ++ c :: padded width number = before ++ [last]
        ∧ isDigit last = true := by
    intro width number front c
    obtain ⟨init, last, heq⟩ := List.eq_nil_or_concat (padded width number) |>.resolve_left
      (padded_ne_nil width number)
    refine ⟨front ++ c :: init, last, by rw [heq]; simp, ?_⟩
    exact isDigit_of_mem_padded (show last ∈ padded width number by simp [heq])
  rcases fractionText_cases (moment.nanosecond % 1000000000) with heq | ⟨width, number, heq⟩
  · rw [text, heq, List.append_nil]
    exact hconcat _ _
  · rw [text, heq]
    exact hconcat _ _

/-- A written date-time has no blanks at its ends. -/
theorem trim_text (separator : Char) (moment : DateTime) :
    trim (moment.text separator) = moment.text separator := by
  have hstart : trimStart (moment.text separator) = moment.text separator := by
    simp only [DateTime.text, dateText, List.append_assoc, DatePattern.trimStart_yearText]
  obtain ⟨front, last, htext, hlast⟩ := moment.exists_text_eq_concat separator
  have hblank : isBlank last = false := not_isBlank_of_isPlain (isPlain_of_isDigit hlast)
  rw [trim, hstart]
  show (moment.text separator).rdropWhile isBlank = moment.text separator
  rw [htext, List.rdropWhile_concat_neg _ _ _ (by simp [hblank])]

end DateTime

end RecordFilter
