import Mathlib.Data.Option.Basic
import RecordFilter.Calendar.Pattern

namespace RecordFilter

open Text

/-!
# What reading a date leaves of the text

Every reader of a part of a date takes characters from the front of a text and none from elsewhere.

* `DatePattern.LeavesEnd` — what is left behind the part that was found is an end of the text.
* `DatePattern.leavesEnd_readItem?` — so it is for every part of a pattern.
* `DatePattern.readFrom?_filter_blanks` — on a text without blanks the blanks of a pattern do not count.
-/

namespace DatePattern

/-- What is left behind the part that was found, if any was, is an end of the text. -/
def LeavesEnd {α : Type} (found : Option (α × List Char)) (text : List Char) : Prop :=
  ∀ value rest, found = some (value, rest) → rest <:+ text

section

variable {α β : Type} {found : Option (α × List Char)} {text : List Char}

/-- Nothing is left where nothing was found. -/
theorem leavesEnd_none : LeavesEnd (none : Option (α × List Char)) text :=
  fun _ _ h => absurd h (Option.some_ne_none _).symm

/-- An end of the text is left. -/
theorem leavesEnd_some {value : α} {rest : List Char} (h : rest <:+ text) :
    LeavesEnd (some (value, rest)) text := by
  intro value' rest' heq
  cases heq
  exact h

/-- A reader that yields no value leaves an end of the text, whatever is made of it. -/
theorem leavesEnd_map {behind : Option (List Char)} (h : ∀ rest, behind = some rest → rest <:+ text)
    (value : α) : LeavesEnd (behind.map fun rest => (value, rest)) text := by
  intro value' rest heq
  obtain ⟨left, hleft, heq⟩ := Option.map_eq_some_iff.1 heq
  cases heq
  exact h rest hleft

namespace LeavesEnd

/-- The end of an end of the text is left. -/
theorem of_suffix {behind : List Char} (h : LeavesEnd found behind) (hbehind : behind <:+ text) :
    LeavesEnd found text :=
  fun value rest heq => (h value rest heq).trans hbehind

/-- The value that was found may be changed. -/
theorem map (h : LeavesEnd found text) (f : α → β) :
    LeavesEnd (found.map fun (value, rest) => (f value, rest)) text := by
  intro value rest heq
  obtain ⟨⟨value', left⟩, hfound, heq⟩ := Option.map_eq_some_iff.1 heq
  cases heq
  exact h value' rest hfound

/-- Another reader may go on behind the first one. -/
theorem bind {next : α × List Char → Option (β × List Char)} (h : LeavesEnd found text)
    (hnext : ∀ value rest, rest <:+ text → LeavesEnd (next (value, rest)) text) :
    LeavesEnd (found.bind next) text := by
  intro value rest heq
  obtain ⟨⟨value', left⟩, hfound, heq⟩ := Option.bind_eq_some_iff.1 heq
  exact hnext value' left (h value' left hfound) value rest heq

/-- A second reader may be tried on the same text. -/
theorem orElse {other : Option (α × List Char)} (h : LeavesEnd found text)
    (hother : LeavesEnd other text) : LeavesEnd (found <|> other) text := by
  intro value rest heq
  rcases (Option.orElse_eq_some _ _ _).1 heq with heq | ⟨-, heq⟩
  · exact h value rest heq
  · exact hother value rest heq

/-- What was found may be entered among the parts. -/
theorem enter (h : LeavesEnd found text) (set : α → Option DateParts) :
    LeavesEnd (enter? found set) text := by
  refine h.bind fun value rest hrest => ?_
  intro parts left heq
  obtain ⟨entered, -, heq⟩ := Option.bind_eq_some_iff.1 heq
  cases heq
  exact hrest

end LeavesEnd

end

/-! ### Numbers -/

/-- Some digits leave an end of the text. -/
theorem leavesEnd_readDigits? (most : Nat) (text : List Char) :
    LeavesEnd (readDigits? most text) text := by
  unfold readDigits?
  dsimp only
  split
  · exact leavesEnd_none
  · exact leavesEnd_some (List.drop_suffix _ _)

/-- A number leaves an end of the text. -/
theorem leavesEnd_readNumber? (most : Nat) (text : List Char) :
    LeavesEnd (readNumber? most text) text :=
  (leavesEnd_readDigits? most text).map _

/-- A year leaves an end of the text, its sign in front of it or not. -/
theorem leavesEnd_readYear? (text : List Char) : LeavesEnd (readYear? text) text := by
  unfold readYear?
  split
  case h_1 rest => exact ((leavesEnd_readNumber? _ rest).map _).of_suffix (List.suffix_cons _ _)
  case h_2 rest => exact (leavesEnd_readNumber? _ rest).of_suffix (List.suffix_cons _ _)
  case h_3 => exact leavesEnd_readNumber? 4 text

/-- The number of a field leaves an end of the text. -/
theorem leavesEnd_readField? (field : DateField) (text : List Char) :
    LeavesEnd (readField? field text) text := by
  cases field with
  | year | isoYear => exact leavesEnd_readYear? text
  | _ => exact leavesEnd_readNumber? _ text

/-- Exactly so many digits leave an end of the text. -/
theorem leavesEnd_readFixed? (count : Nat) (text : List Char) :
    LeavesEnd (readFixed? count text) text := by
  unfold readFixed?
  dsimp only
  split
  · exact leavesEnd_some (List.drop_suffix _ _)
  · exact leavesEnd_none

/-- The digits of a fraction leave an end of the text. -/
theorem leavesEnd_readNanoseconds? (text : List Char) : LeavesEnd (readNanoseconds? text) text := by
  unfold readNanoseconds?
  dsimp only
  split
  · exact leavesEnd_none
  · exact leavesEnd_some (List.drop_suffix _ _)

/-- A fixed number of digits of a fraction leaves an end of the text. -/
theorem leavesEnd_readFraction? (count : Nat) (text : List Char) :
    LeavesEnd (readFraction? count text) text :=
  (leavesEnd_readFixed? count text).map fun value => value * Nat.pow 10 (9 - count)

/-! ### Words and offsets -/

/-- What is left behind a word is an end of the text. -/
theorem suffix_of_readWord? {word text rest : List Char} (h : readWord? word text = some rest) :
    rest <:+ text := by
  unfold readWord? at h
  split at h
  case isTrue =>
    cases h
    exact List.drop_suffix _ _
  case isFalse => cases h

/-- What is left behind one of some characters is an end of the text. -/
theorem suffix_of_readOneOf? {choices text rest : List Char}
    (h : readOneOf? choices text = some rest) : rest <:+ text := by
  unfold readOneOf? at h
  split at h
  case h_1 =>
    split at h
    case isTrue =>
      cases h
      exact List.suffix_cons _ _
    case isFalse => cases h
  case h_2 => cases h

/-- A name leaves an end of the text, be it in full or by its first letters. -/
theorem leavesEnd_readName? (names : List String) (long : Bool) (text : List Char) :
    LeavesEnd (readName? names long text) text := by
  intro place rest h
  obtain ⟨⟨name, index⟩, -, hname⟩ := List.exists_of_findSome?_eq_some h
  obtain ⟨left, hshort, heq⟩ := Option.bind_eq_some_iff.1 hname
  cases heq
  have hleft : left <:+ text := suffix_of_readWord? hshort
  split
  case isTrue =>
    cases hlong : readWord? (name.toList.drop 3) left with
    | none => exact hleft
    | some behind => exact (suffix_of_readWord? hlong).trans hleft
  case isFalse => exact hleft

/-- A half of the day leaves an end of the text. -/
theorem leavesEnd_readHalfDay? (text : List Char) : LeavesEnd (readHalfDay? text) text :=
  (leavesEnd_map (fun _ => suffix_of_readWord?) 0).orElse
    (leavesEnd_map (fun _ => suffix_of_readWord?) 1)

/-- The sign of an offset leaves an end of the text. -/
theorem leavesEnd_readOffsetSign? (text : List Char) : LeavesEnd (readOffsetSign? text) text := by
  unfold readOffsetSign?
  split
  case h_4 => exact leavesEnd_none
  all_goals exact leavesEnd_some (List.suffix_cons _ _)

/-- The hours and minutes of an offset leave an end of the text. -/
theorem leavesEnd_readMinutes? (required : Bool) (text : List Char) :
    LeavesEnd (readMinutes? required text) text := by
  refine (leavesEnd_readOffsetSign? text).bind fun sign rest hsign => ?_
  refine ((leavesEnd_readFixed? 2 rest).of_suffix hsign).bind fun hours rest hhours => ?_
  have hleft : (rest.dropWhile fun c => c == ':' || isBlank c) <:+ text :=
    (List.dropWhile_suffix _).trans hhours
  dsimp only
  split
  · exact leavesEnd_some hleft
  · refine ((leavesEnd_readFixed? 2 _).of_suffix hleft).bind fun minutes rest hminutes => ?_
    dsimp only
    split
    · exact leavesEnd_some hminutes
    · exact leavesEnd_none

/-- An offset leaves an end of the text. -/
theorem leavesEnd_readOffset? (form : OffsetForm) (text : List Char) :
    LeavesEnd (readOffset? form text) text := by
  have hword : ∀ word, LeavesEnd ((readWord? word text).map fun rest => ((0 : Int), rest)) text :=
    fun word => leavesEnd_map (fun _ => suffix_of_readWord?) 0
  cases form with
  | minutes => exact leavesEnd_readMinutes? true text
  | hours => exact (hword _).orElse (leavesEnd_readMinutes? false text)
  | universal => exact (hword _).orElse ((hword _).orElse (leavesEnd_readMinutes? true text))

/-! ### Patterns and blanks -/

/-- **Every part of a pattern leaves an end of the text.** -/
theorem leavesEnd_readItem? (item : Item) (parts : DateParts) (text : List Char) :
    LeavesEnd (readItem? item parts text) text := by
  have htrim : trimStart text <:+ text := List.dropWhile_suffix _
  cases item with
  | number field => exact ((leavesEnd_readField? field _).of_suffix htrim).enter _
  | monthName long =>
    exact (leavesEnd_readName? months long text).enter fun place => parts.set? .month (place + 1)
  | weekdayName long => exact (leavesEnd_readName? weekdays long text).enter _
  | halfDay => exact (leavesEnd_readHalfDay? text).enter _
  | fraction =>
    unfold readItem?
    dsimp only
    split
    · exact ((leavesEnd_readNanoseconds? _).of_suffix (List.suffix_cons _ _)).enter _
    · exact leavesEnd_some List.suffix_rfl
  | fixedFraction count =>
    unfold readItem?
    dsimp only
    split
    · exact ((leavesEnd_readFraction? count _).of_suffix (List.suffix_cons _ _)).enter _
    · exact leavesEnd_some List.suffix_rfl
  | bareFraction count =>
    exact (leavesEnd_readFraction? count text).enter fun value => parts.set? .nanosecond value
  | offset form => exact ((leavesEnd_readOffset? form _).of_suffix htrim).enter _
  | zoneName => exact leavesEnd_some (List.dropWhile_suffix _)
  | blanks => exact leavesEnd_some htrim
  | literal c => exact leavesEnd_map (fun _ => suffix_of_readOneOf?) parts
  | oneOf choices => exact leavesEnd_map (fun _ => suffix_of_readOneOf?) parts
  | never => exact leavesEnd_none

/-- **On a text without blanks the blanks of a pattern do not count.** -/
theorem readFrom?_filter_blanks (pattern : DatePattern) (parts : DateParts) {text : List Char}
    (h : ∀ c ∈ text, isBlank c = false) :
    readFrom? pattern parts text = readFrom? (pattern.filter (· ≠ .blanks)) parts text := by
  induction pattern generalizing parts text with
  | nil => rfl
  | cons item rest ih =>
    by_cases hitem : item = .blanks
    · subst hitem
      have htrim : trimStart text = text := by
        cases text with
        | nil => rfl
        | cons c rest => rw [trimStart, List.dropWhile_cons_of_neg (by simp [h c])]
      rw [readFrom?, readItem?, htrim, List.filter_cons_of_neg (by simp)]
      exact ih parts h
    · rw [List.filter_cons_of_pos (by simpa using hitem), readFrom?, readFrom?]
      cases hread : readItem? item parts text with
      | none => rfl
      | some found =>
        obtain ⟨parts', left⟩ := found
        have hleft : left <:+ text := leavesEnd_readItem? item parts text parts' left hread
        exact ih parts' fun c hc => h c (hleft.subset hc)

end DatePattern

end RecordFilter
