import RecordFilter.Proofs.Condition.Search
import RecordFilter.Proofs.Interval.Calendar

namespace RecordFilter

open Text

/-!
# Typed parts of short dates

* `Culture.withoutZeros_withoutZeros`, `Culture.shortFragment_shortFragment` — leading zeros are gone after the
  first time.
* `Culture.WithZeros` — a number as it may be typed, with zeros in front.
* `Culture.shortFragment_intercalate` — a typed run of the parts of a date is brought to the parts as they stand
  in the short date.
* `TextFunction.Takes` — the runs of parts that a test looks for.
* `Culture.shortFragment_finds` — so a date is found by each run of its parts, however many zeros are typed.
-/

namespace Culture

/-! ### Leading zeros -/

section

variable {digits rest : List Char} {c : Char}

/-- Unfolding lemma: a zero that is not the last digit is left out. -/
theorem withoutZeros_zero_cons (h : rest ≠ []) : withoutZeros ('0' :: rest) = withoutZeros rest := by
  obtain ⟨c, rest, rfl⟩ := List.exists_cons_of_ne_nil h
  unfold withoutZeros
  rw [List.dropWhile_cons_of_pos rfl]
  cases (c :: rest).dropWhile (· == '0') <;> rfl

/-- Unfolding lemma: what does not begin with a zero stays. -/
theorem withoutZeros_of_ne (h : c ≠ '0') : withoutZeros (c :: rest) = c :: rest := by
  unfold withoutZeros
  rw [List.dropWhile_cons_of_neg (by simpa using h)]

/-- Any number of zeros in front is left out. -/
theorem withoutZeros_replicate_append (h : digits ≠ []) (count : Nat) :
    withoutZeros (List.replicate count '0' ++ digits) = withoutZeros digits := by
  induction count with
  | zero => rfl
  | succ count ih =>
    rw [List.replicate_succ, List.cons_append, withoutZeros_zero_cons (by simp [h]), ih]

/-- Without its leading zeros a number has no leading zeros. -/
@[simp] theorem withoutZeros_withoutZeros (digits : List Char) :
    withoutZeros (withoutZeros digits) = withoutZeros digits := by
  induction digits with
  | nil => rfl
  | cons c rest ih =>
    by_cases hc : c = '0'
    · subst hc
      by_cases hrest : rest = []
      · subst hrest
        rfl
      · rw [withoutZeros_zero_cons hrest, ih]
    · rw [withoutZeros_of_ne hc, withoutZeros_of_ne hc]

/-- A written number has no leading zeros. -/
@[simp] theorem withoutZeros_natChars (number : Nat) :
    withoutZeros (natChars number) = natChars number := by
  cases hchars : natChars number with
  | nil => rfl
  | cons c rest =>
    by_cases hc : c = '0'
    · subst hc
      obtain rfl := eq_nil_of_natChars hchars
      rfl
    · exact withoutZeros_of_ne hc

/-- Without its leading zeros a number has no new characters. -/
theorem mem_of_mem_withoutZeros (h : c ∈ withoutZeros digits) : c ∈ digits := by
  induction digits with
  | nil => exact h
  | cons first rest ih =>
    by_cases hfirst : first = '0'
    · subst hfirst
      by_cases hrest : rest = []
      · subst hrest
        exact h
      · rw [withoutZeros_zero_cons hrest] at h
        exact List.mem_cons_of_mem _ (ih h)
    · rwa [withoutZeros_of_ne hfirst] at h

end

/-- **A typed part of a date is brought to its form in one go.** -/
@[simp] theorem shortFragment_shortFragment (culture : Culture) (fragment : String) :
    culture.shortFragment (culture.shortFragment fragment) = culture.shortFragment fragment := by
  have hpieces : ∀ piece ∈ (splitOn culture.dateSeparator fragment.toList).map withoutZeros,
      culture.dateSeparator ∉ piece := by
    intro piece hpiece hmem
    obtain ⟨typed, htyped, rfl⟩ := List.mem_map.1 hpiece
    exact not_mem_of_mem_splitOn htyped (mem_of_mem_withoutZeros hmem)
  have hne : (splitOn culture.dateSeparator fragment.toList).map withoutZeros ≠ [] := by
    simp [splitOn_ne_nil]
  have hthere : withoutZeros ∘ withoutZeros = withoutZeros := funext withoutZeros_withoutZeros
  simp only [shortFragment, String.toList_ofList]
  rw [splitOn_intercalate hne hpieces, List.map_map, hthere]

/-! ### Typed numbers -/

/-- A number as it may be typed: with any number of zeros in front. -/
def WithZeros (part typed : List Char) : Prop :=
  ∃ count, typed = List.replicate count '0' ++ part

variable {culture : Culture} {date : Date} {part typed : List Char} {run written : List (List Char)}

/-- A typed number consists of digits. -/
theorem WithZeros.isDigit {number : Nat} (h : WithZeros (natChars number) typed) {c : Char}
    (hc : c ∈ typed) : isDigit c = true := by
  obtain ⟨count, rfl⟩ := h
  rcases List.mem_append.1 hc with hc | hc
  · obtain rfl := List.eq_of_mem_replicate hc
    rfl
  · exact isDigit_of_mem_natChars hc

/-- Without its leading zeros a typed number is the written one. -/
theorem WithZeros.withoutZeros_eq {number : Nat} (h : WithZeros (natChars number) typed) :
    withoutZeros typed = natChars number := by
  obtain ⟨count, rfl⟩ := h
  rw [withoutZeros_replicate_append (natChars_ne_nil number), withoutZeros_natChars]

/-- The parts of a date are numbers, unless its year is negative. -/
theorem exists_number_of_mem_dateParts (hyear : 0 ≤ date.year) (h : part ∈ culture.dateParts date) :
    ∃ number, part = natChars number := by
  rcases mem_dateParts.1 h with rfl | rfl | rfl
  · exact ⟨_, rfl⟩
  · exact ⟨_, rfl⟩
  · exact ⟨date.year.natAbs, if_neg (by omega)⟩

section

variable (hrun : ∀ part ∈ run, ∃ number, part = natChars number)
  (hwritten : List.Forall₂ WithZeros run written)
include hrun hwritten

/-- What is typed for a run of numbers are numbers with zeros in front. -/
theorem exists_number_of_mem_written (h : typed ∈ written) :
    ∃ number, WithZeros (natChars number) typed := by
  induction hwritten with
  | nil => cases h
  | cons hzeros _ ih =>
    rcases List.mem_cons.1 h with rfl | h
    · obtain ⟨number, rfl⟩ := hrun _ List.mem_cons_self
      exact ⟨number, hzeros⟩
    · exact ih (fun part hpart => hrun part (List.mem_cons_of_mem _ hpart)) h

/-- Without its leading zeros what is typed for a run of numbers is the run. -/
theorem map_withoutZeros_written : written.map withoutZeros = run := by
  induction hwritten with
  | nil => rfl
  | cons hzeros _ ih =>
    obtain ⟨number, rfl⟩ := hrun _ List.mem_cons_self
    rw [List.map_cons, hzeros.withoutZeros_eq,
      ih fun part hpart => hrun part (List.mem_cons_of_mem _ hpart)]

/-- **A typed run of numbers is brought to the numbers without zeros in front**, unless the separator is
    a digit. -/
theorem shortFragment_intercalate (hseparator : Text.isDigit culture.dateSeparator = false) :
    culture.shortFragment (String.ofList ([culture.dateSeparator].intercalate written))
      = String.ofList ([culture.dateSeparator].intercalate run) := by
  by_cases hempty : written = []
  · -- Nothing is typed, and cutting it gives an empty piece.
    subst hempty
    obtain rfl := List.forall₂_nil_right_iff.1 hwritten
    rfl
  have hpieces : ∀ typed ∈ written, culture.dateSeparator ∉ typed := by
    intro typed htyped hmem
    obtain ⟨number, hzeros⟩ := exists_number_of_mem_written hrun hwritten htyped
    exact absurd (hzeros.isDigit hmem) (by simp [hseparator])
  rw [shortFragment, String.toList_ofList, splitOn_intercalate hempty hpieces,
    map_withoutZeros_written hrun hwritten]

end

end Culture

/-! ### Runs of parts -/

/-- The runs of parts that a test looks for: the first ones, the last ones, or any in a row. -/
def TextFunction.Takes (function : TextFunction) (run parts : List (List Char)) : Prop :=
  match function with
  | .startsWith => run <+: parts
  | .endsWith => run <:+ parts
  | .contains => run <:+: parts

/-- The run belongs to the parts. -/
theorem TextFunction.Takes.isInfix {function : TextFunction} {run parts : List (List Char)}
    (h : function.Takes run parts) : run <:+: parts := by
  cases function with
  | startsWith => exact List.IsPrefix.isInfix h
  | endsWith => exact List.IsSuffix.isInfix h
  | contains => exact h

/-- A run that a test looks for is found in the parts joined. -/
theorem TextFunction.Takes.holds {function : TextFunction} {run parts : List (List Char)}
    (h : function.Takes run parts) (separator : List Char) :
    function.holds (String.ofList (separator.intercalate parts))
      (String.ofList (separator.intercalate run)) = true := by
  cases function with
  | startsWith =>
    simpa [TextFunction.holds] using prefix_intercalate separator h
  | endsWith =>
    simpa [TextFunction.holds] using suffix_intercalate separator h
  | contains =>
    simpa [TextFunction.holds, occursIn_iff_infix] using infix_intercalate separator h

namespace Culture

/-- **Typed parts of dates find their dates.** As long as no digit separates the parts of dates, a date
    that is not before the year zero is found by each run of its parts in the culture's order, however many
    zeros are typed in front of each: the test can be bound to every member that holds moments, and
    holds of every record with a moment of this date there. And what is typed needs its leading zeros
    removed only once. -/
theorem shortFragment_finds :
    (∀ (setting : Setting) (type : RecordType) (name : String) (target : Target) (record : Record)
        (moment : DateTime) (function : TextFunction) (run written : List (List Char)),
      Text.isDigit setting.culture.dateSeparator = false →
      Target.resolve type name = .ok target → target.kind = .dateTime →
      readMember record target.path = .ok (.dateTime moment) → 0 ≤ moment.date.year →
      function.Takes run (setting.culture.dateParts moment.date) → List.Forall₂ WithZeros run written →
        ∃ condition,
          Condition.compile setting type (.property name (.text function
              (.string (String.ofList ([setting.culture.dateSeparator].intercalate written)))))
            = .ok condition
          ∧ condition.evaluate record = .ok true)
      ∧ ∀ (culture : Culture) (fragment : String),
          culture.shortFragment (culture.shortFragment fragment) = culture.shortFragment fragment := by
  refine ⟨?_, shortFragment_shortFragment⟩
  intro setting type name target record moment function run written hseparator ht hkind hread hyear
    htakes hwritten
  have hrun : ∀ part ∈ run, ∃ number, part = natChars number := fun part hpart =>
    exists_number_of_mem_dateParts hyear (htakes.isInfix.subset hpart)
  refine ⟨_, Condition.compile_property ht _, ?_⟩
  have hfound := htakes.holds [setting.culture.dateSeparator]
  rw [Condition.compileText, Value.plainText?, hkind]
  show (Condition.text target.path function _ (.shortDate setting.culture)).evaluate record = _
  rw [shortFragment_intercalate hrun hwritten hseparator, Condition.evaluate, hread]
  exact congrArg Except.ok hfound

/-- Conventions with bars between the parts of a date, of which the year is first. -/
def barred : Culture :=
  { standard with dateSeparator := '|', dateOrder := .yearMonthDay }

/-- A moment of the year zero. -/
def yearZero : DateTime :=
  ⟨⟨0, 2, 1, by decide⟩, 12, 30, 0, 0, by decide⟩

/-- A moment of the year zero is found by its year and month, the year typed with three zeros and the month
    with two digits. -/
theorem shortFragment_finds_yearZero :
    Text.isDigit barred.dateSeparator = false ∧ 0 ≤ yearZero.date.year
      ∧ TextFunction.startsWith.Takes ["0".toList, "2".toList] (barred.dateParts yearZero.date)
      ∧ ∃ condition,
          Condition.compile ⟨barred, yearZero.date⟩ DateInterval.deliveryType
              (.property "Order.Due" (.text .startsWith (.string "000|02"))) = .ok condition
            ∧ condition.evaluate (DateInterval.delivery yearZero) = .ok true := by
  have hdigit : Text.isDigit barred.dateSeparator = false := by decide
  have hyear : 0 ≤ yearZero.date.year := by decide
  have htakes : TextFunction.startsWith.Takes ["0".toList, "2".toList]
      (barred.dateParts yearZero.date) := ⟨["1".toList], by decide +kernel⟩
  have htyped : String.ofList ([barred.dateSeparator].intercalate ["000".toList, "02".toList])
      = "000|02" := by decide +kernel
  refine ⟨hdigit, hyear, htakes, ?_⟩
  rw [← htyped]
  exact shortFragment_finds.1 ⟨barred, yearZero.date⟩ DateInterval.deliveryType "Order.Due" _
    (DateInterval.delivery yearZero) yearZero .startsWith ["0".toList, "2".toList]
    ["000".toList, "02".toList] hdigit rfl rfl rfl hyear htakes
    (.cons ⟨2, by decide +kernel⟩ (.cons ⟨1, by decide +kernel⟩ .nil))

end Culture

end RecordFilter
