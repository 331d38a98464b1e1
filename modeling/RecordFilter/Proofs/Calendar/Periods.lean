import RecordFilter.Proofs.Calendar.Ordinal

namespace RecordFilter

/-!
# Weeks, months and years

Every week, month and year is a run of days, so that the numbers of two days tell how their weeks, months and
years compare.

* `Date.week` — the number of a week.
* `Date.ordinal_eq_week` — a day lies in its week as far from Monday as its weekday says.
* `Date.year_lt_iff`, `Date.month_lt_iff` — the years and the months before a given one.
* `Date.sameMonth_iff`, `earlierMonth_iff`, `laterMonth_iff` — the months of a year around a given one.
* `Date.ordinal_inj`, `Date.succ?_eq_some_iff` — days are told apart and put in order by their numbers.
-/

namespace Date

/-! ### Weeks -/

/-- The number of the week. Weeks begin on Monday and are numbered in order, from the one that begins on the
    first day of year one. -/
def week (date : Date) : Int :=
  date.ordinal / 7

/-- A day lies in its week as far from Monday as its weekday says. -/
theorem ordinal_eq_week (date : Date) : date.ordinal = 7 * date.week + date.weekday := by
  unfold week weekday
  omega

/-- The tenth of June 2024 is a Monday, and the day before lies in the week before. -/
example :
    weekday ⟨2024, 6, 10, by decide⟩ = 0
      ∧ week ⟨2024, 6, 10, by decide⟩ = week ⟨2024, 6, 9, by decide⟩ + 1 := by
  decide

/-! ### Years -/

/-- No fewer days lie before a later year. -/
theorem daysBeforeYear_le {first second : Int} (h : first ≤ second) :
    daysBeforeYear first ≤ daysBeforeYear second := by
  rcases Int.lt_or_eq_of_le h with hlt | rfl
  · have := daysBeforeYear_lt hlt
    omega
  · exact Int.le_refl _

/-- The days of the years before a given one are those before its first day. -/
theorem year_lt_iff (date : Date) (year : Int) :
    date.year < year ↔ date.ordinal < daysBeforeYear year := by
  have hwithin := date.ordinal_within
  constructor
  · intro h
    have hle : daysBeforeYear (date.year + 1) ≤ daysBeforeYear year := daysBeforeYear_le h
    omega
  · intro h
    by_contra hyear
    have hle := daysBeforeYear_le (Int.not_lt.1 hyear)
    omega

/-- The days of the years after a given one are those from the first day of the next year on. -/
theorem lt_year_iff (date : Date) (year : Int) :
    year < date.year ↔ daysBeforeYear (year + 1) ≤ date.ordinal := by
  have h := date.year_lt_iff (year + 1)
  omega

/-- The days of a year. -/
theorem year_eq_iff (date : Date) (year : Int) :
    date.year = year
      ↔ daysBeforeYear year ≤ date.ordinal ∧ date.ordinal < daysBeforeYear (year + 1) := by
  have hbefore := date.year_lt_iff year
  have hafter := date.lt_year_iff year
  omega

/-! ### Months -/

/-- The days of the months before a given one of the same year are those before its first day. -/
theorem month_lt_iff (date : Date) {month : Nat} (hmonth : 1 ≤ month) :
    date.month < month
      ↔ date.ordinal < daysBeforeYear date.year + daysBeforeMonth date.year month := by
  have hwithin := date.ordinal_within
  have hsucc := daysBeforeMonth_succ date.year date.valid.2.2.1
  rw [ordinal_firstOfMonth] at hwithin
  constructor
  · intro h
    have hle : daysBeforeMonth date.year (date.month + 1) ≤ daysBeforeMonth date.year month :=
      daysBeforeMonth_le date.year (by omega) h
    omega
  · intro h
    by_contra hnot
    have hle := daysBeforeMonth_le date.year hmonth (Nat.not_lt.1 hnot)
    omega

section

variable (day today : Date)

/-- The months before and after that of a given day, for the days of the same year. -/
theorem month_lt_iff_of_year (h : day.year = today.year) :
    (day.month < today.month ↔ day.ordinal < today.firstOfMonth.ordinal)
      ∧ (today.month < day.month
        ↔ today.firstOfMonth.ordinal + daysInMonth today.year today.month ≤ day.ordinal) := by
  have hmonth := today.valid.2.2.1
  have hbefore := day.month_lt_iff hmonth
  have hafter := day.month_lt_iff (show 1 ≤ today.month + 1 by omega)
  rw [h] at hbefore hafter
  rw [daysBeforeMonth_succ today.year hmonth] at hafter
  rw [ordinal_firstOfMonth]
  exact ⟨hbefore, by omega⟩

/-- The days of the same month. -/
theorem sameMonth_iff :
    day.year = today.year ∧ day.month = today.month
      ↔ today.firstOfMonth.ordinal ≤ day.ordinal
        ∧ day.ordinal < today.firstOfMonth.ordinal + daysInMonth today.year today.month := by
  have hwithin := today.ordinal_within
  constructor
  · rintro ⟨hyear, hmonth⟩
    obtain ⟨hbefore, hafter⟩ := month_lt_iff_of_year day today hyear
    omega
  · intro h
    have hyear := (day.year_eq_iff today.year).2 (by omega)
    obtain ⟨hbefore, hafter⟩ := month_lt_iff_of_year day today hyear
    omega

/-- The days of the earlier months of the same year. -/
theorem earlierMonth_iff :
    day.year = today.year ∧ day.month < today.month
      ↔ daysBeforeYear today.year ≤ day.ordinal ∧ day.ordinal < today.firstOfMonth.ordinal := by
  have hwithin := today.ordinal_within
  have hinYear := day.year_eq_iff today.year
  constructor
  · rintro ⟨hyear, hmonth⟩
    exact ⟨(hinYear.1 hyear).1, (month_lt_iff_of_year day today hyear).1.1 hmonth⟩
  · intro h
    have hyear := hinYear.2 (by omega)
    exact ⟨hyear, (month_lt_iff_of_year day today hyear).1.2 h.2⟩

/-- The days of the later months of the same year. -/
theorem laterMonth_iff :
    day.year = today.year ∧ today.month < day.month
      ↔ today.firstOfMonth.ordinal + daysInMonth today.year today.month ≤ day.ordinal
        ∧ day.ordinal < daysBeforeYear (today.year + 1) := by
  have hwithin := today.ordinal_within
  have hinYear := day.year_eq_iff today.year
  constructor
  · rintro ⟨hyear, hmonth⟩
    exact ⟨(month_lt_iff_of_year day today hyear).2.1 hmonth, (hinYear.1 hyear).2⟩
  · intro h
    have hyear := hinYear.2 (by omega)
    exact ⟨hyear, (month_lt_iff_of_year day today hyear).2.2 h.1⟩

end

/-! ### Days -/

/-- **Different days have different numbers.** -/
theorem ordinal_inj {first second : Date} : first.ordinal = second.ordinal ↔ first = second := by
  refine ⟨fun h => ?_, congrArg ordinal⟩
  have hwithin := second.ordinal_within
  obtain ⟨hyear, hmonth⟩ := (sameMonth_iff first second).2 (by omega)
  have hday : first.day = second.day := by
    have hfirst := first.valid.2.2.2.2.1
    have hsecond := second.valid.2.2.2.2.1
    rw [ordinal, ordinal, hyear, hmonth] at h
    omega
  cases first
  cases second
  congr

/-- A day is the next one if it has the next number. -/
theorem succ?_eq_some_iff {date next : Date} :
    date.succ? = some next ↔ next.ordinal = date.ordinal + 1 := by
  refine ⟨ordinal_succ?, fun h => ?_⟩
  have hwithin := next.ordinal_within
  have hlast : daysBeforeYear (next.year + 1) ≤ daysBeforeYear (maxYear + 1) :=
    daysBeforeYear_le (Int.add_le_add_right next.valid.2.1 1)
  obtain ⟨found, hfound⟩ := exists_succ? (show date.ordinal + 1 < _ by omega)
  rw [hfound, ← ordinal_inj.1 ((ordinal_succ? hfound).trans h.symm)]

end Date

end RecordFilter
