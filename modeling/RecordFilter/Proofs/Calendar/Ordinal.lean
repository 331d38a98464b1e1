import Mathlib.Data.Option.Basic
import RecordFilter.Calendar.DateTime

namespace RecordFilter

/-!
# Counting days

* `Date.daysBeforeYear_succ` — a year has as many days as its twelve months.
* `Date.ordinal_succ?`, `Date.ordinal_pred?` — neighbouring days have neighbouring numbers.
* `Date.exists_addDays?` — every day between the first and the last one can be counted to.
* `Date.ordinal_within` — a day lies within its month, and the month within its year.
* `DateTime.midnight_le_iff` — a moment comes after the midnight of every day up to its own.
-/

namespace Date

/-! ### Parts of a date -/

/-- A date made of parts has those parts. -/
theorem ofParts?_eq_some {year : Int} {month day : Nat} {date : Date} :
    ofParts? year month day = some date
      ↔ date.year = year ∧ date.month = month ∧ date.day = day := by
  constructor
  · intro h
    unfold ofParts? at h
    split at h
    · cases h
      exact ⟨rfl, rfl, rfl⟩
    · cases h
  · rintro ⟨rfl, rfl, rfl⟩
    exact dif_pos date.valid

/-- Parts that make no date are not valid. -/
theorem ofParts?_eq_none {year : Int} {month day : Nat} :
    ofParts? year month day = none ↔ ¬ Valid year month day := by
  unfold ofParts?
  split <;> simp_all

/-- The number of a day that is made of parts. -/
theorem ordinal_ofParts? {year : Int} {month day : Nat} {date : Date}
    (h : ofParts? year month day = some date) :
    date.ordinal = daysBeforeYear year + daysBeforeMonth year month + (day - 1 : Nat) := by
  obtain ⟨rfl, rfl, rfl⟩ := ofParts?_eq_some.1 h
  rfl

/-! ### Days of months and years -/

/-- The days before a month are those before the month before it and those of that month. -/
theorem daysBeforeMonth_succ (year : Int) {month : Nat} (h : 1 ≤ month) :
    daysBeforeMonth year (month + 1) = daysBeforeMonth year month + daysInMonth year month := by
  obtain ⟨before, rfl⟩ : ∃ before, month = before + 1 := ⟨month - 1, by omega⟩
  rfl

/-- Twelve months have 365 or, in leap years, 366 days. -/
theorem daysBeforeMonth_thirteen (year : Int) :
    daysBeforeMonth year 13 = if isLeap year then 366 else 365 := by
  simp only [daysBeforeMonth, daysInMonth]
  split <;> rfl

/-- December has 31 days. -/
theorem daysInMonth_december (year : Int) : daysInMonth year 12 = 31 := rfl

/-- December is the last one of the twelve months. -/
theorem daysBeforeMonth_december (year : Int) :
    daysBeforeMonth year 13 = daysBeforeMonth year 12 + 31 := rfl

/-- **A year has as many days as its twelve months.** -/
theorem daysBeforeYear_succ (year : Int) :
    daysBeforeYear (year + 1) = daysBeforeYear year + daysBeforeMonth year 13 := by
  rw [daysBeforeMonth_thirteen]
  unfold daysBeforeYear isLeap
  split <;> simp_all <;> omega

/-- More days lie before a later month. -/
theorem daysBeforeMonth_le (year : Int) {first second : Nat} (hpos : 1 ≤ first)
    (h : first ≤ second) : daysBeforeMonth year first ≤ daysBeforeMonth year second := by
  induction h with
  | refl => exact Nat.le_refl _
  | step hle ih =>
    rw [daysBeforeMonth_succ year (Nat.le_trans hpos hle)]
    exact Nat.le_trans ih (Nat.le_add_right _ _)

/-- More days lie before a later year. -/
theorem daysBeforeYear_lt {first second : Int} (h : first < second) :
    daysBeforeYear first + 365 ≤ daysBeforeYear second := by
  unfold daysBeforeYear
  omega

/-- Every month has a first day. -/
theorem one_le_daysInMonth (year : Int) (month : Nat) : 1 ≤ daysInMonth year month := by
  unfold daysInMonth
  split
  · split <;> decide
  all_goals decide

/-! ### Neighbouring days -/

/-- The day after a date is the next one of the month, or the first one of the next month or of the
    next year. -/
theorem succ?_eq_some {date next : Date} :
    date.succ? = some next
      ↔ ofParts? date.year date.month (date.day + 1) = some next
        ∨ date.day = daysInMonth date.year date.month
          ∧ (ofParts? date.year (date.month + 1) 1 = some next
            ∨ date.month = 12 ∧ ofParts? (date.year + 1) 1 1 = some next) := by
  obtain ⟨hy, hy', hm, hm', hd, hd'⟩ := date.valid
  have hday : ofParts? date.year date.month (date.day + 1) = none
      ↔ date.day = daysInMonth date.year date.month := by
    rw [ofParts?_eq_none]
    omega
  have hmonth : ofParts? date.year (date.month + 1) 1 = none ↔ date.month = 12 := by
    have := one_le_daysInMonth date.year (date.month + 1)
    rw [ofParts?_eq_none]
    omega
  rw [succ?, Option.orElse_eq_some, Option.orElse_eq_some, hday, hmonth]

/-- **The next day has the next number.** -/
theorem ordinal_succ? {date next : Date} (h : date.succ? = some next) :
    next.ordinal = date.ordinal + 1 := by
  have hd := date.valid.2.2.2.2.1
  have hmonth := daysBeforeMonth_succ date.year date.valid.2.2.1
  rcases succ?_eq_some.1 h with h | ⟨hlast, h | ⟨hdecember, h⟩⟩
  · rw [ordinal_ofParts? h, ordinal]
    omega
  · rw [ordinal_ofParts? h, ordinal]
    omega
  · have hyear := daysBeforeYear_succ date.year
    rw [daysBeforeMonth_december] at hyear
    rw [hdecember, daysInMonth_december] at hlast
    rw [ordinal_ofParts? h, ordinal, hdecember, show daysBeforeMonth (date.year + 1) 1 = 0 from rfl]
    omega

/-- Every day but the last one has a next day. -/
theorem exists_succ? {date : Date} (h : date.ordinal + 1 < daysBeforeYear (maxYear + 1)) :
    ∃ next, date.succ? = some next := by
  by_contra hnone
  have hend : date.day = daysInMonth date.year date.month ∧ date.month = 12
      ∧ ¬ date.year + 1 ≤ maxYear := by
    obtain ⟨hy, hy', hm, hm', hd, hd'⟩ := date.valid
    rw [← Option.isSome_iff_exists, Option.not_isSome_iff_eq_none, succ?, Option.orElse_eq_none,
      Option.orElse_eq_none, ofParts?_eq_none, ofParts?_eq_none, ofParts?_eq_none] at hnone
    have := one_le_daysInMonth date.year (date.month + 1)
    have := one_le_daysInMonth (date.year + 1) 1
    omega
  obtain ⟨hlast, hdecember, hyear⟩ := hend
  have hsucc := daysBeforeYear_succ date.year
  have heq : date.year = maxYear := by
    have := date.valid.2.1
    omega
  rw [hdecember, daysInMonth_december] at hlast
  rw [ordinal, hdecember] at h
  rw [daysBeforeMonth_december, heq] at hsucc
  rw [heq] at h
  omega

/-- The day before has the number before. -/
theorem ordinal_pred? {date before : Date} (h : date.pred? = some before) :
    before.ordinal = date.ordinal - 1 := by
  obtain ⟨hy, hy', hm, hm', hd, hd'⟩ := date.valid
  unfold pred? at h
  split at h
  · rw [ordinal_ofParts? h, ordinal]
    omega
  · split at h
    · have hmonth := daysBeforeMonth_succ date.year (show 1 ≤ date.month - 1 by omega)
      rw [show date.month - 1 + 1 = date.month by omega] at hmonth
      have := one_le_daysInMonth date.year (date.month - 1)
      rw [ordinal_ofParts? h, ordinal]
      omega
    · have hjanuary : date.month = 1 := by omega
      have hyear := daysBeforeYear_succ (date.year - 1)
      rw [show date.year - 1 + 1 = date.year by omega, daysBeforeMonth_december] at hyear
      rw [ordinal_ofParts? h, ordinal, hjanuary, show daysBeforeMonth date.year 1 = 0 from rfl]
      omega

/-- Every day but the first one has a day before. -/
theorem exists_pred? {date : Date} (h : daysBeforeYear minYear < date.ordinal) :
    ∃ before, date.pred? = some before := by
  obtain ⟨hy, hy', hm, hm', hd, hd'⟩ := date.valid
  unfold pred?
  split
  · exact ⟨_, dif_pos ⟨hy, hy', hm, hm', by omega, by omega⟩⟩
  · split
    · have := one_le_daysInMonth date.year (date.month - 1)
      exact ⟨_, dif_pos ⟨hy, hy', by omega, by omega, this, Nat.le_refl _⟩⟩
    · have hyear : minYear ≤ date.year - 1 := by
        by_contra hfirst
        have heq : date.year = minYear := by omega
        have hjanuary : date.month = 1 := by omega
        rw [ordinal, hjanuary, heq, show daysBeforeMonth minYear 1 = 0 from rfl] at h
        omega
      exact ⟨_, dif_pos ⟨hyear, by omega, by decide, by decide, by decide, Nat.le_refl 31⟩⟩

/-! ### Counting -/

/-- Counting forward reaches the day with the number sought, up to the last one. -/
theorem exists_later? (days : Nat) (date : Date)
    (h : date.ordinal + days < daysBeforeYear (maxYear + 1)) :
    ∃ later, later? days date = some later ∧ later.ordinal = date.ordinal + days := by
  induction days generalizing date with
  | zero => exact ⟨date, rfl, (Int.add_zero _).symm⟩
  | succ days ih =>
    obtain ⟨next, hnext⟩ := exists_succ? (show date.ordinal + 1 < _ by omega)
    have hordinal := ordinal_succ? hnext
    obtain ⟨later, hlater, heq⟩ := ih next (by omega)
    refine ⟨later, ?_, by omega⟩
    rw [later?, hnext]
    exact hlater

/-- Counting backward reaches the day with the number sought, down to the first one. -/
theorem exists_earlier? (days : Nat) (date : Date)
    (h : daysBeforeYear minYear ≤ date.ordinal - days) :
    ∃ earlier, earlier? days date = some earlier ∧ earlier.ordinal = date.ordinal - days := by
  induction days generalizing date with
  | zero => exact ⟨date, rfl, (Int.sub_zero _).symm⟩
  | succ days ih =>
    obtain ⟨before, hbefore⟩ := exists_pred? (show _ < date.ordinal by omega)
    have hordinal := ordinal_pred? hbefore
    obtain ⟨earlier, hearlier, heq⟩ := ih before (by omega)
    refine ⟨earlier, ?_, by omega⟩
    rw [earlier?, hbefore]
    exact hearlier

/-- **Every day between the first and the last one can be counted to.** -/
theorem exists_addDays? (date : Date) (days : Int)
    (hlow : daysBeforeYear minYear ≤ date.ordinal + days)
    (hhigh : date.ordinal + days < daysBeforeYear (maxYear + 1)) :
    ∃ shifted, date.addDays? days = some shifted ∧ shifted.ordinal = date.ordinal + days := by
  unfold addDays?
  split
  · obtain ⟨later, hlater, heq⟩ := exists_later? days.toNat date (by omega)
    exact ⟨later, hlater, by omega⟩
  · obtain ⟨earlier, hearlier, heq⟩ := exists_earlier? (-days).toNat date (by omega)
    exact ⟨earlier, hearlier, by omega⟩

/-! ### Months and years -/

/-- The number of the first day of a month. -/
theorem ordinal_firstOfMonth (date : Date) :
    date.firstOfMonth.ordinal
      = daysBeforeYear date.year + daysBeforeMonth date.year date.month :=
  Int.add_zero _

/-- The number of the first day of a year. -/
theorem ordinal_firstOfYear (date : Date) :
    date.firstOfYear.ordinal = daysBeforeYear date.year := by
  show daysBeforeYear date.year + ((0 : Nat) : Int) + ((1 - 1 : Nat) : Int) = _
  omega

/-- **A day lies within its month, and the month within its year.** -/
theorem ordinal_within (date : Date) :
    daysBeforeYear date.year ≤ date.firstOfMonth.ordinal
      ∧ date.firstOfMonth.ordinal ≤ date.ordinal
      ∧ date.ordinal < date.firstOfMonth.ordinal + daysInMonth date.year date.month
      ∧ date.firstOfMonth.ordinal + daysInMonth date.year date.month
        ≤ daysBeforeYear (date.year + 1) := by
  obtain ⟨hy, hy', hm, hm', hd, hd'⟩ := date.valid
  have hmonth := daysBeforeMonth_succ date.year hm
  have hle := daysBeforeMonth_le date.year (show 1 ≤ date.month + 1 by omega)
    (show date.month + 1 ≤ 13 by omega)
  have hyear := daysBeforeYear_succ date.year
  rw [ordinal_firstOfMonth, ordinal]
  omega

/-- A week has seven days. -/
theorem weekday_lt (date : Date) : date.weekday < 7 := by
  unfold weekday
  omega

end Date

namespace DateTime

/-- A moment comes after the midnight of a day if the day is not after the one that it falls on. -/
theorem midnight_le_iff (date : Date) (moment : DateTime) :
    (midnight date).rank ≤ moment.rank ↔ date.ordinal ≤ moment.date.ordinal := by
  obtain ⟨hhour, hminute, hsecond, hnano⟩ := moment.valid
  unfold rank midnight
  dsimp only
  omega

end DateTime

end RecordFilter
