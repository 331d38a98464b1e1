import Mathlib.Data.List.Basic
import RecordFilter.Calendar.Week
import RecordFilter.Proofs.Calendar.Periods

namespace RecordFilter

/-!
# Dates named by their place

A date is found again from its number, from its place in its year, and from its week and weekday, whichever
way the weeks are counted.

* `Date.ofYearDay?_eq_some` — the date with a number within a year.
* `Date.ofOrdinal?_eq_some` — the date with a number.
* `Date.ofWeek?_weekOfYear`, `Date.ofIsoWeek?_isoWeek` — the date in its week.
-/

namespace Date

/-! ### Days of the year -/

/-- The number of a day from the first day of its year. -/
theorem ordinal_eq_yearDay (date : Date) :
    date.ordinal = daysBeforeYear date.year + date.yearDay - 1 := by
  have hday := date.valid.2.2.2.2.1
  unfold ordinal yearDay
  omega

/-- A day of the year has a number from one on. -/
theorem one_le_yearDay (date : Date) : 1 ≤ date.yearDay := by
  have hday := date.valid.2.2.2.2.1
  unfold yearDay
  omega

/-- A year has 366 days at most. -/
theorem yearDay_le (date : Date) : date.yearDay ≤ 366 := by
  have hwithin := (date.year_eq_iff date.year).1 rfl
  have hordinal := date.ordinal_eq_yearDay
  have hyear := daysBeforeYear_succ date.year
  rw [daysBeforeMonth_thirteen] at hyear
  split at hyear <;> omega

/-- What is found among several candidates is the date sought if it is one of them and all that can be found
    is that date. -/
theorem findSome?_eq_some {α : Type} {candidates : List α} {find : α → Option Date} {date : Date}
    (hfind : ∃ candidate ∈ candidates, find candidate = some date)
    (honly : ∀ candidate found, find candidate = some found → found = date) :
    candidates.findSome? find = some date := by
  obtain ⟨candidate, hmem, hcandidate⟩ := hfind
  have hsome : (candidates.findSome? find).isSome :=
    List.findSome?_isSome_iff.2 ⟨candidate, hmem, by rw [hcandidate]; rfl⟩
  obtain ⟨found, hfound⟩ := Option.isSome_iff_exists.1 hsome
  obtain ⟨other, -, hother⟩ := List.exists_of_findSome?_eq_some hfound
  rw [hfound, honly other found hother]

/-- What a month of the year offers for a number has that number. -/
theorem yearDay_of_month {year : Int} {month day : Nat} {date : Date}
    (h : (if daysBeforeMonth year month < day then
      ofParts? year month (day - daysBeforeMonth year month) else none) = some date) :
    date.year = year ∧ date.yearDay = day := by
  split at h
  case isTrue hbefore =>
    obtain ⟨rfl, rfl, hday⟩ := ofParts?_eq_some.1 h
    refine ⟨rfl, ?_⟩
    unfold yearDay
    omega
  case isFalse => cases h

/-- **The date with a number within a year is the one that has it.** -/
theorem ofYearDay?_eq_some {year : Int} {day : Nat} {date : Date} :
    ofYearDay? year day = some date ↔ date.year = year ∧ date.yearDay = day := by
  constructor
  · intro h
    obtain ⟨month, -, hmonth⟩ := List.exists_of_findSome?_eq_some h
    exact yearDay_of_month hmonth
  · rintro ⟨rfl, rfl⟩
    refine findSome?_eq_some ⟨date.month, ?_, ?_⟩ fun month found hfound => ?_
    · obtain ⟨-, -, hmonth, hmonth', -⟩ := date.valid
      exact List.mem_range'_1.2 ⟨hmonth, by omega⟩
    · have hday := date.valid.2.2.2.2.1
      unfold yearDay
      rw [if_pos (by omega), Nat.add_sub_cancel_left]
      exact dif_pos date.valid
    -- Another month may offer no other date of the same number.
    · obtain ⟨hyear, hday⟩ := yearDay_of_month hfound
      rw [← ordinal_inj, ordinal_eq_yearDay, ordinal_eq_yearDay, hyear, hday]

/-- What a year offers for a number has that number. -/
theorem ordinal_of_year {year ordinal : Int} {date : Date}
    (h : (if daysBeforeYear year ≤ ordinal then
      ofYearDay? year (ordinal - daysBeforeYear year + 1).toNat else none) = some date) :
    date.ordinal = ordinal := by
  split at h
  case isTrue hbefore =>
    obtain ⟨rfl, hday⟩ := ofYearDay?_eq_some.1 h
    rw [ordinal_eq_yearDay]
    omega
  case isFalse => cases h

/-- The mean length of a year gives the year of a day up to one. -/
theorem near_year (date : Date) :
    date.year - 1 ≤ date.ordinal * 400 / 146097 + 1
      ∧ date.ordinal * 400 / 146097 + 1 ≤ date.year + 1 := by
  obtain ⟨hfirst, hlast⟩ := (date.year_eq_iff date.year).1 rfl
  unfold daysBeforeYear at hfirst hlast
  omega

/-- **The date with a number is the one that has it.** -/
theorem ofOrdinal?_eq_some {ordinal : Int} {date : Date} :
    ofOrdinal? ordinal = some date ↔ date.ordinal = ordinal := by
  constructor
  · intro h
    obtain ⟨year, -, hyear⟩ := List.exists_of_findSome?_eq_some h
    exact ordinal_of_year hyear
  · rintro rfl
    refine findSome?_eq_some ⟨date.year, ?_, ?_⟩ fun year found hfound =>
      ordinal_inj.1 (ordinal_of_year hfound)
    · have hnear := date.near_year
      simp only [List.mem_cons, List.not_mem_nil, or_false]
      omega
    · have hday := date.one_le_yearDay
      rw [ordinal_eq_yearDay, if_pos (by omega), ofYearDay?_eq_some]
      exact ⟨rfl, by omega⟩

/-! ### Weeks -/

/-- **A date is the one of its weekday in its week**, whatever day weeks begin with. -/
theorem ofWeek?_weekOfYear {start : Nat} (hstart : start < 7) (date : Date) :
    ofWeek? start date.year (date.weekOfYear start) date.weekday = some date := by
  have hday := date.one_le_yearDay
  have hordinal := date.ordinal_eq_yearDay
  rw [ofWeek?, ofYearDay?_eq_some]
  refine ⟨rfl, ?_⟩
  unfold weekOfYear weekday
  omega

/-- A day comes no earlier than the first week of the year that its week belongs to. -/
theorem isoYearStart_le (date : Date) : isoYearStart date.isoYear ≤ date.ordinal := by
  have hwithin := (date.year_eq_iff date.year).1 rfl
  have hbefore := daysBeforeYear_lt (show date.year - 1 < date.year by omega)
  unfold isoYear
  split
  case isTrue =>
    unfold isoYearStart
    omega
  case isFalse =>
    split <;> omega

/-- **A date is the one of its weekday in its ISO week.** -/
theorem ofIsoWeek?_isoWeek (date : Date) :
    ofIsoWeek? date.isoYear date.isoWeek date.weekday = some date := by
  have hstart := date.isoYearStart_le
  have hmonday : isoYearStart date.isoYear % 7 = 0 := by
    unfold isoYearStart
    omega
  rw [ofIsoWeek?, ofOrdinal?_eq_some]
  unfold isoWeek weekday
  omega

end Date

end RecordFilter
