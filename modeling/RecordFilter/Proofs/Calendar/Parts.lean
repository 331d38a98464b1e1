import Mathlib.Data.Option.Basic
import RecordFilter.Calendar.Parts
import RecordFilter.Proofs.Calendar.Weeks

namespace RecordFilter

/-!
# Dates made of parts

* `DateParts.WholeYears` — no year is given by its century or its place in one.
* `DateParts.named?_eq_some` — every group of parts that a date has names that date.
* `DateParts.date_eq_ok_iff` — which date parts with whole years make.
* `DateParts.dateTime?_ofTimestamp` — the date-time that a time stamp makes by itself.
-/

namespace DateParts

variable {parts : DateParts} {date : Date}

/-- Whether every year that is known is known as a whole. -/
def WholeYears (parts : DateParts) : Prop :=
  parts.century = none ∧ parts.yearOfCentury = none ∧ parts.isoYearOfCentury = none

/-- A whole year is the year. -/
theorem fullYear_none (year : Option Int) : fullYear year none none = .ok year := by
  cases year <;> rfl

/-- A part that is known and has a value is that value. -/
theorem Admits.eq {α : Type} {known : Option α} {value part : α} (h : Admits known (some value))
    (hknown : known = some part) : part = value := by
  rcases h with hnone | heq
  · cases hknown.symm.trans hnone
  · exact Option.some.inj (hknown.symm.trans heq)

/-- What two known parts make is made of their values. -/
theorem eq_of_two {α β : Type} {make : α → β → Option Date} {first : Option α} {second : Option β}
    {a : α} {b : β} (hfirst : Admits first (some a)) (hsecond : Admits second (some b))
    {found : Option Date} (h : (do some (make (← first) (← second))) = some found) :
    found = make a b := by
  obtain ⟨a', ha, h⟩ := Option.bind_eq_some_iff.1 h
  obtain ⟨b', hb, h⟩ := Option.bind_eq_some_iff.1 h
  rw [← Option.some.inj h, hfirst.eq ha, hsecond.eq hb]

/-- What three known parts make is made of their values. -/
theorem eq_of_three {α β γ : Type} {make : α → β → γ → Option Date} {first : Option α}
    {second : Option β} {third : Option γ} {a : α} {b : β} {c : γ} (hfirst : Admits first (some a))
    (hsecond : Admits second (some b)) (hthird : Admits third (some c)) {found : Option Date}
    (h : (do some (make (← first) (← second) (← third))) = some found) : found = make a b c := by
  obtain ⟨a', ha, h⟩ := Option.bind_eq_some_iff.1 h
  rw [eq_of_two hsecond hthird h, hfirst.eq ha]

/-- **Every group of parts that a date has names that date.** -/
theorem named?_eq_some {year isoYear : Option Int} (hfits : parts.Fits date)
    (hyear : Admits year (some date.year)) (hisoYear : Admits isoYear (some date.isoYear))
    {found : Option Date} (h : parts.named? year isoYear = some found) : found = some date := by
  obtain ⟨-, -, -, -, -, -, hmonth, hday, hdayOfYear, hsunday, hmonday, hisoWeek, hweekday⟩ := hfits
  rcases (Option.orElse_eq_some _ _ _).1 h with h | ⟨-, h⟩
  · rw [eq_of_three hyear hmonth hday h]
    exact dif_pos date.valid
  rcases (Option.orElse_eq_some _ _ _).1 h with h | ⟨-, h⟩
  · rw [eq_of_two hyear hdayOfYear h]
    exact Date.ofYearDay?_eq_some.2 ⟨rfl, rfl⟩
  rcases (Option.orElse_eq_some _ _ _).1 h with h | ⟨-, h⟩
  · rw [eq_of_three hyear hsunday hweekday h]
    exact date.ofWeek?_weekOfYear (by decide)
  rcases (Option.orElse_eq_some _ _ _).1 h with h | ⟨-, h⟩
  · rw [eq_of_three hyear hmonday hweekday h]
    exact date.ofWeek?_weekOfYear (by decide)
  · rw [eq_of_three hisoYear hisoWeek hweekday h]
    exact date.ofIsoWeek?_isoWeek

/-- **Parts with whole years make a date exactly if a group of them names one and it has them all.** -/
theorem date_eq_ok_iff (hwhole : parts.WholeYears) :
    parts.date = .ok date
      ↔ parts.Fits date ∧ (parts.named? parts.year parts.isoYear).isSome := by
  obtain ⟨hcentury, hyearOfCentury, hisoYearOfCentury⟩ := hwhole
  unfold DateParts.date
  rw [hcentury, hyearOfCentury, hisoYearOfCentury, fullYear_none, fullYear_none]
  simp only [bind, Except.bind]
  constructor
  · intro h
    split at h
    case h_1 => cases h
    case h_2 => cases h
    case h_3 named hnamed =>
      split at h
      case isTrue hfits =>
        cases h
        exact ⟨hfits, by rw [hnamed]; rfl⟩
      case isFalse => cases h
  · rintro ⟨hfits, hsome⟩
    obtain ⟨found, hfound⟩ := Option.isSome_iff_exists.1 hsome
    rw [hfound, named?_eq_some hfits hfits.1 hfits.2.2.2.1 hfound]
    exact if_pos hfits

/-! ### Time stamps -/

/-- Entering a number that lies between the bounds of an empty field. -/
theorem within_none {low high number : Nat} (hlow : low ≤ number) (hhigh : number ≤ high) :
    within low high none (number : Int) = some (some number) := by
  unfold within
  rw [if_pos (by omega), Int.toNat_natCast]
  rfl

/-- The parts that a time stamp is completed with. -/
def completed (moment : DateTime) (timestamp : Nat) : DateParts :=
  { empty with
    year := some moment.date.year
    dayOfYear := some moment.date.yearDay
    halfDay := some (moment.hour / 12)
    hour12 := some (moment.hour % 12)
    minute := some moment.minute
    second := some moment.second
    timestamp := some timestamp }

/-- A time stamp is completed with the parts of its moment. -/
theorem setMoment?_eq_some {moment : DateTime} {timestamp : Nat}
    (h : (timestamp : Int) = secondsSinceEpoch moment) :
    ({ empty with timestamp := some timestamp } : DateParts).setMoment? timestamp
      = some (completed moment timestamp) := by
  obtain ⟨hhour, hminute, hsecond, -⟩ := moment.valid
  unfold secondsSinceEpoch at h
  have hdate : Date.ofOrdinal? (epoch + (timestamp : Int) / 86400) = some moment.date :=
    Date.ofOrdinal?_eq_some.2 (by omega)
  have hsecond' : (timestamp : Int) % 60 = moment.second := by omega
  have hminute' : (timestamp : Int) / 60 % 60 = moment.minute := by omega
  have hhour' : (timestamp : Int) / 3600 % 24 = moment.hour := by omega
  have hhour23 : (0 : Int) ≤ moment.hour ∧ (moment.hour : Int) ≤ 23 := by omega
  simp only [setMoment?, hdate, hsecond', hminute', hhour', empty, set?, reduceCtorEq, if_false,
    within_none (Nat.zero_le moment.second) (show moment.second ≤ 60 by omega),
    within_none (Nat.zero_le moment.minute) (show moment.minute ≤ 59 by omega),
    within_none moment.date.one_le_yearDay moment.date.yearDay_le, hhour23, and_self, if_true,
    setHour?, agree, Int.toNat_natCast, Option.bind_eq_bind, Option.bind_some, Option.map_some]
  rfl

/-- **A time stamp by itself makes the moment that lies so many seconds after the first one of 1970.** -/
theorem dateTime?_ofTimestamp {moment : DateTime} {timestamp : Nat} (hnano : moment.nanosecond = 0)
    (h : (timestamp : Int) = secondsSinceEpoch moment) :
    ({ empty with timestamp := some timestamp } : DateParts).dateTime? = some moment := by
  have hdate : (completed moment timestamp).date = .ok moment.date := by
    refine (date_eq_ok_iff ⟨rfl, rfl, rfl⟩).2 ⟨?_, rfl⟩
    simp [Fits, Admits, completed, empty]
  have htime : (completed moment timestamp).dateTimeOn? moment.date = some moment := by
    have hsecond := moment.valid.2.2.1
    simp only [dateTimeOn?, completed, empty, Option.bind_eq_bind, Option.bind_some, Nat.div_add_mod,
      Option.getD_none, ← hnano]
    rw [if_neg (by omega)]
    exact dif_pos moment.valid
  -- The time stamp alone is too little for a date.
  show (setMoment? { empty with timestamp := some timestamp } (timestamp : Int)).bind
    (fun parts => parts.date?.bind parts.dateTimeOn?) = some moment
  rw [setMoment?_eq_some h, Option.bind_some, date?, hdate]
  exact htime

end DateParts

end RecordFilter
