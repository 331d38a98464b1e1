import RecordFilter.Interval
import RecordFilter.Proofs.Calendar.Ordinal
import RecordFilter.Proofs.Except

namespace RecordFilter

/-!
# Every moment lies in some interval

* `Anchors.Around` — the days that bound the intervals, by their numbers.
* `DateInterval.HoldsOn` — the days that belong to an interval, by their numbers.
* `DateInterval.exists_bounds` — an interval has bounds, and they enclose just those days.
* `DateInterval.bounds_coverage` — the intervals leave no gap, and past, present and future do not
  mix.

Only the first and the last year that dates reach are left out: around them some of the days do not
exist.
-/

/-! ### The days around a given one -/

/-- A day that can be counted to is found. -/
theorem exists_shiftDate (date : Date) (days : Int)
    (hlow : Date.daysBeforeYear Date.minYear ≤ date.ordinal + days)
    (hhigh : date.ordinal + days < Date.daysBeforeYear (Date.maxYear + 1)) :
    ∃ shifted, shiftDate date days = .ok shifted ∧ shifted.ordinal = date.ordinal + days := by
  obtain ⟨shifted, hshifted, hordinal⟩ := date.exists_addDays? days hlow hhigh
  refine ⟨shifted, ?_, hordinal⟩
  rw [shiftDate, hshifted]

/-- The first day of a month is found. -/
theorem exists_dateOfParts (year : Int) (month : Nat) (hlow : Date.minYear ≤ year)
    (hhigh : year ≤ Date.maxYear) (hmonth : 1 ≤ month) (hmonth' : month ≤ 12) :
    ∃ first, dateOfParts year month 1 = .ok first
      ∧ first.ordinal = Date.daysBeforeYear year + Date.daysBeforeMonth year month := by
  have hvalid : Date.Valid year month 1 :=
    ⟨hlow, hhigh, hmonth, hmonth', Nat.le_refl 1, Date.one_le_daysInMonth year month⟩
  refine ⟨⟨year, month, 1, hvalid⟩, ?_, Int.add_zero _⟩
  rw [dateOfParts, Date.ofParts?, dif_pos hvalid]

/-- The days that bound the intervals around a day, by their numbers. -/
structure Anchors.Around (today : Date) (anchors : Anchors) : Prop where
  today_eq : anchors.today = today
  thisWeek : anchors.thisWeek.ordinal = today.ordinal - today.weekday
  nextWeek : anchors.nextWeek.ordinal = today.ordinal - today.weekday + 7
  nextSunday : anchors.nextSunday.ordinal = today.ordinal - today.weekday + 13
  lastWeek : anchors.lastWeek.ordinal = today.ordinal - today.weekday - 7
  thisMonth : anchors.thisMonth.ordinal = today.firstOfMonth.ordinal
  nextMonth : anchors.nextMonth.ordinal
    = today.firstOfMonth.ordinal + Date.daysInMonth today.year today.month
  thisYear : anchors.thisYear.ordinal = Date.daysBeforeYear today.year
  nextYear : anchors.nextYear.ordinal = Date.daysBeforeYear (today.year + 1)

section

variable {today : Date} (hlow : Date.minYear < today.year) (hhigh : today.year < Date.maxYear)
include hlow hhigh

/-- A year lies between the day and either end of the calendar. -/
theorem Date.far_from_ends :
    daysBeforeYear minYear + 365 ≤ today.ordinal
      ∧ today.ordinal + 365 < daysBeforeYear (maxYear + 1) := by
  have hfirst := daysBeforeYear_lt hlow
  have hlast := daysBeforeYear_lt (show today.year + 1 < maxYear + 1 by omega)
  have hwithin := today.ordinal_within
  omega

/-- The first day of the next month is found, in the next year if the month is December. -/
theorem exists_nextMonth :
    ∃ nextMonth : Date,
      (today.month = 12 → dateOfParts (today.year + 1) 1 1 = .ok nextMonth)
      ∧ (today.month ≠ 12 → dateOfParts today.year (today.month + 1) 1 = .ok nextMonth)
      ∧ nextMonth.ordinal
        = today.firstOfMonth.ordinal + Date.daysInMonth today.year today.month := by
  obtain ⟨-, -, hmonth, hmonth', -, -⟩ := today.valid
  by_cases hdecember : today.month = 12
  · obtain ⟨first, hok, hordinal⟩ := exists_dateOfParts (today.year + 1) 1
      (by omega) (by omega) (by decide) (by decide)
    refine ⟨first, fun _ => hok, fun h => absurd hdecember h, ?_⟩
    rw [hordinal, Date.ordinal_firstOfMonth, hdecember, Date.daysBeforeYear_succ,
      Date.daysBeforeMonth_december, Date.daysInMonth_december, show Date.daysBeforeMonth (today.year + 1) 1 = 0 from rfl]
    omega
  · obtain ⟨first, hok, hordinal⟩ := exists_dateOfParts today.year (today.month + 1)
      (by omega) (by omega) (by omega) (by omega)
    refine ⟨first, fun h => absurd h hdecember, fun _ => hok, ?_⟩
    rw [hordinal, Date.ordinal_firstOfMonth, Date.daysBeforeMonth_succ today.year hmonth]
    omega

/-- **The days that bound the intervals exist.** -/
theorem exists_anchors : ∃ anchors, Anchors.of today = .ok anchors ∧ anchors.Around today := by
  obtain ⟨hstart, hend⟩ := Date.far_from_ends hlow hhigh
  have hweekday := today.weekday_lt
  obtain ⟨thisWeek, hthisWeek, hthis⟩ := exists_shiftDate today (-(today.weekday : Int))
    (by omega) (by omega)
  obtain ⟨nextWeek, hnextWeek, hnext⟩ := exists_shiftDate thisWeek 7
    (by omega) (by omega)
  obtain ⟨nextSunday, hnextSunday, hsunday⟩ := exists_shiftDate nextWeek 6
    (by omega) (by omega)
  obtain ⟨lastWeek, hlastWeek, hlast⟩ := exists_shiftDate thisWeek (-7)
    (by omega) (by omega)
  obtain ⟨nextMonth, hdecember, hother, hmonth⟩ := exists_nextMonth hlow hhigh
  obtain ⟨nextYear, hnextYear, hyear⟩ := exists_dateOfParts (today.year + 1) 1
    (by omega) (by omega) (by decide) (by decide)
  refine ⟨{ today, thisWeek, nextWeek, nextSunday, lastWeek, nextMonth, nextYear
            thisMonth := today.firstOfMonth, thisYear := today.firstOfYear }, ?_, ?_⟩
  · simp only [Anchors.of, hthisWeek, hnextWeek, hnextSunday, hlastWeek, ok_bind]
    split
    case isTrue h =>
      -- In December the next month begins with the next year.
      obtain rfl : nextMonth = nextYear := Except.ok.inj ((hdecember h).symm.trans hnextYear)
      rw [hnextYear]
      rfl
    case isFalse h =>
      rw [hother h, ok_bind, hnextYear]
      rfl
  · exact
      { today_eq := rfl
        thisWeek := by rw [hthis]; omega
        nextWeek := by rw [hnext, hthis]; omega
        nextSunday := by rw [hsunday, hnext, hthis]; omega
        lastWeek := by rw [hlast, hthis]; omega
        thisMonth := rfl
        nextMonth := hmonth
        thisYear := today.ordinal_firstOfYear
        nextYear := by rw [hyear]; exact Int.add_zero _ }

end

/-! ### The days of an interval -/

namespace DateInterval

/-- The days that belong to an interval around a given day, by their numbers. -/
def HoldsOn (today : Date) (day : Int) : DateInterval → Prop
  | .today => day = today.ordinal
  | .tomorrow => day = today.ordinal + 1
  | .yesterday => day = today.ordinal - 1
  | .earlierThisWeek => today.ordinal - today.weekday ≤ day ∧ day < today.ordinal
  | .laterThisWeek => today.ordinal + 2 ≤ day ∧ day < today.ordinal - today.weekday + 7
  | .nextWeek => today.ordinal - today.weekday + 7 ≤ day ∧ day < today.ordinal - today.weekday + 14
  | .lastWeek => today.ordinal - today.weekday - 7 ≤ day ∧ day < today.ordinal - today.weekday
  | .earlierThisMonth =>
    today.firstOfMonth.ordinal ≤ day ∧ day < today.ordinal - today.weekday - 7
  | .laterThisMonth =>
    today.ordinal - today.weekday + 14 ≤ day
      ∧ day < today.firstOfMonth.ordinal + Date.daysInMonth today.year today.month
  | .earlierThisYear =>
    Date.daysBeforeYear today.year ≤ day ∧ day < today.firstOfMonth.ordinal
  | .laterThisYear =>
    today.firstOfMonth.ordinal + Date.daysInMonth today.year today.month ≤ day
      ∧ day < Date.daysBeforeYear (today.year + 1)
  | .priorThisYear => day < Date.daysBeforeYear today.year
  | .beyondThisYear => Date.daysBeforeYear (today.year + 1) ≤ day

/-- A span of days contains the moments from the first day up to the last one. -/
theorem contains_days {lower upper : Date} {moment : DateTime} :
    (DateSpan.days lower upper).contains moment = true
      ↔ lower.ordinal ≤ moment.date.ordinal ∧ moment.date.ordinal < upper.ordinal := by
  have hupper := DateTime.midnight_le_iff upper moment
  simp only [DateSpan.days, DateSpan.contains, Option.all_some, Bool.and_eq_true,
    decide_eq_true_eq, DateTime.midnight_le_iff lower moment]
  omega

/-- An interval with bounds that enclose the days that belong to it. -/
theorem exists_span_of_days {today lower upper : Date} {anchors : Anchors}
    {interval : DateInterval} (hspan : interval.span anchors = .ok (.days lower upper))
    (hdays : ∀ day, interval.HoldsOn today day ↔ lower.ordinal ≤ day ∧ day < upper.ordinal) :
    ∃ span, interval.span anchors = .ok span
      ∧ ∀ moment : DateTime,
        span.contains moment = true ↔ interval.HoldsOn today moment.date.ordinal :=
  ⟨_, hspan, fun _ => contains_days.trans (hdays _).symm⟩

/-- **An interval has bounds, and they enclose just the days that belong to it.** -/
theorem exists_bounds {today : Date} (hlow : Date.minYear < today.year)
    (hhigh : today.year < Date.maxYear) (interval : DateInterval) :
    ∃ span, interval.bounds today = .ok span
      ∧ ∀ moment : DateTime,
        span.contains moment = true ↔ interval.HoldsOn today moment.date.ordinal := by
  obtain ⟨anchors, hanchors, around⟩ := exists_anchors hlow hhigh
  obtain ⟨hstart, hend⟩ := Date.far_from_ends hlow hhigh
  have hweekday := today.weekday_lt
  -- The days that are not bounds of the others are counted to when they are asked for.
  obtain ⟨yesterday, hyesterday, hpred⟩ := exists_shiftDate today (-1)
    (by omega) (by omega)
  obtain ⟨tomorrow, htomorrow, hsucc⟩ := exists_shiftDate today 1
    (by omega) (by omega)
  obtain ⟨after, hafter, htwo⟩ := exists_shiftDate today 2
    (by omega) (by omega)
  obtain ⟨monday, hmonday, hnext⟩ := exists_shiftDate anchors.nextSunday 1
    (by rw [around.nextSunday]; omega) (by rw [around.nextSunday]; omega)
  rw [around.nextSunday] at hnext
  obtain ⟨rfl, hthisWeek, hnextWeek, -, hlastWeek, hthisMonth, hnextMonth, hthisYear, hnextYear⟩ :=
    around
  rw [bounds, hanchors, ok_bind]
  cases interval with
  | today =>
    refine exists_span_of_days (by rw [span, htomorrow]; rfl) fun day => ?_
    rw [HoldsOn]
    omega
  | tomorrow =>
    refine exists_span_of_days (by rw [span, htomorrow, ok_bind, hafter]; rfl) fun day => ?_
    rw [HoldsOn]
    omega
  | yesterday =>
    refine exists_span_of_days (by rw [span, hyesterday]; rfl) fun day => ?_
    rw [HoldsOn]
    omega
  | earlierThisWeek =>
    refine exists_span_of_days rfl fun day => ?_
    rw [HoldsOn, hthisWeek]
  | laterThisWeek =>
    refine exists_span_of_days (by rw [span, hafter]; rfl) fun day => ?_
    rw [HoldsOn, htwo, hnextWeek]
  | nextWeek =>
    refine exists_span_of_days (by rw [span, hmonday]; rfl) fun day => ?_
    rw [HoldsOn]
    omega
  | lastWeek =>
    refine exists_span_of_days rfl fun day => ?_
    rw [HoldsOn, hthisWeek, hlastWeek]
  | earlierThisMonth =>
    refine exists_span_of_days rfl fun day => ?_
    rw [HoldsOn, hthisMonth, hlastWeek]
  | laterThisMonth =>
    refine exists_span_of_days (by rw [span, hmonday]; rfl) fun day => ?_
    rw [HoldsOn]
    omega
  | earlierThisYear =>
    refine exists_span_of_days rfl fun day => ?_
    rw [HoldsOn, hthisYear, hthisMonth]
  | laterThisYear =>
    refine exists_span_of_days rfl fun day => ?_
    rw [HoldsOn, hnextMonth, hnextYear]
  | priorThisYear =>
    refine ⟨_, rfl, fun moment => ?_⟩
    have hyear := DateTime.midnight_le_iff anchors.thisYear moment
    simp only [DateSpan.contains, Option.all_none, Option.all_some, Bool.true_and,
      decide_eq_true_eq, HoldsOn]
    omega
  | beyondThisYear =>
    refine ⟨_, rfl, fun moment => ?_⟩
    have hyear := DateTime.midnight_le_iff anchors.nextYear moment
    simp only [DateSpan.contains, Option.all_none, Option.all_some, Bool.and_true,
      decide_eq_true_eq, HoldsOn]
    omega

/-! ### Past, present and future -/

/-- The moment lies within the bounds of the interval around the given day. -/
def Covers (interval : DateInterval) (today : Date) (moment : DateTime) : Prop :=
  ∃ span, interval.bounds today = .ok span ∧ span.contains moment = true

/-- The intervals before the current day. -/
def past : List DateInterval :=
  [.yesterday, .earlierThisWeek, .lastWeek, .earlierThisMonth, .earlierThisYear, .priorThisYear]

/-- The intervals after the current day. -/
def future : List DateInterval :=
  [.tomorrow, .laterThisWeek, .nextWeek, .laterThisMonth, .laterThisYear, .beyondThisYear]

section

variable {today : Date} (hlow : Date.minYear < today.year) (hhigh : today.year < Date.maxYear)
include hlow hhigh

/-- An interval covers the moments of the days that belong to it. -/
theorem covers_iff (interval : DateInterval) (moment : DateTime) :
    interval.Covers today moment ↔ interval.HoldsOn today moment.date.ordinal := by
  obtain ⟨span, hspan, hcontains⟩ := exists_bounds hlow hhigh interval
  constructor
  · rintro ⟨span', hspan', hmoment⟩
    cases hspan.symm.trans hspan'
    exact (hcontains moment).1 hmoment
  · intro hday
    exact ⟨span, hspan, (hcontains moment).2 hday⟩

end

/-- Every day belongs to some interval. -/
theorem exists_holdsOn (today : Date) (day : Int) :
    ∃ interval : DateInterval, interval.HoldsOn today day := by
  have hwithin := today.ordinal_within
  -- The earlier and the later bounds are met one after the other, from the years to the days.
  by_cases hprior : day < Date.daysBeforeYear today.year
  · exact ⟨.priorThisYear, hprior⟩
  by_cases hyear : day < today.firstOfMonth.ordinal
  · exact ⟨.earlierThisYear, by omega, hyear⟩
  by_cases hmonth : day < today.ordinal - today.weekday - 7
  · exact ⟨.earlierThisMonth, by omega, hmonth⟩
  by_cases hlast : day < today.ordinal - today.weekday
  · exact ⟨.lastWeek, by omega, hlast⟩
  by_cases hearlier : day < today.ordinal
  · exact ⟨.earlierThisWeek, by omega, hearlier⟩
  by_cases hbeyond : Date.daysBeforeYear (today.year + 1) ≤ day
  · exact ⟨.beyondThisYear, hbeyond⟩
  by_cases hlaterYear : today.firstOfMonth.ordinal + Date.daysInMonth today.year today.month ≤ day
  · exact ⟨.laterThisYear, hlaterYear, by omega⟩
  by_cases hlaterMonth : today.ordinal - today.weekday + 14 ≤ day
  · exact ⟨.laterThisMonth, hlaterMonth, by omega⟩
  by_cases hnext : today.ordinal - today.weekday + 7 ≤ day
  · exact ⟨.nextWeek, hnext, by omega⟩
  by_cases hlater : today.ordinal + 2 ≤ day
  · exact ⟨.laterThisWeek, hlater, by omega⟩
  by_cases htomorrow : today.ordinal + 1 ≤ day
  · exact ⟨.tomorrow, show day = today.ordinal + 1 by omega⟩
  · exact ⟨.today, show day = today.ordinal by omega⟩

/-- An interval to which a day belongs is in the past, the present or the future, as the day is. -/
theorem HoldsOn.tense {today : Date} {day : Int} {interval : DateInterval}
    (h : interval.HoldsOn today day) :
    interval ∈ past ∧ day < today.ordinal
      ∨ interval = .today ∧ day = today.ordinal
      ∨ interval ∈ future ∧ today.ordinal < day := by
  have hwithin := today.ordinal_within
  have hweekday := today.weekday_lt
  cases interval with
  | today => exact Or.inr (Or.inl ⟨rfl, h⟩)
  | yesterday | earlierThisWeek | lastWeek | earlierThisMonth | earlierThisYear | priorThisYear =>
    rw [HoldsOn] at h
    exact Or.inl ⟨by decide, by omega⟩
  | tomorrow | laterThisWeek | nextWeek | laterThisMonth | laterThisYear | beyondThisYear =>
    rw [HoldsOn] at h
    exact Or.inr (Or.inr ⟨by decide, by omega⟩)

/-- **The intervals cover all moments, and past, present and future do not mix.** Around every day
    but those of the first and the last year, all intervals have bounds and every moment lies within
    those of one. A moment of the day itself lies within those of `today` only, an earlier one
    only within those of past intervals, and one from the next midnight on only within those
    of future ones. -/
theorem bounds_coverage {today : Date} (hlow : -262142 ≤ today.year)
    (hhigh : today.year ≤ 262141) :
    (∀ interval : DateInterval, ∃ span, interval.bounds today = .ok span)
      ∧ ∃ tomorrow, today.succ? = some tomorrow
        ∧ ∀ moment : DateTime,
          (∃ interval : DateInterval, interval.Covers today moment)
          ∧ (moment.date = today →
              ∀ interval : DateInterval, interval.Covers today moment ↔ interval = .today)
          ∧ (moment.rank < (DateTime.midnight today).rank →
              ∀ interval : DateInterval, interval.Covers today moment → interval ∈ past)
          ∧ ((DateTime.midnight tomorrow).rank ≤ moment.rank →
              ∀ interval : DateInterval, interval.Covers today moment → interval ∈ future) := by
  have hfirst : Date.minYear < today.year := show -262143 < today.year by omega
  have hlast : today.year < Date.maxYear := show today.year < 262142 by omega
  obtain ⟨hstart, hend⟩ := Date.far_from_ends hfirst hlast
  obtain ⟨tomorrow, htomorrow⟩ := Date.exists_succ? (show today.ordinal + 1 < _ by omega)
  have hnext := Date.ordinal_succ? htomorrow
  refine ⟨fun interval => ?_, tomorrow, htomorrow, fun moment => ?_⟩
  · obtain ⟨span, hspan, -⟩ := exists_bounds hfirst hlast interval
    exact ⟨span, hspan⟩
  have htoday := DateTime.midnight_le_iff today moment
  have hmidnight := DateTime.midnight_le_iff tomorrow moment
  simp only [covers_iff hfirst hlast]
  refine ⟨exists_holdsOn today moment.date.ordinal, fun hday interval => ⟨fun h => ?_, ?_⟩,
    fun hbefore interval h => ?_, fun hafter interval h => ?_⟩
  · rcases h.tense with ⟨-, hlt⟩ | ⟨rfl, -⟩ | ⟨-, hlt⟩
    · rw [hday] at hlt
      omega
    · rfl
    · rw [hday] at hlt
      omega
  · rintro rfl
    exact congrArg Date.ordinal hday
  · rcases h.tense with ⟨hpast, -⟩ | ⟨-, heq⟩ | ⟨-, hlt⟩
    · exact hpast
    · omega
    · omega
  · rcases h.tense with ⟨-, hlt⟩ | ⟨-, heq⟩ | ⟨hfuture, -⟩
    · omega
    · omega
    · exact hfuture

/-- A Sunday, two days before the end of the month and of the year. -/
def lastSunday : Date :=
  ⟨2024, 12, 29, by decide⟩

/-- A leap second at the end of the year. -/
def leapSecond : DateTime :=
  ⟨⟨2024, 12, 31, by decide⟩, 23, 59, 59, 1999999999, by decide⟩

theorem bounds_coverage_lastSunday :
    -262142 ≤ lastSunday.year ∧ lastSunday.year ≤ 262141
      ∧ (∃ interval : DateInterval, interval.Covers lastSunday leapSecond)
      ∧ ∀ interval : DateInterval, interval.Covers lastSunday leapSecond → interval ∈ future := by
  have hlow : -262142 ≤ lastSunday.year := by decide
  have hhigh : lastSunday.year ≤ 262141 := by decide
  obtain ⟨-, tomorrow, htomorrow, hmoments⟩ := bounds_coverage hlow hhigh
  obtain ⟨hsome, -, -, hafter⟩ := hmoments leapSecond
  cases htomorrow
  exact ⟨hlow, hhigh, hsome, hafter (by decide)⟩

end DateInterval

end RecordFilter
