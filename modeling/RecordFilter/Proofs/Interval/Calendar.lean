import RecordFilter.Condition.Evaluate
import RecordFilter.Proofs.Calendar.Periods
import RecordFilter.Proofs.Condition.Binding
import RecordFilter.Proofs.Interval.Coverage

namespace RecordFilter

/-!
# What intervals mean in the calendar

* `DateInterval.Includes` — the days that belong to an interval around a given day, told by their weeks,
  months and years.
* `DateInterval.includes_iff_holdsOn` — they are the days between the bounds.
* `Condition.evaluate_ofSpan` — the condition for a span of time holds of the moments in it.
* `DateInterval.bounds_meaning` — an interval, and the condition that it is bound to, holds of the moments
  of just those days.
-/

namespace DateInterval

/-! ### Days of the calendar -/

/-- The days that belong to an interval around a given day. -/
def Includes (today day : Date) : DateInterval → Prop
  | .today => day = today
  | .tomorrow => today.succ? = some day
  | .yesterday => day.succ? = some today
  | .earlierThisWeek => day.week = today.week ∧ day.ordinal < today.ordinal
  | .laterThisWeek => day.week = today.week ∧ today.ordinal + 2 ≤ day.ordinal
  | .nextWeek => day.week = today.week + 1
  | .lastWeek => day.week = today.week - 1
  | .earlierThisMonth =>
    (day.year = today.year ∧ day.month = today.month) ∧ day.week < today.week - 1
  | .laterThisMonth =>
    (day.year = today.year ∧ day.month = today.month) ∧ today.week + 1 < day.week
  | .earlierThisYear => day.year = today.year ∧ day.month < today.month
  | .laterThisYear => day.year = today.year ∧ today.month < day.month
  | .priorThisYear => day.year < today.year
  | .beyondThisYear => today.year < day.year

/-- **The days that belong to an interval are those between its bounds.** -/
theorem includes_iff_holdsOn (interval : DateInterval) (today day : Date) :
    interval.Includes today day ↔ interval.HoldsOn today day.ordinal := by
  have hweek := today.ordinal_eq_week
  have hweekday := today.weekday_lt
  have hweek' := day.ordinal_eq_week
  have hweekday' := day.weekday_lt
  have hwithin := today.ordinal_within
  cases interval with
  | today => exact Date.ordinal_inj.symm
  | tomorrow => exact Date.succ?_eq_some_iff
  | yesterday =>
    rw [Includes, HoldsOn, Date.succ?_eq_some_iff]
    omega
  | earlierThisWeek | laterThisWeek | nextWeek | lastWeek =>
    rw [Includes, HoldsOn]
    omega
  -- The day lies on this side of the given one, so of the bounds of the month only one is needed.
  | earlierThisMonth | laterThisMonth =>
    rw [Includes, HoldsOn, Date.sameMonth_iff]
    omega
  | earlierThisYear => exact Date.earlierMonth_iff day today
  | laterThisYear => exact Date.laterMonth_iff day today
  | priorThisYear => exact day.year_lt_iff today.year
  | beyondThisYear => exact day.lt_year_iff today.year

end DateInterval

/-! ### Conditions on moments -/

/-- Whether a relation holds of two integers. -/
def Relation.orders : Relation → Int → Int → Bool
  | .equal, a, b => a = b
  | .notEqual, a, b => a ≠ b
  | .greater, a, b => b < a
  | .greaterOrEqual, a, b => b ≤ a
  | .less, a, b => a < b
  | .lessOrEqual, a, b => a ≤ b

/-- A relation holds of how two integers compare if it holds of the integers. -/
theorem Relation.holds_compare (relation : Relation) (a b : Int) :
    relation.holds (some (compare a b)) = relation.orders a b := by
  rcases Int.lt_trichotomy a b with h | rfl | h
  · rw [Int.compare_eq_lt.2 h]
    cases relation <;> simp [holds, orders, bne] <;> omega
  · rw [Int.compare_eq_eq.2 rfl]
    cases relation <;> simp [holds, orders]
  · rw [Int.compare_eq_gt.2 h]
    cases relation <;> simp [holds, orders, bne] <;> omega

namespace Condition

variable {record : Record} {path : MemberPath} {moment : DateTime}

/-- A member that is a moment compares with another moment as the two stand in time. -/
theorem evaluate_compare_dateTime (hread : readMember record path = .ok (.dateTime moment))
    (relation : Relation) (bound : DateTime) :
    (Condition.compare path relation (.dateTime bound)).evaluate record
      = .ok (relation.orders moment.rank bound.rank) := by
  rw [evaluate, hread, ok_bind, ← Relation.holds_compare]
  rfl

/-- **The condition for a span of time holds of the moments in it.** -/
theorem evaluate_ofSpan {target : Target}
    (hread : readMember record target.path = .ok (.dateTime moment)) (span : DateSpan) :
    (ofSpan target span).evaluate record = .ok (span.contains moment) := by
  have hbound : ∀ relation bound, (target.compare relation (.dateTime bound)).evaluate record
      = .ok (relation.orders moment.rank bound.rank) := evaluate_compare_dateTime hread
  obtain ⟨lower, upper⟩ := span
  -- A bound is left out where the span is open.
  cases lower with
  | none =>
    cases upper with
    | none => rfl
    | some upper => exact hbound .less upper
  | some lower =>
    cases upper with
    | none =>
      rw [DateSpan.contains, Option.all_none, Bool.and_true]
      exact hbound .greaterOrEqual lower
    | some upper =>
      show (Condition.and (target.compare .greaterOrEqual _) (target.compare .less _)).evaluate record
        = .ok (decide (lower.rank ≤ moment.rank) && decide (moment.rank < upper.rank))
      rw [evaluate, hbound, hbound, ok_bind, Relation.orders, Relation.orders]
      cases decide (lower.rank ≤ moment.rank) <;> rfl

/-- A test for an interval is bound to the condition for the span that the interval means. -/
theorem compile_within {setting : Setting} {type : RecordType} {name : String} {target : Target}
    {interval : DateInterval} {span : DateSpan} (ht : Target.resolve type name = .ok target)
    (hkind : target.kind = .dateTime) (hspan : interval.bounds setting.today = .ok span) :
    compile setting type (.property name (.within interval)) = .ok (ofSpan target span) := by
  rw [compile_property ht, compileTest, compileInterval, hkind]
  dsimp only
  rw [hspan]
  rfl

end Condition

namespace DateInterval

/-- **Intervals mean days of the calendar.** Around every day but those of the first and the last year, each
    interval has bounds, and they contain the moments of the days that belong to it and no others. A test
    for the interval can be bound to every member that holds moments, and the condition has an answer on
    every record that has a moment there: whether the day of the moment belongs to the interval. -/
theorem bounds_meaning {today : Date} (hlow : -262142 ≤ today.year) (hhigh : today.year ≤ 262141)
    (interval : DateInterval) :
    ∃ span, interval.bounds today = .ok span
      ∧ ∀ moment : DateTime,
        (span.contains moment = true ↔ interval.Includes today moment.date)
        ∧ ∀ culture type name target record, Target.resolve type name = .ok target →
          target.kind = .dateTime → readMember record target.path = .ok (.dateTime moment) →
            ∃ condition,
              Condition.compile ⟨culture, today⟩ type (.property name (.within interval))
                = .ok condition
              ∧ ∃ answer, condition.evaluate record = .ok answer
                ∧ (answer = true ↔ interval.Includes today moment.date) := by
  have hfirst : Date.minYear < today.year := show -262143 < today.year by omega
  have hlast : today.year < Date.maxYear := show today.year < 262142 by omega
  obtain ⟨span, hspan, hcontains⟩ := exists_bounds hfirst hlast interval
  refine ⟨span, hspan, fun moment => ?_⟩
  have hmeaning : span.contains moment = true ↔ interval.Includes today moment.date :=
    (hcontains moment).trans (includes_iff_holdsOn interval today moment.date).symm
  refine ⟨hmeaning, fun culture type name target record ht hkind hread => ?_⟩
  exact ⟨_, Condition.compile_within ht hkind hspan, _, Condition.evaluate_ofSpan hread span, hmeaning⟩

/-- A Monday, two days before the end of the year. -/
def lastMonday : Date :=
  ⟨2024, 12, 30, by decide⟩

/-- The last moment of the Sunday of that week, in the next year. -/
def endOfWeek : DateTime :=
  ⟨⟨2025, 1, 5, by decide⟩, 23, 59, 59, 999999999, by decide⟩

/-- A type of records with a member that holds moments, inside of an object. -/
def deliveryType : RecordType :=
  ⟨"Delivery", [⟨"Order", .object ⟨"Order", [⟨"Due", .dateTime, false⟩]⟩, false⟩]⟩

/-- A record of the type with the moment. -/
def delivery (moment : DateTime) : Record := fun name =>
  if name = "Order" then
    some (.object fun name => if name = "Due" then some (.dateTime moment) else none)
  else none

/-- The week goes on over the end of the year, and the year does not. -/
theorem bounds_meaning_endOfWeek :
    -262142 ≤ lastMonday.year ∧ lastMonday.year ≤ 262141
      ∧ (∃ condition,
          Condition.compile ⟨.standard, lastMonday⟩ deliveryType
              (.property "Order.Due" (.within .laterThisWeek)) = .ok condition
            ∧ condition.evaluate (delivery endOfWeek) = .ok true)
      ∧ ∃ condition,
          Condition.compile ⟨.standard, lastMonday⟩ deliveryType
              (.property "Order.Due" (.within .laterThisYear)) = .ok condition
            ∧ condition.evaluate (delivery endOfWeek) = .ok false := by
  have hlow : -262142 ≤ lastMonday.year := by decide
  have hhigh : lastMonday.year ≤ 262141 := by decide
  obtain ⟨_, -, hweek⟩ := bounds_meaning hlow hhigh .laterThisWeek
  obtain ⟨_, -, hyear⟩ := bounds_meaning hlow hhigh .laterThisYear
  refine ⟨hlow, hhigh, ?_, ?_⟩
  · obtain ⟨condition, hcompile, answer, heval, hanswer⟩ :=
      (hweek endOfWeek).2 .standard deliveryType "Order.Due" _ (delivery endOfWeek) rfl rfl rfl
    refine ⟨condition, hcompile, ?_⟩
    rw [heval, hanswer.2 ⟨by decide, by decide⟩]
  · obtain ⟨condition, hcompile, answer, heval, hanswer⟩ :=
      (hyear endOfWeek).2 .standard deliveryType "Order.Due" _ (delivery endOfWeek) rfl rfl rfl
    refine ⟨condition, hcompile, ?_⟩
    have hnot : ¬ DateInterval.laterThisYear.Includes lastMonday endOfWeek.date :=
      fun h => absurd h.1 (by decide)
    rw [heval, Bool.eq_false_iff.2 fun h => hnot (hanswer.1 h)]

end DateInterval

end RecordFilter
