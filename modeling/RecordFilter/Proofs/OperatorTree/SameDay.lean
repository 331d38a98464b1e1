import RecordFilter.Proofs.Condition.Scan
import RecordFilter.Proofs.Interval.Calendar
import RecordFilter.Proofs.OperatorTree.RoundTrip

namespace RecordFilter

/-!
# Days of operator trees

A function of operator trees tests whether a property falls on one of some days. It becomes a row of
alternatives, one for each day, and each of them is a span of time from a midnight to the next one.

* `Date.last`, `Date.next` — the last day that dates reach, and the day after any other one.
* `OperatorTree.fallsOn` — the filter for one day.
* `OperatorTree.outcome_fallsOn` — it holds of the moments of that day, leap seconds included.
* `OperatorTree.isSameDay_meaning` — so the function holds of the moments of the given days, and not of null.
-/

namespace Date

/-- The last day that dates reach. -/
def last : Date :=
  ⟨maxYear, 12, 31, by decide⟩

/-- The next day. The last one has none, and stands for it. -/
def next (date : Date) : Date :=
  date.succ?.getD date

/-- Every day but the last one has a next day. -/
theorem succ?_eq_next {date : Date} (h : date ≠ last) : date.succ? = some date.next := by
  have hordinal : date.ordinal ≠ last.ordinal := fun heq => h (ordinal_inj.1 heq)
  have hlast : last.ordinal + 1 = daysBeforeYear (maxYear + 1) := by decide
  have hwithin := date.ordinal_within
  have hyear := daysBeforeYear_le (Int.add_le_add_right date.valid.2.1 1)
  obtain ⟨found, hfound⟩ := exists_succ? (show date.ordinal + 1 < _ by omega)
  rw [next, hfound, Option.getD_some]

end Date

namespace OperatorTree

/-! ### One day -/

/-- The filter that a property falls on a day: at its first moment or after it, and before that of the next
    day. -/
def fallsOn (name : String) (day : Date) : Criteria :=
  .and (.property name (.compare .greaterOrEqual (.dateTime (.midnight day))))
    (.property name (.compare .less (.dateTime (.midnight day.next))))

/-- The operand of a day is turned into the filter for the day, if there is a next day. -/
theorem onDay_value {name : String} (hname : IsPropertyName name) {moment : DateTime}
    (hlast : moment.date ≠ .last) :
    onDay name (.value (.dateTime moment)) = .ok (fallsOn name moment.date) := by
  simp only [onDay, scalarValue, ok_bind, Date.succ?_eq_next hlast, Criteria.ofTest_eq_ok hname]
  rfl

/-- The operands of days are turned into the filters for the days. -/
theorem mapM_onDay {name : String} (hname : IsPropertyName name) {days : List DateTime}
    (hlast : ∀ day ∈ days, day.date ≠ .last) :
    (days.map fun day => OperatorTree.value (.dateTime day)).mapM (onDay name)
      = .ok (days.map fun day => fallsOn name day.date) := by
  rw [List.mapM_map]
  exact mapM_eq_ok fun day hmem => onDay_value hname (hlast day hmem)

section

variable {setting : Setting} {type : RecordType} {name : String} {target : Target}
  (ht : Target.resolve type name = .ok target) (hkind : target.kind = .dateTime)

include ht hkind

/-- A member that holds moments may be compared with any moment. -/
theorem compile_moment {operator : ComparisonOperator} {relation : Relation}
    (hrelation : operator.relation? = some relation) (moment : DateTime) :
    Condition.compile setting type (.property name (.compare operator (.dateTime moment)))
      = .ok (target.compare relation (.dateTime moment)) := by
  have hcoerce : Value.coerce? setting.culture target.member (.dateTime moment)
      = some (.dateTime moment) := by
    unfold Value.coerce?
    rw [show target.member.kind = .dateTime from hkind]
  rw [Condition.compile_property ht, Condition.compileTest, hrelation]
  refine Condition.compileRelation_eq_ok.2 ⟨_, hcoerce, ?_, rfl⟩
  rw [hkind]
  exact Bool.and_false _

/-- The filter for a day is bound to the condition for the span of the day. -/
theorem compile_fallsOn (day : Date) :
    Condition.compile setting type (fallsOn name day)
      = .ok (Condition.ofSpan target (.days day day.next)) := by
  rw [fallsOn, Condition.compile, compile_moment ht hkind rfl, compile_moment ht hkind rfl]
  rfl

/-- **The filter for a day holds of the moments of the day.** Of null it does not hold. -/
theorem outcome_fallsOn {day : Date} (hlast : day ≠ .last) {record : Record} {field : FieldValue}
    (hread : readMember record target.path = .ok field)
    (hfield : field = .null ∨ ∃ moment, field = .dateTime moment) :
    ∃ answer, (fallsOn name day).outcome setting type record = .ok (.ok answer)
      ∧ (answer = true ↔ ∃ moment, field = .dateTime moment ∧ day = moment.date) := by
  unfold Criteria.outcome
  rw [compile_fallsOn ht hkind]
  rcases hfield with rfl | ⟨moment, rfl⟩
  · refine ⟨false, congrArg Except.ok ?_, by simp⟩
    show (Condition.and (.compare target.path .greaterOrEqual _) _).evaluate record = _
    rw [Condition.evaluate, Condition.evaluate, hread]
    rfl
  · refine ⟨_, congrArg Except.ok (Condition.evaluate_ofSpan hread _), ?_⟩
    have hnext := Date.ordinal_succ? (Date.succ?_eq_next hlast)
    simp only [DateInterval.contains_days, FieldValue.dateTime.injEq, exists_eq_left',
      ← Date.ordinal_inj]
    omega

end

/-! ### Several days -/

/-- The function for some days becomes the alternatives of falling on one of them. -/
theorem toCriteria_isSameDay {name : String} (hname : IsPropertyName name) (first : DateTime)
    (rest : List DateTime) (hlast : ∀ day ∈ first :: rest, day.date ≠ .last) :
    (function .isSameDay (.property name
        :: (first :: rest).map fun day => .value (.dateTime day))).toCriteria
      = .ok ((rest.map fun day => fallsOn name day.date).foldl Connective.or.join
          (fallsOn name first.date)) := by
  rw [toCriteria]
  show onSameDay name ((first :: rest).map fun day => OperatorTree.value (.dateTime day)) = _
  rw [onSameDay, mapM_onDay hname hlast]
  rfl

/-- **The function for some days means that a property falls on one of them.** It describes a filter, provided
    that the last day that dates reach is not among them. The filter can be bound to every member that holds
    moments. On a record that has a moment there it holds if the day of the moment is one of the days, and on a
    record that has null there it does not hold. -/
theorem isSameDay_meaning {name : String} (hname : IsPropertyName name) {days : List DateTime}
    (hne : days ≠ []) (hlast : ∀ day ∈ days, day.date ≠ .last) :
    ∃ criteria, (function .isSameDay (.property name
        :: days.map fun day => .value (.dateTime day))).toCriteria = .ok criteria
      ∧ ∀ setting type target, Target.resolve type name = .ok target → target.kind = .dateTime →
        ∃ condition, Condition.compile setting type criteria = .ok condition
          ∧ ∀ record field, readMember record target.path = .ok field →
            (field = .null ∨ ∃ moment, field = .dateTime moment) →
              ∃ answer, condition.evaluate record = .ok answer
                ∧ (answer = true
                  ↔ ∃ moment, field = .dateTime moment ∧ ∃ day ∈ days, day.date = moment.date) := by
  obtain ⟨first, rest, rfl⟩ := List.exists_cons_of_ne_nil hne
  refine ⟨_, toCriteria_isSameDay hname first rest hlast, fun setting type target ht hkind => ?_⟩
  obtain ⟨condition, hcondition⟩ := (Criteria.exists_compile_foldl_join .or).2
    fun day (_ : day ∈ first :: rest) => ⟨_, compile_fallsOn ht hkind day.date⟩
  refine ⟨condition, hcondition, fun record field hread hfield => ?_⟩
  obtain ⟨answer, hanswer, hiff⟩ := Criteria.evaluate_alternatives hcondition
    fun day hmem => outcome_fallsOn ht hkind (hlast day hmem) hread hfield
  refine ⟨answer, hanswer, hiff.trans ?_⟩
  constructor
  · rintro ⟨day, hmem, moment, rfl, hday⟩
    exact ⟨moment, rfl, day, hmem, hday⟩
  · rintro ⟨moment, rfl, day, hmem, hday⟩
    exact ⟨day, hmem, moment, rfl, hday⟩

/-- A leap second at the end of a month. -/
def lateInJune : DateTime :=
  ⟨⟨2015, 6, 30, by decide⟩, 23, 59, 59, 1250000000, by decide⟩

/-- The leap second belongs to the second of two days, and the midnight after it to neither. -/
theorem isSameDay_meaning_leapSecond :
    IsPropertyName "Order.Due" ∧ [DateInterval.endOfWeek, lateInJune] ≠ []
      ∧ (∀ day ∈ [DateInterval.endOfWeek, lateInJune], day.date ≠ .last)
      ∧ ∃ criteria, (function .isSameDay (.property "Order.Due"
          :: [DateInterval.endOfWeek, lateInJune].map fun day => .value (.dateTime day))).toCriteria
            = .ok criteria
        ∧ ∃ condition,
            Condition.compile ⟨.standard, DateInterval.lastMonday⟩ DateInterval.deliveryType criteria
              = .ok condition
          ∧ condition.evaluate (DateInterval.delivery lateInJune) = .ok true
          ∧ condition.evaluate (DateInterval.delivery (.midnight lateInJune.date.next)) = .ok false := by
  have hname : IsPropertyName "Order.Due" := by decide
  have hne : [DateInterval.endOfWeek, lateInJune] ≠ [] := List.cons_ne_nil _ _
  have hlast : ∀ day ∈ [DateInterval.endOfWeek, lateInJune], day.date ≠ .last := by
    simp only [List.forall_mem_cons]
    exact ⟨by decide, by decide, List.forall_mem_nil _⟩
  obtain ⟨criteria, hcriteria, hmeaning⟩ := isSameDay_meaning hname hne hlast
  obtain ⟨condition, hcondition, hanswer⟩ := hmeaning ⟨.standard, DateInterval.lastMonday⟩
    DateInterval.deliveryType _ rfl rfl
  refine ⟨hname, hne, hlast, criteria, hcriteria, condition, hcondition, ?_, ?_⟩
  · obtain ⟨answer, heval, hiff⟩ := hanswer (DateInterval.delivery lateInJune) _ rfl (.inr ⟨_, rfl⟩)
    have hsame : ∃ day ∈ [DateInterval.endOfWeek, lateInJune], day.date = lateInJune.date :=
      ⟨lateInJune, by simp, rfl⟩
    rw [heval, hiff.2 ⟨lateInJune, rfl, hsame⟩]
  · obtain ⟨answer, heval, hiff⟩ :=
      hanswer (DateInterval.delivery (.midnight lateInJune.date.next)) _ rfl (.inr ⟨_, rfl⟩)
    have hno : answer ≠ true := by
      rw [Ne, hiff]
      rintro ⟨moment, heq, hsame⟩
      cases heq
      exact absurd hsame (by decide)
    rw [heval, Bool.eq_false_iff.2 hno]

end OperatorTree

end RecordFilter
