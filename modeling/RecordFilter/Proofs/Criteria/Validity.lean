import RecordFilter.Proofs.Condition.Binding
import RecordFilter.Validity

namespace RecordFilter

/-!
# The quick check of a filter never changes an answer

`Criteria.isSatisfied` first looks whether the properties of a filter exist on the type, and of a dotted
name only at the first segment. Binding the filter follows whole paths.

* `Criteria.isValidOn_of_compile` — a filter that can be bound to a type passes the quick check.
* `Criteria.isSatisfied_iff_check`, `isSatisfied_iff_evaluate` — so the quick check turns down what could not
  be answered anyway.
* `Criteria.isSatisfied_iff_compiled` — a record satisfies a filter if the filter can be bound and holds,
  and every failure is a no.
-/

namespace Criteria

variable {setting : Setting} {type : RecordType} {criteria : Criteria} {record : Record}

/-- A name that leads to a member begins with a member of the type. -/
theorem hasFirstMember_of_resolve {name : String} {target : Target}
    (h : Target.resolve type name = .ok target) : hasFirstMember type name = true := by
  obtain ⟨hpath, hmember⟩ := Target.resolve_eq_ok.1 h
  obtain ⟨first, rest, hsplit, hfirst⟩ := MemberPath.splitOn_of_parse hpath
  have hfind := RecordType.isSome_find?_of_resolvePath hmember
  unfold hasFirstMember
  rw [hsplit]
  dsimp only
  rw [← hfirst, hfind]

/-! ### The quick check -/

/-- **A filter that can be bound to a type passes the quick check on it**, and so does the filter inside
    of every test of items on the type of the items. -/
theorem isValidOn_of_compile {condition : Condition}
    (h : Condition.compile setting type criteria = .ok condition) :
    criteria.isValidOn type = true := by
  replace h := Condition.compile_eq_ok.1 h
  induction h with
  | and _ _ ihl ihr => rw [isValidOn, ihl, ihr, Bool.and_self]
  | or _ _ ihl ihr => rw [isValidOn, ihl, ihr, Bool.and_self]
  | not _ ih => exact ih
  | property ht => exact hasFirstMember_of_resolve ht
  | @any type itemType name item target condition ht hk _ ih =>
    have hresolve := RecordType.resolve_eq_ok.2 (Target.resolve_eq_ok.1 ht)
    have hkind : target.member.kind = .collection itemType := hk
    rw [isValidOn, hasFirstMember_of_resolve ht, Bool.true_and, hresolve]
    dsimp only
    -- Only a collection gives the filter of the items a type.
    rw [hkind]
    exact ih

/-- A filter has an answer on a record if it can be bound and the condition has that answer. -/
theorem check_eq_ok {answer : Bool} :
    check setting type criteria record = .ok answer
      ↔ ∃ condition, Condition.compile setting type criteria = .ok condition
          ∧ condition.evaluate record = .ok answer :=
  bind_eq_ok

/-- **The quick check never changes an answer**: a record satisfies a filter exactly if the answer is
    yes without it. -/
theorem isSatisfied_iff_check :
    isSatisfied setting type criteria record = true
      ↔ check setting type criteria record = .ok true := by
  unfold isSatisfied
  rw [Bool.and_eq_true]
  constructor
  · rintro ⟨_, h⟩
    cases hcheck : check setting type criteria record with
    | error fault =>
      rw [hcheck] at h
      cases h
    | ok answer =>
      rw [hcheck] at h
      rw [show answer = true from h]
  · intro h
    obtain ⟨condition, hcompile, _⟩ := check_eq_ok.1 h
    rw [h]
    exact ⟨isValidOn_of_compile hcompile, rfl⟩

/-- Of a filter that can be bound, the condition decides. -/
theorem isSatisfied_iff_evaluate {condition : Condition}
    (h : Condition.compile setting type criteria = .ok condition) :
    isSatisfied setting type criteria record = true ↔ condition.evaluate record = .ok true := by
  rw [isSatisfied_iff_check, check, h, ok_bind]

/-- What has no answer, or another one than yes, is not satisfied. -/
theorem isSatisfied_eq_false (h : check setting type criteria record ≠ .ok true) :
    isSatisfied setting type criteria record = false := by
  rw [Bool.eq_false_iff]
  intro hsatisfied
  exact h (isSatisfied_iff_check.1 hsatisfied)

/-- **A record satisfies a filter exactly if the filter can be bound to the type and the condition holds
    of the record.** The quick check turns no such filter down, and whatever fails, the check, the
    binding or the evaluation, the answer is no. -/
theorem isSatisfied_iff_compiled (setting : Setting) (type : RecordType) (criteria : Criteria)
    (record : Record) :
    (∀ condition, Condition.compile setting type criteria = .ok condition →
        criteria.isValidOn type = true)
      ∧ (isSatisfied setting type criteria record = true
          ↔ ∃ condition, Condition.compile setting type criteria = .ok condition
              ∧ condition.evaluate record = .ok true)
      ∧ (criteria.isValidOn type = false → isSatisfied setting type criteria record = false)
      ∧ (∀ fault, Condition.compile setting type criteria = .error fault →
          isSatisfied setting type criteria record = false)
      ∧ ∀ condition fault, Condition.compile setting type criteria = .ok condition →
          condition.evaluate record = .error fault →
            isSatisfied setting type criteria record = false := by
  refine ⟨fun _ h => isValidOn_of_compile h, isSatisfied_iff_check.trans check_eq_ok, ?_, ?_, ?_⟩
  · intro hinvalid
    rw [isSatisfied, hinvalid, Bool.false_and]
  · intro fault hcompile
    refine isSatisfied_eq_false ?_
    rw [check, hcompile]
    exact fun h => by cases h
  · intro condition fault hcompile hevaluate
    refine isSatisfied_eq_false ?_
    rw [check, hcompile, ok_bind, hevaluate]
    exact fun h => by cases h

end Criteria

end RecordFilter
