import RecordFilter.Condition.Compile
import RecordFilter.Proofs.Except
import RecordFilter.Proofs.Text.Pieces

namespace RecordFilter

open Text

/-!
# Where names lead

* `MemberPath.IsSegment`, `MemberPath.parse_eq_ok` — a dotted name is its segments, joined by dots.
* `RecordType.member_eq_ok`, `RecordType.resolve_eq_ok`, `Target.resolve_eq_ok` — what it takes that a
  member is found, that a dotted name leads to a member, and that it is the target of a test.
-/

/-! ### Segments -/

namespace MemberPath

/-- A text that can be one of the names in a path: it is not blank and has no dot. -/
def IsSegment (name : String) : Prop :=
  allBlank name.toList = false ∧ '.' ∉ name.toList

instance (name : String) : Decidable (IsSegment name) :=
  inferInstanceAs (Decidable (_ ∧ _))

variable {name : String} {path : MemberPath}

/-- The name of a path is cut into its segments. -/
theorem splitOn_text (h : ∀ segment ∈ path.segments, IsSegment segment) :
    splitOn '.' path.text.toList = path.segments.map String.toList := by
  rw [text, String.toList_ofList, chars]
  refine splitOn_intercalate (by simp [segments]) ?_
  rw [List.forall_mem_map]
  exact fun segment hsegment => (h segment hsegment).2

/-- **A dotted name is cut into the segments of a path that has this name.** -/
theorem parse_eq_ok :
    parse name = .ok path ↔ path.text = name ∧ ∀ segment ∈ path.segments, IsSegment segment := by
  constructor
  · intro h
    unfold parse at h
    dsimp only at h
    split at h
    case h_1 => cases h
    case h_2 first rest hsegments =>
      split at h
      case isTrue => cases h
      case isFalse hblank =>
        cases h
        have hall : (⟨first, rest⟩ : MemberPath).segments = (splitOn '.' name.toList).map String.ofList :=
          hsegments.symm
        constructor
        · rw [text, chars, hall, List.map_map]
          simp
        · rw [hall, List.forall_mem_map]
          intro piece hpiece
          simp only [Bool.not_eq_true, List.any_eq_false] at hblank
          rw [IsSegment, String.toList_ofList]
          exact ⟨by simpa using hblank piece hpiece, not_mem_of_mem_splitOn hpiece⟩
  · rintro ⟨rfl, hsegments⟩
    have hblank : (path.segments.map String.toList).any allBlank = false := by
      rw [List.any_eq_false, List.forall_mem_map]
      intro segment hsegment
      rw [(hsegments segment hsegment).1]
      exact Bool.false_ne_true
    unfold parse
    dsimp only
    rw [splitOn_text hsegments, hblank, List.map_map]
    simp [segments]

/-- A path begins with the first segment of its name. -/
theorem splitOn_of_parse (h : parse name = .ok path) :
    ∃ first rest, splitOn '.' name.toList = first :: rest ∧ path.first = String.ofList first := by
  obtain ⟨rfl, hsegments⟩ := parse_eq_ok.1 h
  exact ⟨_, _, splitOn_text hsegments, String.ofList_toList.symm⟩

end MemberPath

/-! ### Members -/

namespace RecordType

variable {type : RecordType} {name : String} {path : MemberPath} {member : Member}

/-- A member that is found is one of the members of the type, and it has the name. -/
theorem mem_of_find? (h : type.find? name = some member) :
    member ∈ type.members ∧ member.name = name := by
  have hname := List.find?_some h
  exact ⟨List.mem_of_find?_eq_some h, by simpa using hname⟩

/-- A member is found if the type has one of the name. -/
theorem member_eq_ok : type.member name = .ok member ↔ type.find? name = some member := by
  unfold RecordType.member
  cases type.find? name with
  | none => simp
  | some found => simp

/-- A name leads to a member if it writes the path and the path leads to the member. -/
theorem resolve_eq_ok :
    type.resolve name = .ok (path, member)
      ↔ MemberPath.parse name = .ok path ∧ type.resolvePath path = .ok member := by
  unfold resolve
  rw [bind_eq_ok]
  constructor
  · rintro ⟨written, hpath, h⟩
    obtain ⟨found, hmember, h⟩ := bind_eq_ok.1 h
    cases h
    exact ⟨hpath, hmember⟩
  · rintro ⟨hpath, hmember⟩
    exact ⟨path, hpath, by rw [hmember]; rfl⟩

/-- A path leads on from a member of the type, if it leads anywhere. -/
theorem isSome_find?_of_resolvePath (h : type.resolvePath path = .ok member) :
    (type.find? path.first).isSome = true := by
  have hfirst : ∃ found, type.member path.first = .ok found := by
    unfold resolvePath at h
    cases hrest : path.rest with
    | nil =>
      rw [hrest, resolveFrom] at h
      exact ⟨member, h⟩
    | cons next rest =>
      rw [hrest, resolveFrom, bind_eq_ok] at h
      exact h.imp fun _ hfound => hfound.1
  obtain ⟨found, hfound⟩ := hfirst
  rw [member_eq_ok.1 hfound]
  rfl

end RecordType

/-- A name has a target if it writes the path of the target and the path leads to its member. -/
theorem Target.resolve_eq_ok {type : RecordType} {name : String} {target : Target} :
    Target.resolve type name = .ok target
      ↔ MemberPath.parse name = .ok target.path
          ∧ type.resolvePath target.path = .ok target.member := by
  rw [← RecordType.resolve_eq_ok]
  unfold Target.resolve
  rw [bind_eq_ok]
  constructor
  · rintro ⟨⟨path, member⟩, hresolve, h⟩
    cases h
    exact hresolve
  · intro h
    exact ⟨_, h, rfl⟩

end RecordFilter
