import RecordFilter.Proofs.RecordType.Path
import RecordFilter.RecordType.NameTable

namespace RecordFilter

open Text

/-!
# Dotted names

The dotted names of a type are listed from the outside to the inside, and a dotted name is followed from
its first segment to the last. Both find the same members, as long as every name of a member can be a
segment.

* `MemberPath.text_eq_foldl` — a dotted name is written from the outside to the inside as well.
* `RecordType.Built` — the types that can be built, in which no two members have the same name.
* `RecordType.HasSegments` — types whose members can be named in a path.
* `RecordType.mem_paths_iff` — the names that are listed are those that lead to a member.
-/

/-! ### Joined names -/

namespace MemberPath

variable {name first next : String} {rest : List String}

/-- A segment is not empty. -/
theorem IsSegment.ne_empty (h : IsSegment name) : name ≠ "" := by
  rintro rfl
  exact absurd h.1 (by decide)

/-- A path is written by adding a dot and a name again and again. -/
theorem text_eq_foldl (h : first ≠ "") : text ⟨first, rest⟩ = rest.foldl memberPath first := by
  induction rest generalizing first with
  | nil => simp [text, chars, segments]
  | cons next rest ih =>
    have hjoined : text ⟨first, next :: rest⟩ = text ⟨first ++ "." ++ next, rest⟩ := by
      cases rest <;> simp [text, chars, segments, List.intercalate_cons_cons]
    rw [hjoined, ih (by simp), List.foldl_cons, memberPath, if_neg h]

end MemberPath

namespace RecordType

open MemberPath

/-! ### Types that can be built -/

/-- The types that are built by adding members, the types of objects and of the items of collections
    included. -/
inductive Built : RecordType → Prop
  | empty (name : String) : Built (empty name)
  | add {type : RecordType} {member : Member} (h : Built type)
      (hinner : ∀ inner, member.kind = .object inner ∨ member.kind = .collection inner → Built inner) :
      Built (type.add member)

variable {type : RecordType}

/-- No two members of a type that can be built have the same name. -/
theorem Built.nodup_names (h : type.Built) : (type.members.map Member.name).Nodup := by
  induction h with
  | empty => exact List.nodup_nil
  | @add type member _ _ ih _ =>
    rw [RecordType.add, List.map_append, List.map_singleton, List.nodup_append]
    refine ⟨ih.sublist (List.filter_sublist.map _), by simp, ?_⟩
    intro name hname other hother
    obtain ⟨kept, hkept, rfl⟩ := List.mem_map.1 hname
    rw [List.mem_singleton.1 hother]
    exact of_decide_eq_true (List.mem_filter.1 hkept).2

/-- In a type that can be built, the types of objects can be built. -/
theorem Built.of_object (h : type.Built) {member : Member} (hmem : member ∈ type.members)
    {nested : RecordType} (hkind : member.kind = .object nested) : nested.Built := by
  induction h with
  | empty => cases hmem
  | add _ hinner ih _ =>
    rcases List.mem_append.1 hmem with hmem | hmem
    · exact ih (List.mem_of_mem_filter hmem)
    · rw [List.mem_singleton.1 hmem] at hkind
      exact hinner nested (Or.inl hkind)

/-- A member is found by its name in a type that can be built. -/
theorem Built.find?_name (h : type.Built) {member : Member} (hmem : member ∈ type.members) :
    type.find? member.name = some member := by
  obtain ⟨before, after, hsplit⟩ := List.append_of_mem hmem
  have hnodup := h.nodup_names
  rw [hsplit, List.map_append, List.map_cons, List.nodup_append] at hnodup
  rw [find?, hsplit, List.find?_eq_some_iff_append]
  refine ⟨by simp, before, after, rfl, fun other hother => ?_⟩
  simpa using hnodup.2.2 other.name (List.mem_map_of_mem hother) member.name List.mem_cons_self

/-- Each member of a type, and each member of its objects, has a name that can be a segment of a
    path. -/
inductive HasSegments : RecordType → Prop
  | intro {type : RecordType} (hname : ∀ member ∈ type.members, IsSegment member.name)
      (hnested : ∀ member ∈ type.members, ∀ nested, member.kind = .object nested →
        HasSegments nested) : HasSegments type

/-- A type without members has no names. -/
theorem HasSegments.empty (name : String) : (empty name).HasSegments :=
  .intro nofun nofun

/-- A member with a name that can be a segment may be added. -/
theorem HasSegments.add {member : Member} (h : type.HasSegments) (hname : IsSegment member.name)
    (hnested : ∀ nested, member.kind = .object nested → nested.HasSegments) :
    (type.add member).HasSegments := by
  obtain ⟨hnames, hothers⟩ := h
  constructor
  · intro other hmem
    rcases List.mem_append.1 hmem with hmem | hmem
    · exact hnames other (List.mem_of_mem_filter hmem)
    · rwa [List.mem_singleton.1 hmem]
  · intro other hmem nested hkind
    rcases List.mem_append.1 hmem with hmem | hmem
    · exact hothers other (List.mem_of_mem_filter hmem) nested hkind
    · rw [List.mem_singleton.1 hmem] at hkind
      exact hnested nested hkind

/-! ### The names of a type -/

variable {parent path name : String} {rest : List String} {member : Member}

/-- The names of a member are its own, and, if it is an object, those of its members. -/
theorem mem_member_paths : path ∈ member.paths parent
    ↔ path = memberPath parent member.name
      ∨ ∃ nested, member.kind = .object nested ∧ path ∈ nested.paths (memberPath parent member.name) := by
  obtain ⟨name, kind, nullable⟩ := member
  rw [Member.paths, List.mem_append, List.mem_singleton, or_comm]
  cases kind with
  | object nested => simp [MemberKind.paths]
  | _ => simp [MemberKind.paths]

/-- The names of a type are those of its members. -/
theorem mem_paths : path ∈ type.paths parent ↔ ∃ member ∈ type.members, path ∈ member.paths parent := by
  obtain ⟨name, members⟩ := type
  rw [RecordType.paths]
  induction members with
  | nil => simp [Member.listPaths]
  | cons member rest ih => simp [Member.listPaths, ih]

/-- Names that lead to a member, joined, are listed. -/
theorem mem_paths_of_resolveFrom (h : type.resolveFrom name rest = .ok member) (parent : String) :
    rest.foldl memberPath (memberPath parent name) ∈ type.paths parent := by
  induction rest generalizing type name parent with
  | nil =>
    obtain ⟨hmem, rfl⟩ := mem_of_find? (member_eq_ok.1 h)
    exact mem_paths.2 ⟨member, hmem, mem_member_paths.2 (Or.inl rfl)⟩
  | cons next rest ih =>
    rw [RecordType.resolveFrom] at h
    obtain ⟨found, hfound, h⟩ := bind_eq_ok.1 h
    obtain ⟨hmem, rfl⟩ := mem_of_find? (member_eq_ok.1 hfound)
    split at h
    case h_1 nested hkind =>
      exact mem_paths.2 ⟨found, hmem, mem_member_paths.2 (Or.inr ⟨nested, hkind, ih h _⟩)⟩
    case h_2 => cases h

/-- What is listed are names that lead to a member, joined. -/
theorem exists_resolveFrom_of_mem_paths (hbuilt : type.Built) (hsegments : type.HasSegments)
    (h : path ∈ type.paths parent) :
    ∃ name rest member, type.resolveFrom name rest = .ok member
      ∧ path = rest.foldl memberPath (memberPath parent name)
      ∧ ∀ segment ∈ name :: rest, IsSegment segment := by
  induction hsegments generalizing parent with
  | @intro type hname _ ih =>
    obtain ⟨member, hmem, h⟩ := mem_paths.1 h
    have hfind := member_eq_ok.2 (hbuilt.find?_name hmem)
    rcases mem_member_paths.1 h with rfl | ⟨nested, hkind, h⟩
    · exact ⟨member.name, [], member, hfind, rfl, by simpa using hname member hmem⟩
    -- The rest of the path leads through the type of the object.
    · obtain ⟨next, rest, last, hlast, rfl, hrest⟩ := ih member hmem nested hkind
        (hbuilt.of_object hmem hkind) h
      refine ⟨member.name, next :: rest, last, ?_, rfl,
        List.forall_mem_cons.2 ⟨hname member hmem, hrest⟩⟩
      rw [RecordType.resolveFrom, hfind, ok_bind, hkind]
      exact hlast

/-- A dotted name leads to a member of the type. -/
def Accepts (type : RecordType) (name : String) : Prop :=
  ∃ found, type.resolve name = .ok found

/-- Names that lead to a member are listed. -/
theorem Accepts.mem_paths (h : type.Accepts name) : name ∈ type.paths "" := by
  obtain ⟨⟨path, member⟩, hfound⟩ := h
  obtain ⟨hparse, hmember⟩ := resolve_eq_ok.1 hfound
  obtain ⟨rfl, hsegments⟩ := parse_eq_ok.1 hparse
  have hfirst : path.first ≠ "" := (hsegments path.first List.mem_cons_self).ne_empty
  rw [text_eq_foldl hfirst]
  simpa [memberPath] using mem_paths_of_resolveFrom hmember ""

/-- **The names that are listed are those that lead to a member**, if the names of the members can be
    segments of a path. -/
theorem mem_paths_iff (hbuilt : type.Built) (hsegments : type.HasSegments) :
    name ∈ type.paths "" ↔ type.Accepts name := by
  refine ⟨fun h => ?_, Accepts.mem_paths⟩
  obtain ⟨first, rest, member, hmember, rfl, hall⟩ :=
    exists_resolveFrom_of_mem_paths hbuilt hsegments h
  have hfirst : first ≠ "" := (hall first List.mem_cons_self).ne_empty
  refine ⟨(⟨first, rest⟩, member), resolve_eq_ok.2 ⟨parse_eq_ok.2 ⟨?_, hall⟩, hmember⟩⟩
  rw [text_eq_foldl hfirst]
  simp [memberPath]

end RecordType

end RecordFilter
