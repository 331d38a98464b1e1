import RecordFilter.Proofs.Condition.Soundness
import RecordFilter.Proofs.Criteria.Properties

namespace RecordFilter

/-!
# What a filter reads

The names in a filter tell what it reads of a record, although a compiled filter follows paths in an
order of its own and often stops early.

* `Condition.paths` — the paths that a condition may follow.
* `Condition.evaluate_congr` — on records that agree at these paths the condition comes to the same.
* `Condition.mentions_of_mem_paths` — every path of a compiled filter is that of a property in the filter.
* `Condition.evaluate_eq_of_propertyNames` — so a filter reads nothing but what its names lead to.
-/

/-- What a dotted name leads to in a record. -/
def readName (record : Record) (name : String) : Except FilterError FieldValue := do
  readMember record (← MemberPath.parse name)

namespace Condition

/-- The paths that a condition may follow from a record. Those inside a test of items start from the
    items. -/
def paths : Condition → List MemberPath
  | .constant _ => []
  | .and left right => left.paths ++ right.paths
  | .or left right => left.paths ++ right.paths
  | .not inner => inner.paths
  | .compare path _ _ => [path]
  | .text path _ _ _ => [path]
  | .any path _ => [path]

variable {condition : Condition}

/-- **A condition reads nothing but its paths**: on records that agree at them it has the same answer or
    the same error. -/
theorem evaluate_congr {first second : Record}
    (h : ∀ path ∈ condition.paths, readMember first path = readMember second path) :
    condition.evaluate first = condition.evaluate second := by
  induction condition with
  | constant => rfl
  | and left right ihl ihr =>
    obtain ⟨hl, hr⟩ := List.forall_mem_append.1 h
    rw [evaluate, evaluate, ihl hl, ihr hr]
  | or left right ihl ihr =>
    obtain ⟨hl, hr⟩ := List.forall_mem_append.1 h
    rw [evaluate, evaluate, ihl hl, ihr hr]
  | not inner ih => rw [evaluate, evaluate, ih h]
  | compare path => rw [evaluate, evaluate, h path List.mem_cons_self]
  | text path => rw [evaluate, evaluate, h path List.mem_cons_self]
  -- The collection is the same, so its items are.
  | any path => rw [evaluate, evaluate, h path List.mem_cons_self]

/-- Tests of a member follow the path to it and no other one. -/
theorem Tests.eq_path {target : Target} (h : Tests target condition) :
    ∀ path ∈ condition.paths, path = target.path := by
  induction h with
  | constant => exact fun path hpath => absurd hpath List.not_mem_nil
  | and _ _ ihl ihr => exact List.forall_mem_append.2 ⟨ihl, ihr⟩
  | or _ _ ihl ihr => exact List.forall_mem_append.2 ⟨ihl, ihr⟩
  | compare => exact List.forall_mem_singleton.2 rfl
  | text => exact List.forall_mem_singleton.2 rfl

/-- A part of the filter is about the property at the path. -/
def Mentions (criteria : Criteria) (path : MemberPath) : Prop :=
  ∃ node ∈ criteria.nodes, ∃ name, node.propertyName? = some name ∧ MemberPath.parse name = .ok path

/-- The parts of a part are parts of the filter. -/
theorem Mentions.mono {inner outer : Criteria} {path : MemberPath} (h : Mentions inner path)
    (hnodes : ∀ node ∈ inner.nodes, node ∈ outer.nodes) : Mentions outer path := by
  obtain ⟨node, hnode, hname⟩ := h
  exact ⟨node, hnodes node hnode, hname⟩

/-- **Every path of a compiled filter is the path of a property in the filter.** -/
theorem mentions_of_mem_paths {setting : Setting} {type : RecordType} {criteria : Criteria}
    (h : compile setting type criteria = .ok condition) :
    ∀ path ∈ condition.paths, Mentions criteria path := by
  replace h := compile_eq_ok.1 h
  induction h with
  | and _ _ ihl ihr =>
    refine List.forall_mem_append.2 ⟨fun path hpath => ?_, fun path hpath => ?_⟩
    · exact (ihl path hpath).mono fun node hnode =>
        List.mem_cons_of_mem _ (List.mem_append_left _ hnode)
    · exact (ihr path hpath).mono fun node hnode =>
        List.mem_cons_of_mem _ (List.mem_append_right _ hnode)
  | or _ _ ihl ihr =>
    refine List.forall_mem_append.2 ⟨fun path hpath => ?_, fun path hpath => ?_⟩
    · exact (ihl path hpath).mono fun node hnode =>
        List.mem_cons_of_mem _ (List.mem_append_left _ hnode)
    · exact (ihr path hpath).mono fun node hnode =>
        List.mem_cons_of_mem _ (List.mem_append_right _ hnode)
  | not _ ih => exact fun path hpath => (ih path hpath).mono fun node => List.mem_cons_of_mem _
  | @property type name test target condition ht h =>
    intro path hpath
    rw [(tests_of_compileTest h).eq_path path hpath]
    exact ⟨.property name test, List.mem_cons_self, name, rfl, (Target.resolve_eq_ok.1 ht).1⟩
  -- What the items are tested for is not read from the record but from the items.
  | @any type itemType name item target condition ht =>
    refine List.forall_mem_singleton.2 ?_
    exact ⟨.any name item, List.mem_cons_self, name, rfl, (Target.resolve_eq_ok.1 ht).1⟩

/-- **The names of a filter tell everything that it reads.** If every name leads to the same value, or to
    the same error, in two records, then the compiled filter has the same answer on both, or the same
    error. -/
theorem evaluate_eq_of_propertyNames {setting : Setting} {type : RecordType} {criteria : Criteria}
    (hwf : criteria.WellFormed) (hcompile : compile setting type criteria = .ok condition)
    {first second : Record}
    (h : ∀ name ∈ criteria.propertyNames, readName first name = readName second name) :
    condition.evaluate first = condition.evaluate second := by
  refine evaluate_congr fun path hpath => ?_
  obtain ⟨node, hnode, name, hname, hparse⟩ := mentions_of_mem_paths hcompile path hpath
  have hread := h name ((Criteria.mem_propertyNames hwf).2 ⟨node, hnode, hname⟩)
  unfold readName at hread
  rwa [hparse, ok_bind, ok_bind] at hread

/-- A record that differs from `order` in what the filter does not name: a note and the city of the
    customer. -/
def annotatedOrder : Record := fun name =>
  if name = "Note" then some (.text "urgent")
  else if name = "Customer" then
    some (.object fun name =>
      if name = "Name" then some (.text "Ada")
      else if name = "City" then some (.text "London")
      else none)
  else order name

/-- A filter that writes one of its tests twice. -/
def repeatedCriteria : Criteria :=
  .or (.not (.property "Total" (.compare .greater (.int 5)))) orderCriteria

/-- What the filter is compiled to. -/
def repeatedCondition : Condition :=
  .or (.not (.compare ⟨"Total", []⟩ .greater (.float (Double.ofInt 5)))) orderCondition

theorem evaluate_eq_of_propertyNames_order :
    order ≠ annotatedOrder
      ∧ repeatedCriteria.propertyNames = ["Total", "Customer.Name", "Lines"]
      ∧ repeatedCondition.evaluate order = repeatedCondition.evaluate annotatedOrder := by
  have hne : order ≠ annotatedOrder := fun heq => by
    have hnote : (order "Note").isSome = (annotatedOrder "Note").isSome := by rw [heq]
    exact absurd hnote (by decide)
  have hnames : repeatedCriteria.propertyNames = ["Total", "Customer.Name", "Lines"] := by
    decide +kernel
  have hcompile : compile orderSetting orderType repeatedCriteria = .ok repeatedCondition := rfl
  refine ⟨hne, hnames, evaluate_eq_of_propertyNames (by decide +kernel) hcompile ?_⟩
  rw [hnames]
  simp only [List.forall_mem_cons, List.not_mem_nil, false_imp_iff, implies_true, and_true]
  exact ⟨rfl, rfl, rfl⟩

end Condition

end RecordFilter
