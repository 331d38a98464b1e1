import RecordFilter.Proofs.Condition.Binding
import RecordFilter.Proofs.Criteria.Rename
import RecordFilter.Proofs.RecordType.Names

namespace RecordFilter

open Text

/-!
# What a table of names finds

The names of a type are entered one after the other, and a name replaces an earlier one that differs from
it in case only.

* `NameTable.lookup?_ofType_eq_some` — a spelling stands for the last name of the type that differs from it
  at most in case.
* `NameTable.ofType_spellings` — so every spelling of a member is found, and nothing else, and a filter that is
  resolved names members.
* `NameTable.resolve_ofType_eq_self` — a filter that can be bound to the type keeps its names, as long as no
  other name with the same letters replaces one of them.
-/

/-! ### Names in filters -/

/-- A name that has a target leads to a member. -/
theorem RecordType.Accepts.of_target {type : RecordType} {name : String} {target : Target}
    (h : Target.resolve type name = .ok target) : type.Accepts name :=
  ⟨(target.path, target.member), RecordType.resolve_eq_ok.2 (Target.resolve_eq_ok.1 h)⟩

/-- The names in a filter that can be bound to a type lead to its members. -/
theorem Condition.Binds.accepts {setting : Setting} {type : RecordType} {criteria : Criteria}
    {condition : Condition} (h : Binds setting type criteria condition) {name : String}
    (hname : name ∈ criteria.nodeNames) : type.Accepts name := by
  induction h with
  | and _ _ ihl ihr =>
    rw [Criteria.nodeNames_and, List.mem_append] at hname
    exact hname.elim ihl ihr
  | or _ _ ihl ihr =>
    rw [Criteria.nodeNames_or, List.mem_append] at hname
    exact hname.elim ihl ihr
  | not _ ih =>
    rw [Criteria.nodeNames_not] at hname
    exact ih hname
  | property ht =>
    rw [Criteria.nodeNames_property, List.mem_singleton] at hname
    exact hname ▸ .of_target ht
  | any ht =>
    rw [Criteria.nodeNames_any, List.mem_singleton] at hname
    exact hname ▸ .of_target ht

namespace NameTable

/-! ### Looking up names -/

variable {type : RecordType} {name other canonical : String}

/-- Spellings that differ in case only stand for the same name. -/
theorem lookup?_congr (table : NameTable) (h : lowerCase name = lowerCase other) :
    table.lookup? name = table.lookup? other := by
  rw [lookup?, lookup?, h]

/-- A new spelling hides the earlier ones with the same letters. -/
theorem lookup?_insert (table : NameTable) (spelling canonical name : String) :
    (table.insert spelling canonical).lookup? name
      = if lowerCase spelling = lowerCase name then some canonical else table.lookup? name := by
  rw [insert, lookup?, Std.HashMap.getElem?_insert, lookup?]
  by_cases h : lowerCase spelling = lowerCase name <;> simp [h]

/-- Of names that are entered, the last one with the same letters is found. -/
theorem lookup?_foldl_insert (paths : List String) (table : NameTable) (name : String) :
    (paths.foldl (fun table path => table.insert path path) table).lookup? name
      = (paths.reverse.find? fun path => lowerCase path = lowerCase name).or (table.lookup? name) := by
  induction paths generalizing table with
  | nil => rfl
  | cons path rest ih =>
    rw [List.foldl_cons, ih, lookup?_insert, List.reverse_cons, List.find?_append, Option.or_assoc,
      List.find?_singleton]
    by_cases h : lowerCase path = lowerCase name <;> simp [h]

/-- **A spelling stands for the last name of the type that differs from it at most in case.** -/
theorem lookup?_ofType_eq_some :
    (ofType type).lookup? name = some canonical
      ↔ lowerCase canonical = lowerCase name
        ∧ ∃ before after, type.paths "" = before ++ canonical :: after
          ∧ ∀ path ∈ after, lowerCase path ≠ lowerCase name := by
  have hempty : empty.lookup? name = none := by simp [empty, lookup?]
  rw [ofType, lookup?_foldl_insert, hempty, Option.or_none, List.find?_eq_some_iff_append,
    decide_eq_true_eq]
  refine and_congr_right fun _ => ⟨?_, ?_⟩
  · rintro ⟨after, before, hsplit, hafter⟩
    refine ⟨before.reverse, after.reverse, ?_, ?_⟩
    · rw [← List.reverse_reverse (type.paths ""), hsplit]
      simp
    · exact fun path hpath => by simpa using hafter path (List.mem_reverse.1 hpath)
  · rintro ⟨before, after, hsplit, hafter⟩
    refine ⟨after.reverse, before.reverse, by simp [hsplit], fun path hpath => ?_⟩
    simpa using hafter path (List.mem_reverse.1 hpath)

/-- What is found is a name of the type. -/
theorem mem_paths_of_lookup? (h : (ofType type).lookup? name = some canonical) :
    canonical ∈ type.paths "" ∧ lowerCase canonical = lowerCase name := by
  obtain ⟨hcase, before, after, hsplit, _⟩ := lookup?_ofType_eq_some.1 h
  exact ⟨by simp [hsplit], hcase⟩

/-- Every spelling of a name of the type is found. -/
theorem exists_lookup? (h : other ∈ type.paths "") (hcase : lowerCase name = lowerCase other) :
    ∃ canonical, (ofType type).lookup? name = some canonical := by
  rw [← Option.isSome_iff_exists, ofType, lookup?_foldl_insert, Option.isSome_or, Bool.or_eq_true,
    List.find?_isSome]
  exact Or.inl ⟨other, List.mem_reverse.2 h, decide_eq_true hcase.symm⟩

/-! ### Resolving filters -/

/-- **The table of a type finds its members.** If the names of the members can be segments of a path, every
    spelling of a dotted name that leads to a member stands for one that leads to a member and has the
    same letters, and no other spelling is known. A filter that is resolved names members only, by names
    that differ from the original ones at most in case, and resolving it once more changes nothing. -/
theorem ofType_spellings {type : RecordType} (hbuilt : type.Built) (hsegments : type.HasSegments) :
    (∀ name spelling, type.Accepts name → lowerCase spelling = lowerCase name →
        ∃ canonical, (ofType type).lookup? spelling = some canonical
          ∧ type.Accepts canonical ∧ lowerCase canonical = lowerCase spelling)
      ∧ (∀ spelling, (∀ name, type.Accepts name → lowerCase spelling ≠ lowerCase name) →
          (ofType type).lookup? spelling = none)
      ∧ ∀ criteria resolved : Criteria, criteria.WellFormed →
          (ofType type).resolve criteria = .ok resolved →
            (∃ change : String → String, resolved = criteria.mapNames change
              ∧ (∀ name ∈ criteria.propertyNames, lowerCase (change name) = lowerCase name))
            ∧ (∀ name ∈ resolved.propertyNames, type.Accepts name)
            ∧ (ofType type).resolve resolved = .ok resolved := by
  have haccepts : ∀ {name canonical}, (ofType type).lookup? name = some canonical →
      type.Accepts canonical ∧ lowerCase canonical = lowerCase name := fun h =>
    (mem_paths_of_lookup? h).imp_left (RecordType.mem_paths_iff hbuilt hsegments).1
  refine ⟨?_, ?_, ?_⟩
  · intro name spelling hname hcase
    obtain ⟨canonical, h⟩ := exists_lookup? hname.mem_paths hcase
    exact ⟨canonical, h, haccepts h⟩
  · intro spelling hother
    refine Option.eq_none_iff_forall_ne_some.2 fun canonical h => ?_
    obtain ⟨hcanonical, hcase⟩ := haccepts h
    exact hother canonical hcanonical hcase.symm
  · intro criteria resolved hwf h
    have hwf' : resolved.WellFormed := (Criteria.wellFormed_rename _ hwf).of_eq_ok h
    obtain ⟨change, hchange, rfl⟩ := Criteria.rename_eq_ok.1 h
    have hfound : ∀ name ∈ (criteria.mapNames change).propertyNames,
        ∃ original, (ofType type).lookup? original = some name := by
      intro name hname
      rw [← Criteria.mem_nodeNames hwf', Criteria.nodeNames_mapNames] at hname
      obtain ⟨original, horiginal, rfl⟩ := List.mem_map.1 hname
      exact ⟨original, (hchange original horiginal).1⟩
    refine ⟨⟨change, rfl, fun name hname => ?_⟩, ?_, ?_⟩
    · exact (haccepts (hchange name ((Criteria.mem_nodeNames hwf).2 hname)).1).2
    · intro name hname
      obtain ⟨original, horiginal⟩ := hfound name hname
      exact (haccepts horiginal).1
    -- A name that was found is found under its own spelling as well.
    · refine (Criteria.rename_eq_self hwf').2 fun name hname => ?_
      obtain ⟨original, horiginal⟩ := hfound name hname
      exact (lookup?_congr _ (haccepts horiginal).2).trans horiginal

/-- A type with an object. -/
def invoiceType : RecordType :=
  ((RecordType.empty "Invoice").add ⟨"Number", .integer, false⟩).add
    ⟨"Customer", .object ((RecordType.empty "Customer").add ⟨"Name", .string, false⟩), false⟩

/-- The type with a further member, whose name differs from that of another one in case only. -/
def twinType : RecordType :=
  invoiceType.add ⟨"NUMBER", .integer, true⟩

/-- The type can be built. -/
theorem built_twinType : twinType.Built := by
  refine .add (.add (.add (.empty "Invoice") nofun) ?_) nofun
  rintro inner (hkind | hkind) <;> cases hkind
  exact .add (.empty "Customer") nofun

/-- Of the two members the one that was added last is found. -/
theorem lookup?_twinType (h : lowerCase name = "number") :
    (ofType twinType).lookup? name = some "NUMBER" := by
  have hcase : lowerCase "NUMBER" = lowerCase name := by
    rw [h]
    decide +kernel
  exact lookup?_ofType_eq_some.2
    ⟨hcase, ["Number", "Customer.Name", "Customer"], [], by decide +kernel, nofun⟩

/-- A filter with names that are not spelled as in the type. -/
def invoiceFilter : Criteria :=
  .and (.property "number" (.compare .equal (.int 5)))
    (.not (.property "customer.name" (.text .startsWith (.string "A"))))

/-- Names are found in any case, and two members that differ in case only are one. -/
theorem ofType_spellings_twins :
    twinType.Built ∧ twinType.HasSegments ∧ invoiceFilter.WellFormed
      ∧ (∃ canonical, (ofType twinType).lookup? "number" = some canonical
          ∧ twinType.Accepts canonical ∧ lowerCase canonical = lowerCase "number")
      ∧ (ofType twinType).lookup? "name" = none
      ∧ ∃ resolved, (ofType twinType).resolve invoiceFilter = .ok resolved
          ∧ (∀ name ∈ resolved.propertyNames, twinType.Accepts name)
          ∧ (ofType twinType).resolve resolved = .ok resolved := by
  have hsegments : twinType.HasSegments := by
    refine .add (.add (.add (.empty "Invoice") (by decide) nofun) (by decide) ?_) (by decide) nofun
    intro nested hkind
    cases hkind
    exact .add (.empty "Customer") (by decide) nofun
  have hwf : invoiceFilter.WellFormed := by decide +kernel
  obtain ⟨hfound, hunknown, hresolve⟩ := ofType_spellings built_twinType hsegments
  refine ⟨built_twinType, hsegments, hwf, hfound "Number" "number" ⟨_, rfl⟩ (by decide +kernel), ?_, ?_⟩
  · refine hunknown "name" fun name hname => ?_
    have hother : ∀ path ∈ twinType.paths "", lowerCase "name" ≠ lowerCase path := by decide +kernel
    exact hother name hname.mem_paths
  · have hnumber : (ofType twinType).lookup? "number" = some "NUMBER" :=
      lookup?_twinType (by decide +kernel)
    have hname : (ofType twinType).lookup? "customer.name" = some "Customer.Name" :=
      lookup?_ofType_eq_some.2 ⟨by decide +kernel, ["Number"], ["Customer", "NUMBER"],
        by decide +kernel, by decide +kernel⟩
    have hnames : ∀ name ∈ invoiceFilter.nodeNames, Criteria.Accepts (ofType twinType).lookup? name := by
      show ∀ name ∈ ["number", "customer.name"], _
      exact List.forall_mem_cons.2 ⟨⟨_, hnumber, by decide +kernel⟩,
        List.forall_mem_singleton.2 ⟨_, hname, by decide +kernel⟩⟩
    obtain ⟨resolved, hresolved⟩ := Criteria.exists_rename_iff.2 hnames
    obtain ⟨-, haccepts, hself⟩ := hresolve invoiceFilter resolved hwf hresolved
    exact ⟨resolved, hresolved, haccepts, hself⟩

/-- **What resolving keeps.** A filter that can be bound to a type stays as it is when it is resolved,
    exactly if none of its names is followed, among the names of the type, by another one with the same
    letters. So every such filter stays as it is if no two names of the type differ in case only. -/
theorem resolve_ofType_eq_self {setting : Setting} {type : RecordType} {criteria : Criteria}
    {condition : Condition} (hwf : criteria.WellFormed)
    (h : Condition.compile setting type criteria = .ok condition) :
    ((ofType type).resolve criteria = .ok criteria
        ↔ ∀ name ∈ criteria.propertyNames, ∃ before after, type.paths "" = before ++ name :: after
            ∧ ∀ path ∈ after, lowerCase path ≠ lowerCase name)
      ∧ ((∀ path ∈ type.paths "", ∀ other ∈ type.paths "",
            lowerCase path = lowerCase other → path = other) →
          (ofType type).resolve criteria = .ok criteria) := by
  constructor
  · rw [resolve, Criteria.rename_eq_self hwf]
    refine forall₂_congr fun name _ => ?_
    rw [lookup?_ofType_eq_some, and_iff_right rfl]
  · intro hdistinct
    rw [resolve, Criteria.rename_eq_self hwf]
    intro name hname
    have haccepts : type.Accepts name :=
      (Condition.binds_of_compile h).accepts ((Criteria.mem_nodeNames hwf).2 hname)
    obtain ⟨canonical, hlookup⟩ := exists_lookup? haccepts.mem_paths rfl
    obtain ⟨hcanonical, hcase⟩ := mem_paths_of_lookup? hlookup
    rwa [hdistinct canonical hcanonical name haccepts.mem_paths hcase] at hlookup

/-- A filter that can be bound to the type. -/
def customerFilter : Criteria :=
  .property "Customer.Name" (.text .startsWith (.string "A"))

/-- Its name is the only one with these letters. -/
theorem resolve_ofType_eq_self_customer :
    customerFilter.WellFormed
      ∧ (∃ condition, Condition.compile ⟨.standard, ⟨2024, 6, 12, by decide⟩⟩ invoiceType customerFilter
          = .ok condition)
      ∧ (ofType invoiceType).resolve customerFilter = .ok customerFilter := by
  have hwf : customerFilter.WellFormed := by decide +kernel
  obtain ⟨condition, hcompile⟩ : ∃ condition,
      Condition.compile ⟨.standard, ⟨2024, 6, 12, by decide⟩⟩ invoiceType customerFilter
        = .ok condition := ⟨_, rfl⟩
  exact ⟨hwf, ⟨condition, hcompile⟩, (resolve_ofType_eq_self hwf hcompile).2 (by decide +kernel)⟩

/-- A filter for one of the two members that differ in case only. -/
def twinFilter (name : String) : Criteria :=
  .property name (.compare .equal (.int 5))

/-- **Resolving may change the member that a filter is about.** The table knows one name only of two that
    differ in case, although the type tells the members apart. -/
theorem resolve_ofType_changes_member :
    twinType.Built ∧ (twinFilter "Number").WellFormed
      ∧ (∃ condition,
          Condition.compile ⟨.standard, ⟨2024, 6, 12, by decide⟩⟩ twinType (twinFilter "Number")
            = .ok condition)
      ∧ (ofType twinType).resolve (twinFilter "Number") = .ok (twinFilter "NUMBER")
      ∧ (ofType twinType).resolve (twinFilter "Number") ≠ .ok (twinFilter "Number") := by
  have hlookup : (ofType twinType).lookup? "Number" = some "NUMBER" :=
    lookup?_twinType (by decide +kernel)
  have hnames : ∀ name ∈ (twinFilter "Number").nodeNames,
      (ofType twinType).lookup? name = some (Function.const String "NUMBER" name)
        ∧ IsPropertyName (Function.const String "NUMBER" name) :=
    List.forall_mem_singleton.2 ⟨hlookup, by decide +kernel⟩
  have hresolve : (ofType twinType).resolve (twinFilter "Number") = .ok (twinFilter "NUMBER") :=
    Criteria.rename_of_lookup hnames
  refine ⟨built_twinType, by decide +kernel, ⟨_, rfl⟩, hresolve, ?_⟩
  rw [hresolve]
  simp [twinFilter]

end NameTable

end RecordFilter
