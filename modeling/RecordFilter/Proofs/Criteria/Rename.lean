import RecordFilter.Proofs.Criteria.Produced
import RecordFilter.Proofs.Criteria.Properties

namespace RecordFilter

open Text

/-!
# Renaming the properties of a filter

Renaming walks through the filter part by part. The list of its property names is made in another way:
it drops what repeats. Both visit the names in the same order.

* `Criteria.mapNames` — the filter with its property names changed and nothing else.
* `Criteria.rename_eq` — renaming asks for the names one by one, and then changes them.
* `Criteria.rename_eq_ok` — it succeeds exactly if every name gets a property name.
* `Criteria.rename_eq_self` — it changes nothing exactly if every name is looked up as itself.
* `Criteria.rename_propertyNames` — the laws of renaming, in terms of the list of names.
-/

namespace Criteria

/-! ### Changing names -/

/-- The filter with every property name changed. Those inside a test of items belong to the items and
    stay. -/
def mapNames (change : String → String) : Criteria → Criteria
  | .and left right => .and (left.mapNames change) (right.mapNames change)
  | .or left right => .or (left.mapNames change) (right.mapNames change)
  | .not inner => .not (inner.mapNames change)
  | .property name test => .property (change name) test
  | .any name item => .any (change name) item
  | .currentUser => .currentUser

variable {criteria : Criteria}

/-- The names are changed one by one. -/
theorem nodeNames_mapNames (change : String → String) (criteria : Criteria) :
    (criteria.mapNames change).nodeNames = criteria.nodeNames.map change := by
  induction criteria with
  | and left right ihl ihr => simp [mapNames, ihl, ihr]
  | or left right ihl ihr => simp [mapNames, ihl, ihr]
  | not inner ih => simp [mapNames, ih]
  | property => rfl
  | any => rfl
  | currentUser => rfl

/-- Changes that agree on the names of a filter change it alike. -/
theorem mapNames_congr {change change' : String → String}
    (h : ∀ name ∈ criteria.nodeNames, change name = change' name) :
    criteria.mapNames change = criteria.mapNames change' := by
  induction criteria with
  | and left right ihl ihr =>
    rw [nodeNames_and] at h
    obtain ⟨hl, hr⟩ := List.forall_mem_append.1 h
    rw [mapNames, mapNames, ihl hl, ihr hr]
  | or left right ihl ihr =>
    rw [nodeNames_or] at h
    obtain ⟨hl, hr⟩ := List.forall_mem_append.1 h
    rw [mapNames, mapNames, ihl hl, ihr hr]
  | not inner ih => rw [mapNames, mapNames, ih (nodeNames_not inner ▸ h)]
  | property name => rw [mapNames, mapNames, h name List.mem_cons_self]
  | any name => rw [mapNames, mapNames, h name List.mem_cons_self]
  | currentUser => rfl

/-- A filter whose names stay is the same filter. -/
theorem mapNames_id (criteria : Criteria) : criteria.mapNames id = criteria := by
  induction criteria with
  | and left right ihl ihr => rw [mapNames, ihl, ihr]
  | or left right ihl ihr => rw [mapNames, ihl, ihr]
  | not inner ih => rw [mapNames, ih]
  | property => rfl
  | any => rfl
  | currentUser => rfl

/-- Changing the names twice changes each of them twice. -/
theorem mapNames_mapNames (change next : String → String) (criteria : Criteria) :
    (criteria.mapNames change).mapNames next = criteria.mapNames (next ∘ change) := by
  induction criteria with
  | and left right ihl ihr => rw [mapNames, mapNames, mapNames, ihl, ihr]
  | or left right ihl ihr => rw [mapNames, mapNames, mapNames, ihl, ihr]
  | not inner ih => rw [mapNames, mapNames, mapNames, ih]
  | property => rfl
  | any => rfl
  | currentUser => rfl

/-! ### One name -/

section Name

variable {lookup : String → Option String} {name canonical : String}

/-- The look-up gives a property name for the name. -/
def Accepts (lookup : String → Option String) (name : String) : Prop :=
  ∃ canonical, lookup name = some canonical ∧ IsPropertyName canonical

/-- A name is renamed if the look-up gives a property name for it. -/
theorem renamed_eq_ok :
    renamed lookup name = .ok canonical ↔ lookup name = some canonical ∧ IsPropertyName canonical := by
  unfold renamed
  cases lookup name with
  | none => simp
  | some found =>
    simp only [bind_eq_ok, Option.some.injEq]
    constructor
    · rintro ⟨_, hname, heq⟩
      cases heq
      exact ⟨rfl, checkPropertyName_eq_ok.1 hname⟩
    · rintro ⟨rfl, hname⟩
      exact ⟨(), checkPropertyName_eq_ok.2 hname, rfl⟩

/-- A name that the look-up does not know is reported. -/
theorem renamed_of_none (h : lookup name = none) :
    renamed lookup name = .error (.unresolvedProperty name) := by
  rw [renamed, h]

/-- What the look-up gives is reported if it is no property name. -/
theorem renamed_of_not_isPropertyName (h : lookup name = some canonical)
    (hname : ¬ IsPropertyName canonical) :
    renamed lookup name
      = .error (.construction (if allBlank canonical.toList then .blank else .characters canonical)) := by
  rw [renamed, h]
  dsimp only
  unfold checkPropertyName
  by_cases hblank : allBlank canonical.toList = true
  · rw [if_pos hblank, if_pos hblank]
    rfl
  · rw [if_neg hblank, if_neg hname, if_neg hblank]
    rfl

end Name

/-! ### All names -/

/-- The names in a well-formed filter are property names. -/
theorem isPropertyName_of_mem_nodeNames (hwf : criteria.WellFormed) {name : String}
    (h : name ∈ criteria.nodeNames) : IsPropertyName name := by
  obtain ⟨node, hnode, hname⟩ := List.mem_filterMap.1 h
  have hnode := hwf.of_mem_nodes hnode
  cases node with
  | property =>
    cases hname
    exact hnode
  | any =>
    cases hname
    exact hnode.1
  | _ => cases hname

variable {lookup : String → Option String} {result : Criteria}

/-- **Renaming asks for the names one by one** in the order in which they occur, and then changes all of
    them. -/
theorem rename_eq (lookup : String → Option String) (criteria : Criteria) :
    criteria.rename lookup
      = (criteria.nodeNames.mapM (renamed lookup)).map
          fun _ => criteria.mapNames fun name => (lookup name).getD name := by
  induction criteria with
  | and left right ihl ihr =>
    rw [rename, ihl, ihr, nodeNames_and, List.mapM_append]
    cases left.nodeNames.mapM (renamed lookup) with
    | error => rfl
    | ok => cases right.nodeNames.mapM (renamed lookup) <;> rfl
  | or left right ihl ihr =>
    rw [rename, ihl, ihr, nodeNames_or, List.mapM_append]
    cases left.nodeNames.mapM (renamed lookup) with
    | error => rfl
    | ok => cases right.nodeNames.mapM (renamed lookup) <;> rfl
  | not inner ih =>
    rw [rename, ih, nodeNames_not]
    cases inner.nodeNames.mapM (renamed lookup) <;> rfl
  | property name test =>
    rw [rename, nodeNames_property, List.mapM_cons, List.mapM_nil, mapNames]
    cases hname : renamed lookup name with
    | error => rfl
    | ok canonical =>
      rw [(renamed_eq_ok.1 hname).1]
      rfl
  | any name item =>
    rw [rename, nodeNames_any, List.mapM_cons, List.mapM_nil, mapNames]
    cases hname : renamed lookup name with
    | error => rfl
    | ok canonical =>
      rw [(renamed_eq_ok.1 hname).1]
      rfl
  | currentUser => rfl

/-- A filter is renamed by a look-up that gives a property name for every name in it. -/
theorem rename_of_lookup {change : String → String}
    (h : ∀ name ∈ criteria.nodeNames, lookup name = some (change name) ∧ IsPropertyName (change name)) :
    criteria.rename lookup = .ok (criteria.mapNames change) := by
  rw [rename_eq, mapM_eq_ok fun name hname => renamed_eq_ok.2 (h name hname)]
  refine congrArg Except.ok (mapNames_congr fun name hname => ?_)
  rw [(h name hname).1]
  rfl

/-- **Renaming succeeds exactly if every name gets a property name**, and then changes each name to
    it. -/
theorem rename_eq_ok :
    criteria.rename lookup = .ok result
      ↔ ∃ change : String → String,
          (∀ name ∈ criteria.nodeNames, lookup name = some (change name) ∧ IsPropertyName (change name))
            ∧ result = criteria.mapNames change := by
  constructor
  · intro h
    rw [rename_eq] at h
    cases hnames : criteria.nodeNames.mapM (renamed lookup) with
    | error fault =>
      rw [hnames] at h
      cases h
    | ok names =>
      rw [hnames] at h
      cases h
      refine ⟨fun name => (lookup name).getD name, fun name hname => ?_, rfl⟩
      obtain ⟨canonical, hcanonical⟩ := exists_mapM_iff.1 ⟨names, hnames⟩ name hname
      obtain ⟨hlookup, hcanonical⟩ := renamed_eq_ok.1 hcanonical
      show lookup name = some ((lookup name).getD name) ∧ IsPropertyName ((lookup name).getD name)
      rw [hlookup]
      exact ⟨rfl, hcanonical⟩
  · rintro ⟨change, h, rfl⟩
    exact rename_of_lookup h

/-- Renaming succeeds exactly if the look-up accepts every name. -/
theorem exists_rename_iff :
    (∃ renamed, criteria.rename lookup = .ok renamed) ↔ ∀ name ∈ criteria.nodeNames, Accepts lookup name := by
  have hnames : (∃ renamed, criteria.rename lookup = .ok renamed)
      ↔ ∃ names, criteria.nodeNames.mapM (renamed lookup) = .ok names := by
    rw [rename_eq]
    exact exists_return_iff _
  rw [hnames, exists_mapM_iff]
  exact forall₂_congr fun name _ => exists_congr fun canonical => renamed_eq_ok

/-- Renaming fails with the fault of the first name that is not accepted. -/
theorem rename_eq_error {before after : List String} {name : String} {fault : FilterError}
    (hwf : criteria.WellFormed) (hsplit : criteria.propertyNames = before ++ name :: after)
    (hbefore : ∀ earlier ∈ before, Accepts lookup earlier)
    (h : renamed lookup name = .error fault) : criteria.rename lookup = .error fault := by
  have hok : ∀ {other : String}, (renamed lookup other).isOk = true ↔ Accepts lookup other := by
    intro other
    cases hother : renamed lookup other with
    | error =>
      refine iff_of_false Bool.false_ne_true fun ⟨canonical, hcanonical⟩ => ?_
      rw [renamed_eq_ok.2 hcanonical] at hother
      cases hother
    | ok canonical => exact iff_of_true rfl ⟨canonical, renamed_eq_ok.1 hother⟩
  -- The first name in the list that fails is also the first one to fail in the filter.
  have hfirst : criteria.propertyNames.find? (fun other => !(renamed lookup other).isOk) = some name := by
    rw [List.find?_eq_some_iff_append]
    refine ⟨by rw [h]; rfl, before, after, hsplit, fun earlier hearlier => ?_⟩
    rw [hok.2 (hbefore earlier hearlier)]
    rfl
  rw [propertyNames_eq hwf, find?_distinctOn, List.find?_eq_some_iff_append] at hfirst
  obtain ⟨_, before, after, hsplit, hbefore⟩ := hfirst
  have hearlier : ∀ earlier ∈ before, ∃ canonical, renamed lookup earlier = .ok canonical := by
    intro earlier hmem
    have hisOk : (renamed lookup earlier).isOk = true := by simpa using hbefore earlier hmem
    obtain ⟨canonical, hcanonical⟩ := hok.1 hisOk
    exact ⟨canonical, renamed_eq_ok.2 hcanonical⟩
  rw [rename_eq, hsplit, mapM_eq_error hearlier h]
  rfl

/-- A filter stays as it is exactly if the look-up gives each of its names for itself. -/
theorem rename_eq_self (hwf : criteria.WellFormed) :
    criteria.rename lookup = .ok criteria ↔ ∀ name ∈ criteria.propertyNames, lookup name = some name := by
  simp only [← mem_nodeNames hwf]
  constructor
  · intro h name hname
    obtain ⟨change, hchange, hself⟩ := rename_eq_ok.1 h
    have hnames : criteria.nodeNames.map change = criteria.nodeNames.map id := by
      rw [← nodeNames_mapNames, ← hself, List.map_id]
    rw [(hchange name hname).1, List.map_inj_left.1 hnames name hname, id]
  · intro h
    have hself : ∀ name ∈ criteria.nodeNames, lookup name = some (id name) ∧ IsPropertyName name :=
      fun name hname => ⟨h name hname, isPropertyName_of_mem_nodeNames hwf hname⟩
    rw [rename_of_lookup hself, mapNames_id]

/-! ### The laws of renaming -/

/-- **The laws of renaming.** A filter can be renamed exactly if the look-up gives a property name for
    every name of the filter. Otherwise the first name in the list for which it does not decides the
    error. The renamed filter differs in the names only, and its list of names is the changed list
    without repetitions. Renaming every name to itself changes nothing, and renaming twice is renaming
    by both look-ups at once. -/
theorem rename_propertyNames {criteria : Criteria} (hwf : criteria.WellFormed) :
    (∀ lookup : String → Option String,
      ((∃ renamed, criteria.rename lookup = .ok renamed)
          ↔ ∀ name ∈ criteria.propertyNames,
              ∃ canonical, lookup name = some canonical ∧ IsPropertyName canonical)
        ∧ (∀ before name after, criteria.propertyNames = before ++ name :: after →
            (∀ earlier ∈ before, ∃ canonical, lookup earlier = some canonical ∧ IsPropertyName canonical) →
              (lookup name = none → criteria.rename lookup = .error (.unresolvedProperty name))
                ∧ ∀ canonical, lookup name = some canonical → ¬ IsPropertyName canonical →
                    criteria.rename lookup
                      = .error (.construction
                          (if allBlank canonical.toList then .blank else .characters canonical)))
        ∧ ∀ renamed, criteria.rename lookup = .ok renamed →
            ∃ change : String → String,
              (∀ name ∈ criteria.propertyNames, lookup name = some (change name))
                ∧ renamed = criteria.mapNames change
                ∧ renamed.propertyNames = distinctOn id (criteria.propertyNames.map change))
      ∧ criteria.rename some = .ok criteria
      ∧ ∀ (first second : String → Option String) (between last : Criteria),
          criteria.rename first = .ok between → between.rename second = .ok last →
            criteria.rename (fun name => (first name).bind second) = .ok last := by
  refine ⟨fun lookup => ⟨?_, ?_, ?_⟩, ?_, ?_⟩
  · rw [exists_rename_iff]
    exact forall_congr' fun name => imp_congr_left (mem_nodeNames hwf)
  · intro before name after hsplit hbefore
    exact ⟨fun h => rename_eq_error hwf hsplit hbefore (renamed_of_none h), fun canonical h hname =>
      rename_eq_error hwf hsplit hbefore (renamed_of_not_isPropertyName h hname)⟩
  · intro renamed h
    have hwf' : renamed.WellFormed := (wellFormed_rename lookup hwf).of_eq_ok h
    obtain ⟨change, hchange, rfl⟩ := rename_eq_ok.1 h
    refine ⟨change, fun name hname => (hchange name ((mem_nodeNames hwf).2 hname)).1, rfl, ?_⟩
    rw [propertyNames_eq hwf', propertyNames_eq hwf, nodeNames_mapNames, distinctOn_map]
  · exact (rename_eq_self hwf).2 fun name _ => rfl
  · intro first second between last hfirst hsecond
    obtain ⟨change, hchange, rfl⟩ := rename_eq_ok.1 hfirst
    obtain ⟨next, hnext, rfl⟩ := rename_eq_ok.1 hsecond
    rw [nodeNames_mapNames, List.forall_mem_map] at hnext
    have hboth : ∀ name ∈ criteria.nodeNames, (first name).bind second = some ((next ∘ change) name)
        ∧ IsPropertyName ((next ∘ change) name) := by
      intro name hname
      rw [(hchange name hname).1]
      exact hnext name hname
    rw [rename_of_lookup hboth, mapNames_mapNames]

/-- A filter that names properties several times, one of them inside a test of items, where it is not
    renamed. -/
def repetitive : Criteria :=
  .and (.or (.property "b" .isNull) (.not (.property "a" (.compare .less (.int 5)))))
    (.and (.property "b" .isNull) (.any "c.a" (.property "b" (.text .contains (.string "[b]")))))

theorem rename_propertyNames_repetitive :
    repetitive.WellFormed ∧ repetitive.propertyNames = ["b", "a", "c.a"]
      ∧ repetitive.rename (fun name => if name = "b" then some "x" else none)
          = .error (.unresolvedProperty "a")
      ∧ repetitive.rename (fun name => if name = "a" then some "a b" else some name)
          = .error (.construction (.characters "a b"))
      ∧ ∃ renamed, repetitive.rename (fun name => if name = "a" then some "b" else some name) = .ok renamed
          ∧ renamed.propertyNames = ["b", "c.a"] := by
  have hwf : repetitive.WellFormed := by decide +kernel
  have hnames : repetitive.propertyNames = ["b"] ++ "a" :: ["c.a"] := by decide +kernel
  obtain ⟨hlookup, _, _⟩ := rename_propertyNames hwf
  refine ⟨hwf, hnames, ?_, ?_, ?_⟩
  · obtain ⟨_, hfirst, _⟩ := hlookup fun name => if name = "b" then some "x" else none
    exact (hfirst _ _ _ hnames (by decide +kernel)).1 (by decide)
  · obtain ⟨_, hfirst, _⟩ := hlookup fun name => if name = "a" then some "a b" else some name
    exact (hfirst _ _ _ hnames (by decide +kernel)).2 "a b" (by decide) (by decide +kernel)
  · obtain ⟨hok, _, hrenamed⟩ := hlookup fun name => if name = "a" then some "b" else some name
    obtain ⟨renamed, h⟩ := hok.2 (by decide +kernel)
    obtain ⟨change, hchange, _, hlist⟩ := hrenamed renamed h
    have hb := hchange "b" (by decide +kernel)
    have ha := hchange "a" (by decide +kernel)
    have hc := hchange "c.a" (by decide +kernel)
    refine ⟨renamed, h, ?_⟩
    rw [hlist, hnames]
    simp only [List.map_append, List.map_cons, List.map_nil, ← Option.some.inj hb,
      ← Option.some.inj ha, ← Option.some.inj hc]
    decide

end Criteria

end RecordFilter
