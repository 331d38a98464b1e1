import RecordFilter.Proofs.CompactArray.RoundTrip
import RecordFilter.Proofs.Json.Rounded

namespace RecordFilter

/-!
# Texts of compact arrays read back

* `Criteria.arrayDepth` — how deep the arrays of a filter are nested. Every connective adds a level, and so
  does every value of a choice after the first one.
* `Criteria.mapValues` — a filter with all its values replaced, as by `Value.jsonRounded`.
* `CompactArray.rereadsAs_of_ofCriteria` — the array of a filter has that depth, and what is read back from its
  text is the array of the filter with rounded doubles.
* `CompactArray.criteriaOfText_textOfCriteria` — hence the text that a filter is written as is read exactly if
  the filter is not nested too deep.
-/

/-! ### Depth -/

/-- How deep the array of a property test is nested. -/
def PropertyTest.arrayDepth : PropertyTest → Nat
  | .isNullOrEmpty => 2
  | .between .. => 2
  | .oneOf values => values.length
  | .isNotNull => 2
  | _ => 1

/-- How deep the array of a filter is nested. -/
def Criteria.arrayDepth : Criteria → Nat
  | .and left right => max left.arrayDepth right.arrayDepth + 1
  | .or left right => max left.arrayDepth right.arrayDepth + 1
  | .not inner => inner.arrayDepth + 1
  | .property _ test => test.arrayDepth
  | .any .. => 0
  | .currentUser => 0

/-! ### Rounded values -/

/-- A value with its double rounded as a JSON reader does. -/
def Value.jsonRounded : Value → Value
  | .float number => .float number.jsonRounded
  | value => value

/-- A property test with all its values replaced. -/
def PropertyTest.mapValues (f : Value → Value) : PropertyTest → PropertyTest
  | .compare operator value => .compare operator (f value)
  | .text function argument => .text function (f argument)
  | .between low high => .between (f low) (f high)
  | .oneOf values => .oneOf (values.map f)
  | test => test

/-- A filter with all its values replaced. -/
def Criteria.mapValues (f : Value → Value) : Criteria → Criteria
  | .and left right => .and (left.mapValues f) (right.mapValues f)
  | .or left right => .or (left.mapValues f) (right.mapValues f)
  | .not inner => .not (inner.mapValues f)
  | .property name test => .property name (test.mapValues f)
  | .any name item => .any name (item.mapValues f)
  | .currentUser => .currentUser

/-- The names in a filter stay when its values are replaced. -/
theorem Criteria.WellFormed.mapValues {criteria : Criteria} (h : criteria.WellFormed)
    (f : Value → Value) : (criteria.mapValues f).WellFormed := by
  induction criteria with
  | and left right ihl ihr => exact ⟨ihl h.1, ihr h.2⟩
  | or left right ihl ihr => exact ⟨ihl h.1, ihr h.2⟩
  | not inner ih => exact ih h
  | property name test => exact h
  | any name item ih => exact ⟨h.1, ih h.2⟩
  | currentUser => trivial

namespace CompactArray

/-! ### What a writer makes -/

/-- A document has the given depth, its numbers fit, and the step makes what is read back from its text. -/
structure RereadsAs (document : Json) (depth : Nat) (step : Except FilterError Json) : Prop where
  depth_eq : document.depth = depth
  numbersFit : document.NumbersFit
  eq_ok : step = .ok document.rounded

/-- A scalar is read back as the scalar of the rounded value. -/
theorem rereadsAs_of_scalarJson {value : Value} {document : Json}
    (h : scalarJson value = .ok document) :
    RereadsAs document 0 (scalarJson value.jsonRounded) := by
  cases value with
  | int number =>
    cases h
    have hupper : number.toInt ≤ (NumberToken.wordMax : Int) :=
      Int.le_trans number.toInt_le (by decide)
    exact ⟨rfl, .int _ number.minValue_le_toInt hupper, rfl⟩
  | float number =>
    rw [scalarJson] at h
    split at h
    case isTrue hsome =>
      cases h
      have hfinite : number.IsFinite := Double.isSome_jsonText?_iff.1 hsome
      refine ⟨rfl, .float number hfinite, ?_⟩
      rw [Value.jsonRounded, scalarJson,
        if_pos (Double.isSome_jsonText?_iff.2 hfinite.ofWord?_chars.1), Json.rounded]
    case isFalse => cases h
  | null =>
    cases h
    exact ⟨rfl, .null, rfl⟩
  | bool b =>
    cases h
    exact ⟨rfl, .bool b, rfl⟩
  | dateTime moment =>
    cases h
    exact ⟨rfl, .string _, rfl⟩
  | string text =>
    cases h
    exact ⟨rfl, .string text, rfl⟩

/-- A property, a word and a scalar make an array of one level. -/
theorem rereadsAs_leafJson (name word : String) {operand : Json} {step : Except FilterError Json}
    (h : RereadsAs operand 0 step) :
    RereadsAs (leafJson name word operand) 1 (do return leafJson name word (← step)) := by
  refine ⟨?_, ?_, ?_⟩
  · simp [leafJson, Json.depth, Json.itemsDepth, h.depth_eq]
  · refine .array _ ?_
    simp [h.numbersFit, Json.NumbersFit.string]
  · rw [h.eq_ok]
    rfl

/-- Two joined arrays add a level to the deeper one. -/
theorem rereadsAs_pairJson (word : String) {left right : Json} {depthLeft depthRight : Nat}
    {stepLeft stepRight : Except FilterError Json} (hl : RereadsAs left depthLeft stepLeft)
    (hr : RereadsAs right depthRight stepRight) :
    RereadsAs (pairJson left word right) (max depthLeft depthRight + 1)
      (do return pairJson (← stepLeft) word (← stepRight)) := by
  refine ⟨?_, ?_, ?_⟩
  · simp [pairJson, Json.depth, Json.itemsDepth, hl.depth_eq, hr.depth_eq]
  · refine .array _ ?_
    simp [hl.numbersFit, hr.numbersFit, Json.NumbersFit.string]
  · rw [hl.eq_ok, hr.eq_ok]
    rfl

/-- A negation adds a level. -/
theorem rereadsAs_notJson {inner : Json} {depth : Nat} {step : Except FilterError Json}
    (h : RereadsAs inner depth step) :
    RereadsAs (notJson inner) (depth + 1) (do return notJson (← step)) := by
  refine ⟨?_, ?_, ?_⟩
  · simp [notJson, Json.depth, Json.itemsDepth, h.depth_eq]
  · refine .array _ ?_
    simp [h.numbersFit, Json.NumbersFit.string]
  · rw [h.eq_ok]
    rfl

/-- An equality is an array of one level. -/
theorem rereadsAs_of_equalityJson {name : String} {value : Value} {document : Json}
    (h : equalityJson name value = .ok document) :
    RereadsAs document 1 (equalityJson name value.jsonRounded) := by
  obtain ⟨operand, hvalue, heq⟩ := bind_eq_ok.1 h
  cases heq
  exact rereadsAs_leafJson name "=" (rereadsAs_of_scalarJson hvalue)

/-- Every further alternative adds a level. -/
theorem rereadsAs_of_foldlM {name : String} {values : List Value} {start document : Json}
    {depth : Nat} {step : Except FilterError Json} (hstart : RereadsAs start (depth + 1) step)
    (h : values.foldlM (fun found value => do
      return pairJson found "or" (← equalityJson name value)) start = .ok document) :
    RereadsAs document (depth + 1 + values.length) (do
      let start ← step
      (values.map Value.jsonRounded).foldlM (fun found value => do
        return pairJson found "or" (← equalityJson name value)) start) := by
  induction values generalizing start depth step with
  | nil =>
    cases h
    rw [hstart.eq_ok]
    exact ⟨hstart.depth_eq, hstart.numbersFit, rfl⟩
  | cons value rest ih =>
    rw [List.foldlM_cons] at h
    obtain ⟨next, hnext, h⟩ := bind_eq_ok.1 h
    obtain ⟨equality, hequality, heq⟩ := bind_eq_ok.1 hnext
    cases heq
    have hpair := rereadsAs_pairJson "or" hstart (rereadsAs_of_equalityJson hequality)
    rw [Nat.max_eq_left (Nat.le_add_left 1 depth)] at hpair
    have hrest := ih hpair h
    rw [hstart.eq_ok] at hrest ⊢
    rw [List.map_cons, ok_bind, List.foldlM_cons]
    rw [List.length_cons, Nat.add_comm rest.length, ← Nat.add_assoc]
    simpa only [ok_bind] using hrest

/-- The array of a property test. -/
theorem rereadsAs_of_testJson {name : String} {test : PropertyTest} {document : Json}
    (h : testJson name test = .ok document) :
    RereadsAs document test.arrayDepth (testJson name (test.mapValues Value.jsonRounded)) := by
  have hnull : RereadsAs (leafJson name "=" .null) 1 (.ok (leafJson name "=" .null)) :=
    rereadsAs_leafJson name "=" (rereadsAs_of_scalarJson (show scalarJson .null = .ok .null from rfl))
  cases test with
  | compare operator value =>
    rw [testJson] at h
    rw [PropertyTest.mapValues, testJson]
    cases hword : comparisonWord? operator with
    | none =>
      rw [hword] at h
      cases h
    | some word =>
      rw [hword] at h
      obtain ⟨operand, hvalue, heq⟩ := bind_eq_ok.1 h
      cases heq
      exact rereadsAs_leafJson name word (rereadsAs_of_scalarJson hvalue)
  | text function argument =>
    obtain ⟨operand, hvalue, heq⟩ := bind_eq_ok.1 h
    cases heq
    exact rereadsAs_leafJson name (functionWord function) (rereadsAs_of_scalarJson hvalue)
  | isNullOrEmpty =>
    cases h
    have hempty := rereadsAs_of_scalarJson (show scalarJson (.string "") = .ok (.string "") from rfl)
    exact rereadsAs_pairJson "or" hnull (rereadsAs_leafJson name "=" hempty)
  | between low high =>
    obtain ⟨first, hlow, h⟩ := bind_eq_ok.1 h
    obtain ⟨second, hhigh, heq⟩ := bind_eq_ok.1 h
    cases heq
    have hfirst := rereadsAs_of_scalarJson hlow
    have hsecond := rereadsAs_of_scalarJson hhigh
    have hpair := rereadsAs_pairJson "and" (rereadsAs_leafJson name ">=" hfirst)
      (rereadsAs_leafJson name "<=" hsecond)
    refine ⟨hpair.depth_eq, hpair.numbersFit, ?_⟩
    -- Both scalars are written before either of the bounds.
    rw [PropertyTest.mapValues, testJson, hfirst.eq_ok, hsecond.eq_ok]
    rfl
  | oneOf values =>
    cases values with
    | nil => cases h
    | cons first rest =>
      obtain ⟨start, hstart, h⟩ := bind_eq_ok.1 h
      have hequality : RereadsAs start (0 + 1) (equalityJson name first.jsonRounded) :=
        rereadsAs_of_equalityJson hstart
      rw [PropertyTest.arrayDepth, List.length_cons, Nat.add_comm, ← Nat.zero_add 1]
      exact rereadsAs_of_foldlM hequality h
  | isNull =>
    cases h
    exact hnull
  | isNotNull =>
    cases h
    exact rereadsAs_notJson hnull
  | within => cases h

/-- **The array of a filter has the depth of the filter, and what is read back from its text is the array of
    the filter with rounded doubles.** -/
theorem rereadsAs_of_ofCriteria {criteria : Criteria} {document : Json}
    (h : ofCriteria criteria = .ok document) :
    RereadsAs document criteria.arrayDepth (ofCriteria (criteria.mapValues Value.jsonRounded)) := by
  induction criteria generalizing document with
  | and left right ihl ihr =>
    obtain ⟨l, r, hl, hr, rfl⟩ := pairJson_eq_ok.1 h
    exact rereadsAs_pairJson "and" (ihl hl) (ihr hr)
  | or left right ihl ihr =>
    obtain ⟨l, r, hl, hr, rfl⟩ := pairJson_eq_ok.1 h
    exact rereadsAs_pairJson "or" (ihl hl) (ihr hr)
  | not inner ih =>
    obtain ⟨t, ht, heq⟩ := bind_eq_ok.1 h
    cases heq
    exact rereadsAs_notJson (ih ht)
  | property name test => exact rereadsAs_of_testJson h
  | any => cases h
  | currentUser => cases h

/-! ### Texts -/

/-- The text of an array is read back unless the filter is nested too deep. -/
theorem criteriaOfText_text {criteria : Criteria} (hwf : criteria.WellFormed) {document : Json}
    (h : ofCriteria criteria = .ok document) :
    criteriaOfText document.text
      = if criteria.arrayDepth ≤ Json.maxDepth then
          .ok (criteria.mapValues Value.jsonRounded).arrayForm
        else .error .deserialization := by
  have hreread := rereadsAs_of_ofCriteria h
  unfold criteriaOfText
  rw [Json.ofText?_text_of_numbersFit hreread.numbersFit, hreread.depth_eq]
  by_cases hdepth : criteria.arrayDepth ≤ Json.maxDepth
  · rw [if_pos hdepth, if_pos hdepth]
    exact toCriteria_of_ofCriteria (hwf.mapValues _) hreread.eq_ok
  · rw [if_neg hdepth, if_neg hdepth]

/-- **The text that a filter is written as is read exactly if the filter is not nested too deep**, and then as
    the filter in array form with its doubles rounded. The names in the filter must be property names. -/
theorem criteriaOfText_textOfCriteria {criteria : Criteria} (hwf : criteria.WellFormed)
    {text : String} (h : textOfCriteria criteria = .ok text) :
    criteriaOfText text
      = if criteria.arrayDepth ≤ Json.maxDepth then
          .ok (criteria.mapValues Value.jsonRounded).arrayForm
        else .error .deserialization := by
  obtain ⟨document, hdocument, htext⟩ := bind_eq_ok.1 h
  cases htext
  exact criteriaOfText_text hwf hdocument

/-- A property that is one of so many numbers. -/
def choice (count : Nat) : Criteria :=
  .property "Id" (.oneOf ((List.range count).map fun number => .int (.ofNat number)))

/-- The deepest choice that may be joined to something else. -/
def deepFilter : Criteria :=
  .and (choice 126) (.not (.property "Price" (.compare .less (.float (.ofRatio true 37 2)))))

theorem criteriaOfText_textOfCriteria_deepFilter :
    deepFilter.WellFormed ∧ ∃ text, textOfCriteria deepFilter = .ok text
      ∧ criteriaOfText text = .ok deepFilter.arrayForm := by
  have hwf : deepFilter.WellFormed := by decide +kernel
  have hrounded : deepFilter.mapValues Value.jsonRounded = deepFilter := by decide +kernel
  have hsome : (textOfCriteria deepFilter).toOption.isSome := by decide +kernel
  obtain ⟨text, htext⟩ := Option.isSome_iff_exists.1 hsome
  refine ⟨hwf, text, eq_ok_of_toOption htext, ?_⟩
  rw [criteriaOfText_textOfCriteria hwf (eq_ok_of_toOption htext), if_pos (by decide +kernel), hrounded]

/-- A choice of 128 numbers is written but not read. -/
theorem criteriaOfText_refuses_choice :
    (choice 128).WellFormed ∧ ∃ text, textOfCriteria (choice 128) = .ok text
      ∧ criteriaOfText text = .error .deserialization := by
  have hwf : (choice 128).WellFormed := by decide +kernel
  have hsome : (ofCriteria (choice 128)).toOption.isSome := by decide +kernel
  obtain ⟨document, hdocument⟩ := Option.isSome_iff_exists.1 hsome
  have hwritten := eq_ok_of_toOption hdocument
  refine ⟨hwf, document.text, bind_eq_ok.2 ⟨document, hwritten, rfl⟩, ?_⟩
  rw [criteriaOfText_text hwf hwritten]
  exact if_neg (by decide +kernel)

end CompactArray

end RecordFilter
