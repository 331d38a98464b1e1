import RecordFilter.Proofs.Condition.Search
import RecordFilter.Proofs.Condition.Soundness

namespace RecordFilter

open Text

/-!
# Patterns

A pattern is a text with wildcards. Filters understand a wildcard at the beginning and one at the end of a
pattern; in between it is a character like any other.

* `Text.Matches` — a text comes from a pattern by replacing its wildcards.
* `Text.matches_append` — it consists of a text for each part of the pattern.
* `Text.WildAtEnds` — there are no wildcards in the middle of a pattern.
* `Pattern.Asks` — the test that a pattern asks for, with the wildcards at its ends left out.
* `Pattern.Asks.compile_eq` — the pattern is bound like the test.
* `Pattern.Asks.evaluate` — the test holds of the texts that match the pattern if no other wildcard is in it.
* `Condition.like_meaning` — all of it, for every pattern but the empty one.
-/

namespace Text

/-! ### Matching -/

/-- The text comes from the pattern by replacing every wildcard by some text, or by none. -/
inductive Matches : List Char → List Char → Prop
  | nil : Matches [] []
  | literal {c : Char} {pattern text : List Char} (hc : c ≠ '%') (h : Matches pattern text) :
      Matches (c :: pattern) (c :: text)
  | wildcard {pattern text : List Char} (replacement : List Char) (h : Matches pattern text) :
      Matches ('%' :: pattern) (replacement ++ text)

/-- There are no wildcards in the pattern but the first and the last character. -/
def WildAtEnds (pattern : List Char) : Prop :=
  ∀ before after, pattern = before ++ '%' :: after → before = [] ∨ after = []

variable {pattern text : List Char}

/-- A wildcard takes the beginning of the text, whatever it is. -/
theorem matches_wildcard_cons :
    Matches ('%' :: pattern) text
      ↔ ∃ replacement rest, text = replacement ++ rest ∧ Matches pattern rest := by
  constructor
  · intro h
    cases h with
    | literal hc => exact absurd rfl hc
    | wildcard replacement h => exact ⟨replacement, _, rfl, h⟩
  · rintro ⟨replacement, rest, rfl, h⟩
    exact .wildcard replacement h

/-- A pattern without wildcards matches itself only. -/
theorem matches_of_not_mem (h : '%' ∉ pattern) : Matches pattern text ↔ text = pattern := by
  induction pattern generalizing text with
  | nil =>
    constructor
    · intro h
      cases h
      rfl
    · rintro rfl
      exact .nil
  | cons c rest ih =>
    rw [List.mem_cons, not_or] at h
    obtain ⟨hc, hrest⟩ := h
    constructor
    · intro h
      cases h with
      | literal _ h => rw [(ih hrest).1 h]
      | wildcard => exact absurd rfl hc
    · rintro rfl
      exact .literal (Ne.symm hc) ((ih hrest).2 rfl)

/-- A text matches a pattern of two parts if it consists of a text for each of them. -/
theorem matches_append {first second : List Char} :
    Matches (first ++ second) text
      ↔ ∃ before after, text = before ++ after ∧ Matches first before ∧ Matches second after := by
  constructor
  · intro h
    induction first generalizing text with
    | nil => exact ⟨[], text, rfl, .nil, h⟩
    | cons c rest ih =>
      cases h with
      | literal hc h =>
        obtain ⟨before, after, rfl, hbefore, hafter⟩ := ih h
        exact ⟨c :: before, after, rfl, .literal hc hbefore, hafter⟩
      | wildcard replacement h =>
        obtain ⟨before, after, rfl, hbefore, hafter⟩ := ih h
        exact ⟨replacement ++ before, after, (List.append_assoc ..).symm, .wildcard _ hbefore, hafter⟩
  · rintro ⟨before, after, rfl, hbefore, hafter⟩
    induction hbefore with
    | nil => exact hafter
    | literal hc _ ih => exact .literal hc ih
    | wildcard replacement _ ih =>
      rw [List.append_assoc]
      exact .wildcard replacement ih

/-- A wildcard alone matches every text. -/
theorem matches_wildcard (text : List Char) : Matches ['%'] text := by
  simpa using Matches.wildcard text .nil

section

variable {body : List Char} (hbody : '%' ∉ body)

include hbody

/-- With a wildcard after it, a pattern matches the texts that begin with it. -/
theorem matches_startsWith : Matches (body ++ ['%']) text ↔ body <+: text := by
  simp only [matches_append, matches_of_not_mem hbody, matches_wildcard, and_true]
  constructor
  · rintro ⟨_, after, rfl, rfl⟩
    apply List.prefix_append
  · rintro ⟨after, rfl⟩
    exact ⟨body, after, rfl, rfl⟩

/-- With a wildcard before it, a pattern matches the texts that end with it. -/
theorem matches_endsWith : Matches ('%' :: body) text ↔ body <:+ text := by
  simp only [matches_wildcard_cons, matches_of_not_mem hbody]
  constructor
  · rintro ⟨replacement, _, rfl, rfl⟩
    apply List.suffix_append
  · rintro ⟨replacement, rfl⟩
    exact ⟨replacement, body, rfl, rfl⟩

/-- With a wildcard before and after it, a pattern matches the texts in which it stands. -/
theorem matches_contains : Matches ('%' :: (body ++ ['%'])) text ↔ body <:+: text := by
  simp only [matches_wildcard_cons, matches_startsWith hbody]
  constructor
  · rintro ⟨replacement, _, rfl, after, rfl⟩
    exact ⟨replacement, after, by simp⟩
  · rintro ⟨replacement, after, rfl⟩
    exact ⟨replacement, body ++ after, by simp, after, rfl⟩

end

end Text

namespace Condition

/-! ### Answers -/

section

variable {path : MemberPath} {record : Record} {field : FieldValue}
  (hread : readMember record path = .ok field) (hfield : field = .null ∨ ∃ text, field = .text text)

include hread hfield

/-- A text test holds of a text that passes it, and not of null. -/
theorem evaluate_plain (function : TextFunction) (needle : String) :
    ∃ answer, (Condition.text path function needle .plain).evaluate record = .ok answer
      ∧ (answer = true ↔ ∃ text, field = .text text ∧ function.holds text needle = true) := by
  rw [evaluate, hread, ok_bind]
  rcases hfield with rfl | ⟨text, rfl⟩
  · exact ⟨false, rfl, by simp⟩
  · exact ⟨function.holds text needle, rfl, by simp⟩

/-- An equality with a text holds of that text, and not of null. -/
theorem evaluate_equal_string (operand : String) :
    ∃ answer, (Condition.compare path .equal (.string operand)).evaluate record = .ok answer
      ∧ (answer = true ↔ ∃ text, field = .text text ∧ text = operand) := by
  rw [evaluate, hread, ok_bind]
  rcases hfield with rfl | ⟨text, rfl⟩
  · exact ⟨false, rfl, by simp⟩
  · refine ⟨Relation.equal.holds (some (Ord.compare text operand)), rfl, ?_⟩
    simp [Relation.holds]

end

namespace Pattern

/-! ### What patterns ask for -/

/-- The test that a pattern asks for: without a wildcard at its beginning and one at its end, if they are there,
    the pattern is what the text has to contain, to begin or to end with, or to be. A lone wildcard is one at
    the end. -/
inductive Asks : List Char → PropertyTest → Prop
  | contains (body : List Char) :
      Asks ('%' :: (body ++ ['%'])) (.text .contains (.string (String.ofList body)))
  | startsWith (body : List Char) (h : body.head? ≠ some '%') :
      Asks (body ++ ['%']) (.text .startsWith (.string (String.ofList body)))
  | endsWith (body : List Char) (h : ('%' :: body).getLast? ≠ some '%') :
      Asks ('%' :: body) (.text .endsWith (.string (String.ofList body)))
  | equal (pattern : List Char) (hfirst : pattern.head? ≠ some '%')
      (hlast : pattern.getLast? ≠ some '%') :
      Asks pattern (.compare .equal (.string (String.ofList pattern)))

/-- Every pattern asks for a test. -/
theorem exists_asks (pattern : List Char) : ∃ test, Asks pattern test := by
  by_cases hlast : pattern.getLast? = some '%'
  · obtain ⟨body, rfl⟩ := List.getLast?_eq_some_iff.1 hlast
    by_cases hfirst : body.head? = some '%'
    · obtain ⟨rest, rfl⟩ := List.head?_eq_some_iff.1 hfirst
      exact ⟨_, .contains rest⟩
    · exact ⟨_, .startsWith body hfirst⟩
  · by_cases hfirst : pattern.head? = some '%'
    · obtain ⟨body, rfl⟩ := List.head?_eq_some_iff.1 hfirst
      exact ⟨_, .endsWith body hlast⟩
    · exact ⟨_, .equal pattern hfirst hlast⟩

/-- What a pattern asks for is found in its text. -/
theorem Asks.ofText_cases {pattern : List Char} {test : PropertyTest} (h : Asks pattern test) :
    (∃ function needle, ofText (String.ofList pattern) = .test function needle
        ∧ test = .text function (.string needle))
      ∨ ∃ text, ofText (String.ofList pattern) = .equal text
        ∧ test = .compare .equal (.string text) := by
  cases h with
  | contains body =>
    refine Or.inl ⟨.contains, String.ofList body, ?_, rfl⟩
    simp [ofText, List.getLast?_cons]
  | startsWith body h =>
    refine Or.inl ⟨.startsWith, String.ofList body, ?_, rfl⟩
    -- A lone wildcard also is the first character, but the pattern is too short to have two.
    cases body with
    | nil => simp [ofText]
    | cons c rest =>
      have hc : c ≠ '%' := by simpa using h
      have hdrop : (c :: (rest ++ ['%'])).dropLast = c :: rest := by
        rw [← List.cons_append, List.dropLast_concat]
      simp [ofText, hc, List.getLast?_cons, hdrop]
  | endsWith body h =>
    refine Or.inl ⟨.endsWith, String.ofList body, ?_, rfl⟩
    simp [ofText, h]
  | equal _ hfirst hlast =>
    refine Or.inr ⟨_, ?_, rfl⟩
    simp [ofText, hfirst, hlast]

/-- **A pattern is bound like the test that it asks for.** -/
theorem Asks.compile_eq {setting : Setting} {type : RecordType} {name : String} {target : Target}
    {pattern : String} {test : PropertyTest} (h : Asks pattern.toList test)
    (ht : Target.resolve type name = .ok target) (hkind : target.kind = .string)
    (hne : pattern ≠ "") :
    compile setting type (.property name (.compare .like (.string pattern)))
      = compile setting type (.property name test) := by
  rw [compile_property ht, compile_property ht, compileTest]
  show compileLike setting.culture target (.string pattern) = _
  unfold compileLike
  rw [hkind]
  dsimp only
  rw [if_neg hne]
  rcases h.ofText_cases with ⟨function, needle, hshape, rfl⟩ | ⟨text, hshape, rfl⟩ <;>
    rw [String.ofList_toList] at hshape <;> rw [hshape]
  · rw [compileTest, compileText, hkind]
    rfl
  · rfl

/-- If a pattern has wildcards at its ends only, it asks for a text test that the matching texts pass, or for
    equality without having a wildcard at all. -/
theorem Asks.matches_cases {pattern : List Char} {test : PropertyTest} (h : Asks pattern test)
    (hwild : WildAtEnds pattern) :
    (∃ function needle, test = .text function (.string needle)
        ∧ ∀ text : String, function.holds text needle = true ↔ Matches pattern text.toList)
      ∨ test = .compare .equal (.string (String.ofList pattern)) ∧ '%' ∉ pattern := by
  -- A further wildcard would have something before it and after it.
  cases h with
  | contains body =>
    have hbody : '%' ∉ body := by
      intro hmem
      obtain ⟨before, after, rfl⟩ := List.append_of_mem hmem
      simpa using hwild ('%' :: before) (after ++ ['%']) (by simp)
    refine Or.inl ⟨_, _, rfl, fun text => ?_⟩
    rw [matches_contains hbody, ← Text.occursIn_iff_infix, TextFunction.holds, String.toList_ofList]
  | startsWith body h =>
    have hbody : '%' ∉ body := by
      intro hmem
      obtain ⟨before, after, rfl⟩ := List.append_of_mem hmem
      have hbefore : before = [] := by simpa using hwild before (after ++ ['%']) (by simp)
      simp [hbefore] at h
    refine Or.inl ⟨_, _, rfl, fun text => ?_⟩
    rw [matches_startsWith hbody, ← List.isPrefixOf_iff_prefix, TextFunction.holds,
      String.toList_ofList]
  | endsWith body h =>
    have hbody : '%' ∉ body := by
      intro hmem
      obtain ⟨before, after, rfl⟩ := List.append_of_mem hmem
      have hafter : after = [] := by simpa using hwild ('%' :: before) after rfl
      simp [hafter, List.getLast?_cons] at h
    refine Or.inl ⟨_, _, rfl, fun text => ?_⟩
    rw [matches_endsWith hbody, ← List.isSuffixOf_iff_suffix, TextFunction.holds,
      String.toList_ofList]
  | equal _ hfirst hlast =>
    refine Or.inr ⟨rfl, fun hmem => ?_⟩
    obtain ⟨before, after, rfl⟩ := List.append_of_mem hmem
    rcases hwild before after rfl with rfl | rfl
    · simp at hfirst
    · simp at hlast

/-- **The test that a pattern asks for holds of the texts that match the pattern**, if the pattern has wildcards at
    its ends only. Of null it does not hold. -/
theorem Asks.evaluate {setting : Setting} {type : RecordType} {name : String} {target : Target}
    {pattern : List Char} {test : PropertyTest} (h : Asks pattern test)
    (hwild : WildAtEnds pattern) (ht : Target.resolve type name = .ok target)
    (hkind : target.kind = .string) :
    ∃ condition, compile setting type (.property name test) = .ok condition
      ∧ ∀ record field, readMember record target.path = .ok field →
        (field = .null ∨ ∃ text, field = .text text) →
          ∃ answer, condition.evaluate record = .ok answer
            ∧ (answer = true ↔ ∃ text, field = .text text ∧ Matches pattern text.toList) := by
  rcases h.matches_cases hwild with ⟨function, needle, rfl, hmatches⟩ | ⟨rfl, hplain⟩
  · refine ⟨.text target.path function needle .plain, ?_, fun record field hread hfield => ?_⟩
    · rw [compile_property ht, compileTest, compileText, hkind]
      rfl
    · simp only [← hmatches]
      exact evaluate_plain hread hfield function needle
  · refine ⟨target.compare .equal (.string (String.ofList pattern)), ?_,
      fun record field hread hfield => ?_⟩
    · rw [compile_property ht]
      refine compileRelation_eq_ok.2 ⟨_, ?_, rfl, rfl⟩
      unfold Value.coerce?
      rw [show target.member.kind = .string from hkind]
    · have hmatches : ∀ text : String, text = String.ofList pattern ↔ Matches pattern text.toList := by
        intro text
        rw [matches_of_not_mem hplain, ← String.toList_inj, String.toList_ofList]
      simp only [← hmatches]
      exact evaluate_equal_string hread hfield (String.ofList pattern)

end Pattern

/-! ### Patterns in filters -/

/-- **Patterns are matched by replacing their wildcards.** A pattern that is not empty is bound to a member that
    holds texts like the test for the pattern without a wildcard at its beginning and at its end. If it has
    no other wildcard, it can be bound, and it holds of a record if the record has a text there that comes
    from the pattern by replacing each wildcard by some text, or by none. Of null it does not hold. -/
theorem like_meaning {setting : Setting} {type : RecordType} {name : String} {target : Target}
    {pattern : String} (ht : Target.resolve type name = .ok target) (hkind : target.kind = .string)
    (hne : pattern ≠ "") :
    (∃ test, Pattern.Asks pattern.toList test)
      ∧ (∀ test, Pattern.Asks pattern.toList test →
        compile setting type (.property name (.compare .like (.string pattern)))
          = compile setting type (.property name test))
      ∧ (WildAtEnds pattern.toList →
        ∃ condition,
          compile setting type (.property name (.compare .like (.string pattern))) = .ok condition
            ∧ ∀ record field, readMember record target.path = .ok field →
              (field = .null ∨ ∃ text, field = .text text) →
                ∃ answer, condition.evaluate record = .ok answer
                  ∧ (answer = true
                    ↔ ∃ text, field = .text text ∧ Matches pattern.toList text.toList)) := by
  obtain ⟨test, htest⟩ := Pattern.exists_asks pattern.toList
  refine ⟨⟨test, htest⟩, fun test htest => htest.compile_eq ht hkind hne, fun hwild => ?_⟩
  rw [htest.compile_eq ht hkind hne]
  exact htest.evaluate hwild ht hkind

/-- An order whose customer has no name. -/
def namelessOrder : Record := fun name =>
  if name = "Customer" then some (.object fun _ => some .null) else order name

/-- A pattern that the name of the customer matches, and that a customer without a name does not. A pattern with a
    wildcard in between asks for equality. -/
theorem like_meaning_order :
    Target.resolve orderType "Customer.Name" = .ok ⟨⟨"Customer", ["Name"]⟩, ⟨"Name", .string, false⟩⟩
      ∧ WildAtEnds "A%".toList
      ∧ (∃ condition, compile orderSetting orderType
            (.property "Customer.Name" (.compare .like (.string "A%"))) = .ok condition
          ∧ condition.evaluate order = .ok true ∧ condition.evaluate namelessOrder = .ok false)
      ∧ compile orderSetting orderType (.property "Customer.Name" (.compare .like (.string "A%a")))
        = compile orderSetting orderType (.property "Customer.Name" (.compare .equal (.string "A%a"))) := by
  have ht : Target.resolve orderType "Customer.Name"
      = .ok ⟨⟨"Customer", ["Name"]⟩, ⟨"Name", .string, false⟩⟩ := by rfl
  have hwild : WildAtEnds "A%".toList := by
    rintro (_ | ⟨first, rest⟩) after h
    · exact Or.inl rfl
    · obtain ⟨-, h⟩ := List.cons.inj (show ['A', '%'] = first :: (rest ++ '%' :: after) from h)
      cases rest with
      | nil => exact Or.inr (List.cons.inj h).2.symm
      | cons => simp at h
  obtain ⟨-, -, hmeaning⟩ := like_meaning ht rfl (show "A%" ≠ "" by decide)
  obtain ⟨condition, hcompile, hanswer⟩ := hmeaning hwild
  obtain ⟨-, hasks, -⟩ := like_meaning ht rfl (show "A%a" ≠ "" by decide)
  refine ⟨ht, hwild, ⟨condition, hcompile, ?_, ?_⟩, ?_⟩
  · obtain ⟨answer, heval, hiff⟩ := hanswer order _ rfl (Or.inr ⟨"Ada", rfl⟩)
    have hmatches : Matches "A%".toList "Ada".toList := .literal (by decide) (.wildcard "da".toList .nil)
    rw [heval, hiff.2 ⟨"Ada", rfl, hmatches⟩]
  · obtain ⟨answer, heval, hiff⟩ := hanswer namelessOrder _ rfl (Or.inl rfl)
    have hno : answer ≠ true := by simp [hiff]
    rw [heval, Bool.eq_false_iff.2 hno]
  · exact hasks _ (.equal "A%a".toList (by decide) (by decide))

end Condition

end RecordFilter
