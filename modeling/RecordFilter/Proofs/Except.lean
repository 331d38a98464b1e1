import Mathlib.Data.List.Forall2

namespace RecordFilter

/-!
# Steps that may fail

* `ok_bind`, `bind_eq_ok`, `exists_bind_iff` — a sequence of steps succeeds if the first one and then the rest
  do.
* `toOption_bind`, `toOption_map` — the results of steps, their failures left out.
* `foldlM_keeps` — what the steps of a fold keep holds of its result.
* `mapM_eq_some_iff`, `mapM_eq_ok_iff` — a list of results has one exactly if each of them has.
* `exists_mapM_iff`, `mapM_eq_ok`, `mapM_eq_error` — steps for the members of a list succeed if all of them do,
  and fail with the first one that fails.
* `Ends` — what holds of the result of a step, and what of its failure.
* `Makes` — what holds of the result, whatever the failure.
-/

variable {ε α β : Type}

/-- A successful step hands its result on. -/
@[simp] theorem ok_bind (a : α) (next : α → Except ε β) : (Except.ok a >>= next) = next a := rfl

/-- A sequence of steps succeeds exactly if the first one does and the rest succeeds on its result.
    -/
theorem bind_eq_ok {step : Except ε α} {next : α → Except ε β} {b : β} :
    (step >>= next) = .ok b ↔ ∃ a, step = .ok a ∧ next a = .ok b := by
  constructor
  · intro h
    cases step with
    | error => cases h
    | ok a => exact ⟨a, rfl, h⟩
  · rintro ⟨a, rfl, h⟩
    exact h

/-- If it does not depend on the result of the first step whether the rest succeeds, both have to. -/
theorem exists_bind_iff {step : Except ε α} {next : α → Except ε β} {rest : Prop}
    (h : ∀ a, (∃ b, next a = .ok b) ↔ rest) :
    (∃ b, (step >>= next) = .ok b) ↔ (∃ a, step = .ok a) ∧ rest := by
  cases step with
  | error => exact iff_of_false nofun fun hboth => nomatch hboth.1
  | ok a => exact (h a).trans (and_iff_right ⟨a, rfl⟩).symm

/-- A step whose result is changed succeeds if the step does. -/
theorem exists_return_iff {step : Except ε α} (f : α → β) :
    (∃ b, (do return f (← step) : Except ε β) = .ok b) ↔ ∃ a, step = .ok a :=
  (exists_bind_iff fun _ => iff_of_true ⟨_, rfl⟩ True.intro).trans (and_iff_left True.intro)

/-- A step succeeds if it has a result. -/
theorem eq_ok_of_toOption {step : Except ε α} {a : α} (h : step.toOption = some a) :
    step = .ok a := by
  cases step with
  | error => cases h
  | ok => exact congrArg Except.ok (Option.some.inj h)

/-- A mapped step succeeds exactly if the step does, with the mapped result. -/
theorem map_eq_ok {step : Except ε α} {f : α → β} {b : β} :
    step.map f = .ok b ↔ ∃ a, step = .ok a ∧ f a = b := by
  cases step with
  | error => exact iff_of_false nofun nofun
  | ok a => simp [Except.map]

/-- The result of a sequence of steps is that of the rest on the result of the first one. -/
theorem toOption_bind (step : Except ε α) (next : α → Except ε β) :
    (step >>= next).toOption = step.toOption.bind fun a => (next a).toOption := by
  cases step <;> rfl

/-- The result of a mapped step is the mapped result of the step. -/
theorem toOption_map (step : Except ε α) (f : α → β) :
    (step.map f).toOption = step.toOption.map f := by
  cases step <;> rfl

/-- What every step of a fold keeps holds of the result, if the fold succeeds. -/
theorem foldlM_keeps {list : List α} {f : β → α → Except ε β} {keeps : β → Prop}
    (hstep : ∀ before a after, f before a = .ok after → keeps before → keeps after) {start last : β}
    (hstart : keeps start) (h : list.foldlM f start = .ok last) : keeps last := by
  induction list generalizing start with
  | nil =>
    cases h
    exact hstart
  | cons a rest ih =>
    rw [List.foldlM_cons] at h
    obtain ⟨next, hnext, h⟩ := bind_eq_ok.1 h
    exact ih (hstep start a next hnext hstart) h

/-- A list of lookups finds something exactly if each of them does. -/
theorem mapM_eq_some_iff {lookup : α → Option β} {list : List α} {found : List β} :
    list.mapM lookup = some found ↔ List.Forall₂ (fun a b => lookup a = some b) list found := by
  induction list generalizing found with
  | nil =>
    rw [List.forall₂_nil_left_iff]
    exact ⟨fun h => (Option.some.inj h).symm, fun h => h ▸ rfl⟩
  | cons a rest ih =>
    rw [List.mapM_cons, List.forall₂_cons_left_iff]
    constructor
    · intro h
      obtain ⟨b, hb, h⟩ := Option.bind_eq_some_iff.1 h
      obtain ⟨others, hothers, h⟩ := Option.bind_eq_some_iff.1 h
      exact ⟨b, others, hb, ih.1 hothers, (Option.some.inj h).symm⟩
    · rintro ⟨b, others, hb, hothers, rfl⟩
      rw [hb, ih.2 hothers]
      rfl

/-- Whatever a list of lookups finds, one of them has found. -/
theorem exists_of_mapM_eq_some {lookup : α → Option β} {list : List α} {found : List β}
    (h : list.mapM lookup = some found) {b : β} (hb : b ∈ found) :
    ∃ a ∈ list, lookup a = some b := by
  have hall := mapM_eq_some_iff.1 h
  clear h
  induction hall with
  | nil => exact absurd hb List.not_mem_nil
  | @cons a first rest others hfirst _ ih =>
    rcases List.mem_cons.1 hb with rfl | hb
    · exact ⟨a, List.mem_cons_self, hfirst⟩
    · obtain ⟨other, hother, hlookup⟩ := ih hb
      exact ⟨other, List.mem_cons_of_mem a hother, hlookup⟩

/-- Steps for the members of a list succeed exactly if each of them does. -/
theorem exists_mapM_iff {list : List α} {f : α → Except ε β} :
    (∃ results, list.mapM f = .ok results) ↔ ∀ a ∈ list, ∃ b, f a = .ok b := by
  induction list with
  | nil => exact iff_of_true ⟨[], rfl⟩ (List.forall_mem_nil _)
  | cons a rest ih =>
    rw [List.mapM_cons, List.forall_mem_cons, ← ih]
    exact exists_bind_iff fun b => exists_return_iff fun others => b :: others

/-- Steps for the members of a list have these results exactly if each of them has its own. -/
theorem mapM_eq_ok_iff {list : List α} {f : α → Except ε β} {results : List β} :
    list.mapM f = .ok results ↔ List.Forall₂ (fun a b => f a = .ok b) list results := by
  induction list generalizing results with
  | nil =>
    rw [List.forall₂_nil_left_iff]
    exact ⟨fun h => (Except.ok.inj h).symm, fun h => h ▸ rfl⟩
  | cons a rest ih =>
    rw [List.mapM_cons, List.forall₂_cons_left_iff]
    constructor
    · intro h
      obtain ⟨b, hb, h⟩ := bind_eq_ok.1 h
      obtain ⟨others, hothers, h⟩ := bind_eq_ok.1 h
      exact ⟨b, others, hb, ih.1 hothers, (Except.ok.inj h).symm⟩
    · rintro ⟨b, others, hb, hothers, rfl⟩
      rw [hb, ih.2 hothers]
      rfl

/-- Steps that all succeed have the list of their results. -/
theorem mapM_eq_ok {list : List α} {f : α → Except ε β} {g : α → β}
    (h : ∀ a ∈ list, f a = .ok (g a)) : list.mapM f = .ok (list.map g) := by
  induction list with
  | nil => rfl
  | cons a rest ih =>
    obtain ⟨ha, hrest⟩ := List.forall_mem_cons.1 h
    rw [List.mapM_cons, ha, ih hrest]
    rfl

/-- Changing the result of each of the steps changes the results. -/
theorem mapM_map {γ : Type} (list : List α) (f : α → Except ε β) (g : β → γ) :
    list.mapM (fun a => (f a).map g) = (list.mapM f).map (List.map g) := by
  induction list with
  | nil => rfl
  | cons a rest ih =>
    rw [List.mapM_cons, List.mapM_cons, ih]
    cases f a <;> cases rest.mapM f <;> rfl

/-- Steps for the members of a list fail with the first one that fails. -/
theorem mapM_eq_error {before after : List α} {a : α} {f : α → Except ε β} {fault : ε}
    (hbefore : ∀ other ∈ before, ∃ b, f other = .ok b) (h : f a = .error fault) :
    (before ++ a :: after).mapM f = .error fault := by
  obtain ⟨results, hresults⟩ := exists_mapM_iff.2 hbefore
  rw [List.mapM_append, hresults, List.mapM_cons, h]
  rfl

/-- A step ends with a result that satisfies one predicate, or with a failure that satisfies another
    one. -/
def Ends (post : α → Prop) (cause : ε → Prop) : Except ε α → Prop
  | .ok a => post a
  | .error e => cause e

/-- A step fails, or ends with a result that satisfies a predicate. -/
abbrev Makes (post : α → Prop) (step : Except ε α) : Prop :=
  Ends post (fun _ => True) step

/-- Whatever a step does, a predicate that the rest always makes holds after it. -/
theorem makes_bind {step : Except ε α} {next : α → Except ε β} {last : β → Prop}
    (hnext : ∀ a, Makes last (next a)) : Makes last (step >>= next) := by
  cases step with
  | error => exact True.intro
  | ok a => exact hnext a

namespace Ends

variable {step : Except ε α} {post : α → Prop} {cause : ε → Prop}

/-- Both predicates may be weakened. -/
theorem mono {post' : α → Prop} {cause' : ε → Prop} (h : Ends post cause step)
    (hpost : ∀ a, post a → post' a) (hcause : ∀ e, cause e → cause' e) :
    Ends post' cause' step := by
  cases step with
  | error e => exact hcause e h
  | ok a => exact hpost a h

/-- What is said of the failure may be weakened. -/
theorem mono_error {cause' : ε → Prop} (h : Ends post cause step)
    (hcause : ∀ e, cause e → cause' e) : Ends post cause' step :=
  h.mono (fun _ ha => ha) hcause

/-- The failures of a sequence of steps are those of the first one and those of the rest. -/
theorem bind {next : α → Except ε β} {last : β → Prop} (h : Ends post cause step)
    (hnext : ∀ a, step = .ok a → post a → Ends last cause (next a)) :
    Ends last cause (step >>= next) := by
  cases step with
  | error e => exact h
  | ok a => exact hnext a rfl h

/-- The failures of a step are also those of the step with its result mapped. -/
theorem map {post' : β → Prop} {f : α → β} (h : Ends post cause step)
    (hf : ∀ a, step = .ok a → post a → post' (f a)) : Ends post' cause (step.map f) := by
  cases step with
  | error e => exact h
  | ok a => exact hf a rfl h

/-- The failures of steps for the members of a list are those of the single steps. -/
theorem mapM {post : β → Prop} {list : List α} {f : α → Except ε β}
    (h : ∀ a ∈ list, Ends post cause (f a)) :
    Ends (fun results => ∀ b ∈ results, post b) cause (list.mapM f) := by
  induction list with
  | nil => exact fun b hb => absurd hb List.not_mem_nil
  | cons a rest ih =>
    rw [List.mapM_cons]
    refine (h a List.mem_cons_self).bind fun b _ hb => ?_
    refine (ih fun a ha => h a (List.mem_cons_of_mem _ ha)).bind fun results _ hresults => ?_
    exact List.forall_mem_cons.2 ⟨hb, hresults⟩

/-- The result of a step satisfies the predicate. -/
theorem of_eq_ok {a : α} (h : Ends post cause step) (hok : step = .ok a) : post a := by
  rw [hok] at h
  exact h

/-- A step has a result or a failure. -/
theorem ok_or_error (h : Ends post cause step) :
    (∃ a, step = .ok a ∧ post a) ∨ ∃ e, step = .error e ∧ cause e := by
  cases step with
  | error e => exact Or.inr ⟨e, rfl, h⟩
  | ok a => exact Or.inl ⟨a, rfl, h⟩

end Ends

end RecordFilter
