import Mathlib.Data.List.Forall2

/-!
# Outcomes

An outcome is a result or a failure, and a computation goes on after a result
only. These laws take a successful computation apart into its steps, and tell
which failures a computation can have from those that its steps can have.
-/
namespace Csp

variable {ε β γ : Type}

/-- A changed result comes from a result before the change. -/
theorem map_eq_ok {outcome : Except ε β} {change : β → γ} {result : γ} :
    outcome.map change = .ok result ↔ ∃ value, outcome = .ok value ∧ change value = result := by
  cases outcome <;> simp [Except.map]

/-- Changing the result leaves a failure as it is. -/
theorem map_eq_error {outcome : Except ε β} {change : β → γ} {failure : ε} :
    outcome.map change = .error failure ↔ outcome = .error failure := by
  cases outcome <;> simp [Except.map]

/-- Wording a failure differently leaves a result as it is. -/
theorem mapError_eq_ok {ε' : Type} {outcome : Except ε β} {change : ε → ε'} {result : β} :
    outcome.mapError change = .ok result ↔ outcome = .ok result := by
  cases outcome <;> simp [Except.mapError]

/-- The same for the change by the functor of outcomes, which is the same function. -/
theorem functor_map_eq_ok {outcome : Except ε β} {change : β → γ} {result : γ} :
    change <$> outcome = .ok result ↔ ∃ value, outcome = .ok value ∧ change value = result :=
  map_eq_ok

/-- A computation of two steps succeeds when both of them do. This takes the steps of a computation
apart one by one, so that nothing has to be unfolded. -/
theorem bind_eq_ok {outcome : Except ε β} {next : β → Except ε γ} {result : γ} :
    (outcome >>= next) = .ok result ↔
      ∃ value, outcome = .ok value ∧ next value = .ok result := by
  cases outcome <;> simp [bind, Except.bind]

/-- A computation of two steps fails when the first one does, or else the second one. What the first
step has returned is known where the second one fails. -/
theorem bind_eq_error {outcome : Except ε β} {next : β → Except ε γ} {failure : ε} :
    (outcome >>= next) = .error failure ↔
      outcome = .error failure ∨ ∃ value, outcome = .ok value ∧ next value = .error failure := by
  cases outcome <;> simp [bind, Except.bind]

/-- An action on the items of a list succeeds when it does on each of them. The results come in the
order of the items. -/
theorem mapM_eq_ok {action : β → Except ε γ} {items : List β} {results : List γ} :
    items.mapM action = .ok results ↔
      List.Forall₂ (fun item result => action item = .ok result) items results := by
  induction items generalizing results with
  | nil => cases results <;> simp [pure, Except.pure]
  | cons item rest inductionHypothesis =>
    simp only [List.mapM_cons, bind_eq_ok, inductionHypothesis, pure, Except.pure,
      Except.ok.injEq, List.forall₂_cons_left_iff]
    constructor
    · rintro ⟨result, done, others, all, rfl⟩
      exact ⟨result, others, done, all, rfl⟩
    · rintro ⟨result, others, done, all, rfl⟩
      exact ⟨result, done, others, all, rfl⟩

/-- An action that leaves each of its results alone leaves all of them alone. So an entity that is
made again from what it keeps keeps it. -/
theorem mapM_again {action : β → Except ε β} {items results : List β}
    (again : ∀ item result, action item = .ok result → action result = .ok result)
    (done : items.mapM action = .ok results) : results.mapM action = .ok results := by
  rw [mapM_eq_ok] at done ⊢
  rw [List.forall₂_same]
  induction done with
  | nil => exact List.forall_mem_nil _
  | cons first _ inductionHypothesis =>
    exact List.forall_mem_cons.mpr ⟨again _ _ first, inductionHypothesis⟩

/-- An action on the items of a list fails as it does on the first item on which it fails. Items
after it are not looked at. -/
theorem mapM_eq_error_of_first {action : β → Except ε γ} {before after : List β} {item : β}
    {failure : ε} (done : ∀ earlier ∈ before, ∃ result, action earlier = .ok result)
    (failed : action item = .error failure) :
    (before ++ item :: after).mapM action = .error failure := by
  induction before with
  | nil => simp [failed, bind, Except.bind]
  | cons first before inductionHypothesis =>
    obtain ⟨⟨result, firstDone⟩, restDone⟩ := List.forall_mem_cons.mp done
    rw [List.cons_append, List.mapM_cons, firstDone]
    exact bind_eq_error.mpr (.inr ⟨result, rfl, bind_eq_error.mpr
      (.inl (inductionHypothesis restDone))⟩)

/-- The same for items that are brought into another form first. So it is enough to know of each
item what becomes of its form. -/
theorem mapM_map_eq_error_of_first {δ : Type} {form : β → γ} {action : γ → Except ε δ}
    {before after : List β} {item : β} {failure : ε}
    (done : ∀ earlier ∈ before, ∃ result, action (form earlier) = .ok result)
    (failed : action (form item) = .error failure) :
    ((before ++ item :: after).map form).mapM action = .error failure := by
  rw [List.mapM_map]
  exact mapM_eq_error_of_first done failed

/-- Where an action on the items of a list fails, it fails on some item after it was done on all
those before. -/
theorem first_of_mapM_eq_error {action : β → Except ε γ} {items : List β} {failure : ε}
    (failed : items.mapM action = .error failure) :
    ∃ before item after, items = before ++ item :: after ∧
      (∀ earlier ∈ before, ∃ result, action earlier = .ok result) ∧
      action item = .error failure := by
  induction items with
  | nil => cases failed
  | cons first rest inductionHypothesis =>
    rw [List.mapM_cons] at failed
    rcases bind_eq_error.mp failed with now | ⟨result, done, failed⟩
    · exact ⟨[], first, rest, rfl, List.forall_mem_nil _, now⟩
    · rcases bind_eq_error.mp failed with later | ⟨others, _, impossible⟩
      · obtain ⟨before, item, after, rfl, doneToo, failedThere⟩ := inductionHypothesis later
        exact ⟨first :: before, item, after, rfl,
          List.forall_mem_cons.mpr ⟨⟨result, done⟩, doneToo⟩, failedThere⟩
      · cases impossible

/-- Of the items of a list that have a property, one comes first. None of those in front of it has
the property. -/
theorem exists_first {property : β → Prop} {items : List β}
    (has : ∃ item ∈ items, property item) :
    ∃ before item after, items = before ++ item :: after ∧
      (∀ earlier ∈ before, ¬ property earlier) ∧ property item := by
  induction items with
  | nil =>
    obtain ⟨_, impossible, _⟩ := has
    cases impossible
  | cons first rest inductionHypothesis =>
    by_cases now : property first
    · exact ⟨[], first, rest, rfl, List.forall_mem_nil _, now⟩
    · have later : ∃ item ∈ rest, property item := by
        simpa only [List.exists_mem_cons_iff, now, false_or] using has
      obtain ⟨before, item, after, rfl, none, found⟩ := inductionHypothesis later
      exact ⟨first :: before, item, after, rfl, List.forall_mem_cons.mpr ⟨now, none⟩, found⟩

/-- All failures that an outcome can be are of an allowed sort. Nothing is said about results. -/
def FailsOnly (allowed : ε → Prop) (outcome : Except ε β) : Prop :=
  ∀ failure, outcome = .error failure → allowed failure

namespace FailsOnly

variable {allowed : ε → Prop}

/-- A result is no failure at all. -/
@[simp] theorem ok (result : β) : FailsOnly allowed (.ok result) := by
  intro failure failed
  cases failed

/-- A failure is all that a failed outcome can fail with. -/
@[simp] theorem error {failure : ε} :
    FailsOnly allowed (.error failure : Except ε β) ↔ allowed failure := by
  constructor
  · intro fails
    exact fails failure rfl
  · intro fits other failed
    cases failed
    exact fits

/-- The second step needs to be looked at for the results of the first one only. -/
theorem bind {outcome : Except ε β} {next : β → Except ε γ} (first : FailsOnly allowed outcome)
    (second : ∀ value, outcome = .ok value → FailsOnly allowed (next value)) :
    FailsOnly allowed (outcome >>= next) := by
  intro failure failed
  rcases bind_eq_error.mp failed with early | ⟨value, done, late⟩
  · exact first failure early
  · exact second value done failure late

/-- Failures that are worded differently are all of an allowed sort if each is in its new words. -/
theorem mapError {ε' : Type} {outcome : Except ε' β} {change : ε' → ε}
    (each : ∀ failure, outcome = .error failure → allowed (change failure)) :
    FailsOnly allowed (outcome.mapError change) := by
  cases outcome with
  | ok result => exact .ok result
  | error failure => exact error.mpr (each failure rfl)

/-- Going through a list fails only as one of its items does. -/
theorem mapM {action : β → Except ε γ} (each : ∀ item, FailsOnly allowed (action item))
    (items : List β) : FailsOnly allowed (items.mapM action) := by
  induction items with
  | nil => exact .ok []
  | cons item rest inductionHypothesis =>
    rw [List.mapM_cons]
    refine (each item).bind fun result _ => inductionHypothesis.bind fun others _ => ?_
    exact .ok (result :: others)

end FailsOnly
end Csp
