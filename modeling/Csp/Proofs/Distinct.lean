import Mathlib.Data.Set.Card

/-!
# Each item once

Collections of nodes and of values keep the first of several equal items. These
laws say what that leaves of a list. None of them needs equality to be identity
except the first: values of transitions are compared by number, and a truth
value and an integer can be equal without being the same.
-/
namespace Csp

variable {α β γ : Type} [BEq α]

/-- Induction along the removal of repetitions: the rest of a list comes in without the items
that equal its first one. -/
theorem distinct_induction {motive : List α → Prop} (nil : motive [])
    (cons : ∀ item rest, motive (rest.filter fun other => !other == item) → motive (item :: rest))
    (items : List α) : motive items := by
  match items with
  | [] => exact nil
  | item :: rest => exact cons item rest (distinct_induction nil cons _)
termination_by items.length
decreasing_by exact Nat.lt_succ_of_le (List.length_filter_le _ _)

/-- What is left after repetitions are erased has none. The induction is that of the erasure, which
takes the first item and goes on without its copies. -/
theorem nodup_eraseDups [LawfulBEq α] (items : List α) : items.eraseDups.Nodup := by
  induction items using distinct_induction with
  | nil => exact List.nodup_nil
  | cons item rest inductionHypothesis =>
    rw [List.eraseDups_cons]
    refine List.nodup_cons.mpr ⟨?_, inductionHypothesis⟩
    intro again
    simp at again

/-- A test that does not tell equal items apart passes on some item exactly when it passes on
some item that is kept. -/
theorem any_eraseDups (items : List α) (test : α → Bool)
    (respects : ∀ item other, (item == other) = true → test item = test other) :
    items.eraseDups.any test = items.any test := by
  induction items using distinct_induction with
  | nil => rfl
  | cons item rest inductionHypothesis =>
    rw [List.eraseDups_cons, List.any_cons, List.any_cons, inductionHypothesis, List.any_filter]
    cases first : test item with
    | true => rfl
    | false =>
      congr 2
      funext other
      cases same : other == item with
      | false => rfl
      | true => simp [respects other item same, first]

/-- A renaming under which two items are equal exactly when they were so before. Items that were
equal without being the same may be renamed in different ways. -/
def Faithful [BEq β] (rename : α → β) : Prop :=
  ∀ item other, (rename item == rename other) = (item == other)

/-- Where equality is identity, a renaming is faithful when it is injective. -/
theorem Faithful.of_injective [LawfulBEq α] [BEq β] [LawfulBEq β] {rename : α → β}
    (injective : Function.Injective rename) : Faithful rename := by
  intro item other
  rw [Bool.eq_iff_iff, beq_iff_eq, beq_iff_eq, injective.eq_iff]

/-- Renaming and erasing repetitions can be done in either order, if different items keep different
names. -/
theorem Faithful.eraseDups_map [BEq β] {rename : α → β} (faithful : Faithful rename)
    (items : List α) : (items.map rename).eraseDups = items.eraseDups.map rename := by
  induction items using distinct_induction with
  | nil => rfl
  | cons item rest inductionHypothesis =>
    rw [List.map_cons, List.eraseDups_cons, List.eraseDups_cons, List.map_cons,
      ← inductionHypothesis, List.filter_map]
    simp only [Function.comp_def, faithful _ _]

/-- Without repetitions, an item that is alone in a list is all of it. -/
theorem eq_singleton_of_sole {items : List γ} {item : γ} (unique : items.Nodup)
    (member : item ∈ items) (sole : ∀ other ∈ items, other = item) : items = [item] := by
  by_contra several
  rcases (unique.ne_singleton_iff item).mp several with rfl | ⟨other, memberToo, different⟩
  · cases member
  · exact different (sole other memberToo)

/-- A list without repetitions is as long as the set of its items is large. So counting a list of
that kind is counting the items that have some property. -/
theorem length_eq_ncard {items : List γ} {members : Set γ} (unique : items.Nodup)
    (exact : ∀ item, item ∈ items ↔ item ∈ members) : items.length = members.ncard := by
  classical
  have same : members = ↑items.toFinset := by
    ext item
    simp [exact]
  rw [same, Set.ncard_coe_finset, List.toFinset_card_of_nodup unique]

end Csp
