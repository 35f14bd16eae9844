import Csp.Diagram.Basic
import Csp.Proofs.Distinct
import Csp.Proofs.Outcome
import Csp.Proofs.Walk

/-!
# The levels of a diagram and its walks

The expansion of a diagram never looks at walks: it makes each level out of the
one before it. Here its levels are shown to hold exactly the nodes, other than
the terminal, at the ends of the walks of one length from the root, and the
outcome of the expansion is told from these levels alone: it succeeds when the
bound is enough to empty them and all of them are consistent.
-/
namespace Csp.Diagram

open Transition

variable {ν α : Type}

/-- The level that is so many expansions after a level. -/
def levelAfter [BEq ν] (transitions : List (Transition ν α)) (terminal : ν) :
    (steps : Nat) → (level : List ν) → List ν
  | 0, level => level
  | steps + 1, level =>
    levelAfter transitions terminal steps (nextLevel transitions terminal level)

/-- The sources in a level all have the same outgoing values. Dead ends have none and are left
out. -/
def Consistent [BEq α] (transitions : List (Transition ν α)) (level : List ν) : Prop :=
  ∀ node ∈ level, ∀ other ∈ level, IsSource transitions node → IsSource transitions other →
    SameOffers transitions node other

/-- A level without nodes has no two nodes that differ. -/
theorem consistent_nil [BEq α] {transitions : List (Transition ν α)} :
    Consistent transitions [] := by
  intro node member
  cases member

section Expansion

variable [BEq ν] {transitions : List (Transition ν α)} {terminal : ν}

/-- Nothing comes after a level without nodes, so an expansion that has come to an end does not
start again. -/
theorem nextLevel_nil : nextLevel transitions terminal [] = [] := rfl

/-- Nothing comes after an empty level. -/
theorem levelAfter_nil (steps : Nat) : levelAfter transitions terminal steps [] = [] := by
  induction steps with
  | zero => rfl
  | succ steps inductionHypothesis => rw [levelAfter, nextLevel_nil, inductionHypothesis]

/-- The last expansion can be split off as well as the first. Inductions on the depth go forward in
this form. -/
theorem levelAfter_succ (steps : Nat) (level : List ν) :
    levelAfter transitions terminal (steps + 1) level =
      nextLevel transitions terminal (levelAfter transitions terminal steps level) := by
  induction steps generalizing level with
  | zero => rfl
  | succ steps inductionHypothesis =>
    rw [levelAfter, inductionHypothesis, levelAfter]

/-- All levels are consistent when the first is and all those after it are. The expansion looks at
them in this order. -/
theorem consistent_levels [BEq α] {level : List ν} :
    (∀ steps, Consistent transitions (levelAfter transitions terminal steps level)) ↔
      Consistent transitions level ∧ ∀ steps, Consistent transitions
        (levelAfter transitions terminal steps (nextLevel transitions terminal level)) := by
  constructor
  · intro all
    exact ⟨all 0, fun steps => all (steps + 1)⟩
  · rintro ⟨first, later⟩ steps
    cases steps with
    | zero => exact first
    | succ steps => exact later steps

end Expansion

section Membership

variable [BEq ν] [LawfulBEq ν] {transitions : List (Transition ν α)} {terminal : ν}

/-- The next level holds the targets of the transitions that leave a level, but the terminal. -/
theorem mem_nextLevel {level : List ν} {node : ν} :
    node ∈ nextLevel transitions terminal level ↔
      ∃ t ∈ transitions, t.source ∈ level ∧ t.target = node ∧ node ≠ terminal := by
  simp only [nextLevel, successors, List.mem_eraseDups, List.mem_flatMap, List.mem_map,
    List.mem_filter, Bool.and_eq_true, beq_iff_eq, bne_iff_ne]
  constructor
  · rintro ⟨source, member, t, ⟨listed, rfl, other⟩, rfl⟩
    exact ⟨t, listed, member, rfl, other⟩
  · rintro ⟨t, listed, member, rfl, other⟩
    exact ⟨t.source, member, t, ⟨listed, rfl, other⟩, rfl⟩

/-- A level holds exactly the ends of the walks of its depth, without the terminal. No walk goes
on from the terminal, so leaving it out of a level removes nothing from the levels after it. -/
theorem mem_levelAfter {root node : ν} (silent : ¬ IsSource transitions terminal)
    (apart : root ≠ terminal) (steps : Nat) :
    node ∈ levelAfter transitions terminal steps [root] ↔
      WalkOf transitions steps root node ∧ node ≠ terminal := by
  induction steps generalizing node with
  | zero =>
    rw [levelAfter, List.mem_singleton, walkOf_zero]
    constructor
    · rintro rfl
      exact ⟨rfl, apart⟩
    · rintro ⟨rfl, _⟩
      rfl
  | succ steps inductionHypothesis =>
    rw [levelAfter_succ, mem_nextLevel, walkOf_succ]
    constructor
    · rintro ⟨t, listed, member, reached, other⟩
      exact ⟨⟨t, listed, (inductionHypothesis.mp member).1, reached⟩, other⟩
    · rintro ⟨⟨t, listed, walk, reached⟩, other⟩
      have inside : t.source ≠ terminal := fun same => silent ⟨t, listed, same⟩
      exact ⟨t, listed, inductionHypothesis.mpr ⟨walk, inside⟩, reached, other⟩

/-- The values on the transitions that leave a node, as a test. -/
theorem offered_contains [BEq α] [PartialEquivBEq α] (node : ν) (value : α) :
    (offered transitions node).contains value = true ↔ Offers transitions node value := by
  simp only [offered, List.contains_iff_exists_mem_beq, List.mem_map, List.mem_filter,
    beq_iff_eq]
  constructor
  · rintro ⟨_, ⟨t, ⟨listed, left⟩, rfl⟩, same⟩
    exact ⟨t, listed, left, BEq.symm same⟩
  · rintro ⟨t, listed, left, same⟩
    exact ⟨t.value, ⟨t, ⟨listed, left⟩, rfl⟩, BEq.symm same⟩

/-- A node offers a value exactly if a transition leaves it. -/
theorem offered_isEmpty (node : ν) :
    (offered transitions node).isEmpty = false ↔ IsSource transitions node := by
  simp only [offered, List.isEmpty_eq_false_iff_exists_mem, List.mem_map, List.mem_filter,
    beq_iff_eq]
  constructor
  · rintro ⟨_, t, ⟨listed, left⟩, _⟩
    exact ⟨t, listed, left⟩
  · rintro ⟨t, listed, left⟩
    exact ⟨t.value, t, ⟨listed, left⟩, rfl⟩

end Membership

section Outcome

variable [BEq ν] [LawfulBEq ν] [BEq α] [EquivBEq α] {transitions : List (Transition ν α)}
variable {terminal : ν}

/-- A source of a level lacks a value when another one has it and it has not. It is compared with
all values of the level together, which include its own. -/
theorem lacksValue_levelValues {level : List ν} {node : ν} :
    lacksValue transitions (levelValues transitions level) node = true ↔
      IsSource transitions node ∧
        ∃ other ∈ level, ∃ value, Offers transitions other value ∧
          ¬ Offers transitions node value := by
  have respects : ∀ value same : α, (value == same) = true →
      (!(offered transitions node).contains value) = !(offered transitions node).contains same := by
    intro value same equal
    rw [List.contains_congr equal]
  simp only [lacksValue, levelValues, Bool.and_eq_true, Bool.not_eq_true',
    any_eraseDups _ _ respects, offered_isEmpty, List.any_eq_true, List.mem_flatMap]
  refine and_congr_right fun _ => ?_
  constructor
  · rintro ⟨value, ⟨other, member, has⟩, lacks⟩
    refine ⟨other, member, value, ?_, ?_⟩
    · exact (offered_contains other value).mp (List.contains_iff_exists_mem_beq.mpr
        ⟨value, has, BEq.refl value⟩)
    · intro own
      rw [(offered_contains node value).mpr own] at lacks
      cases lacks
  · rintro ⟨other, member, value, ⟨t, listed, left, same⟩, lacks⟩
    refine ⟨t.value, ⟨other, member, ?_⟩, ?_⟩
    · simp only [offered, List.mem_map, List.mem_filter, beq_iff_eq]
      exact ⟨t, ⟨listed, left⟩, rfl⟩
    · rw [← Bool.not_eq_true, offered_contains]
      rintro ⟨u, own, leftToo, equal⟩
      exact lacks ⟨u, own, leftToo, BEq.trans equal same⟩

/-- The search for a node that lacks a value fails exactly on the consistent levels. Two sources
that differ each have a value that the level has, and one of them lacks one. -/
theorem find?_lacksValue_eq_none {level : List ν} :
    level.find? (lacksValue transitions (levelValues transitions level)) = none ↔
      Consistent transitions level := by
  simp only [List.find?_eq_none, lacksValue_levelValues]
  constructor
  · intro complete node member other memberToo isSource isSourceToo value
    constructor
    · intro has
      exact Classical.byContradiction fun lacks =>
        complete other memberToo ⟨isSourceToo, node, member, value, has, lacks⟩
    · intro has
      exact Classical.byContradiction fun lacks =>
        complete node member ⟨isSource, other, memberToo, value, has, lacks⟩
  · rintro consistent node member ⟨isSource, other, memberToo, value, has, lacks⟩
    exact lacks ((consistent node member other memberToo isSource has.isSource value).mpr has)

/-- A consistent level is kept and the next one is expanded. This is one step of the loop, which
inductions over the expansion follow. -/
theorem expand_consistent (bound : Nat) {level : List ν} (filled : level ≠ [])
    (consistent : Consistent transitions level) :
    expand transitions terminal (bound + 1) level =
      (expand transitions terminal bound (nextLevel transitions terminal level)).map
        (level :: ·) := by
  cases level with
  | nil => exact absurd rfl filled
  | cons node others => simp only [expand, find?_lacksValue_eq_none.mpr consistent]

/-- An inconsistent level is refused with one of its nodes. It is the first such node in the order
of the level, which is not specified further. -/
theorem expand_inconsistent (terminal : ν) (bound : Nat) {level : List ν}
    (inconsistent : ¬ Consistent transitions level) :
    ∃ node ∈ level,
      expand transitions terminal (bound + 1) level = .error (.inconsistentLevel node) := by
  cases level with
  | nil => exact absurd consistent_nil inconsistent
  | cons first others =>
    cases found : (first :: others).find?
        (lacksValue transitions (levelValues transitions (first :: others))) with
    | none => exact absurd (find?_lacksValue_eq_none.mp found) inconsistent
    | some node =>
      refine ⟨node, List.mem_of_find?_eq_some found, ?_⟩
      simp only [expand, found]

/-- The expansion succeeds exactly when the bound empties the levels and they are consistent. The
induction is on the bound, and the level changes along with it. -/
theorem expand_ok_iff (bound : Nat) (level : List ν) :
    (∃ levels, expand transitions terminal bound level = .ok levels) ↔
      levelAfter transitions terminal bound level = [] ∧
        ∀ steps, Consistent transitions (levelAfter transitions terminal steps level) := by
  induction bound generalizing level with
  | zero =>
    cases level with
    | nil => simp [levelAfter_nil, consistent_nil]
    | cons node others => simp [expand, levelAfter]
  | succ bound inductionHypothesis =>
    by_cases filled : level = []
    · subst filled
      simp [levelAfter_nil, consistent_nil]
    · rw [consistent_levels]
      by_cases consistent : Consistent transitions level
      · have following := inductionHypothesis (nextLevel transitions terminal level)
        simp only [expand_consistent bound filled consistent, map_eq_ok, consistent, true_and,
          levelAfter, ← following]
        constructor
        · rintro ⟨_, levels, expanded, _⟩
          exact ⟨levels, expanded⟩
        · rintro ⟨levels, expanded⟩
          exact ⟨level :: levels, levels, expanded, rfl⟩
      · obtain ⟨node, _, refused⟩ := expand_inconsistent terminal bound consistent
        simp [refused, consistent]

/-- An expansion is refused for the bound or for a node of a level, and for nothing else. The node
that is named stands on the level that was refused. -/
theorem expand_error {bound : Nat} {level : List ν} {fault : Fault ν}
    (refused : expand transitions terminal bound level = .error fault) :
    fault = .cyclic ∨ ∃ node, fault = .inconsistentLevel node := by
  induction bound generalizing level with
  | zero =>
    cases level with
    | nil => cases refused
    | cons node others =>
      cases refused
      exact .inl rfl
  | succ bound inductionHypothesis =>
    by_cases filled : level = []
    · subst filled
      rw [expand_nil] at refused
      cases refused
    · by_cases consistent : Consistent transitions level
      · rw [expand_consistent bound filled consistent, map_eq_error] at refused
        exact inductionHypothesis refused
      · obtain ⟨node, _, outcome⟩ := expand_inconsistent terminal bound consistent
        rw [outcome] at refused
        cases refused
        exact .inr ⟨node, rfl⟩

/-- A successful expansion returns no level for an empty level. Any other level it returns first,
having found it consistent, and then what it returns for the next level under a smaller bound. -/
theorem expand_ok_cases {bound : Nat} {level : List ν} {levels : List (List ν)}
    (expanded : expand transitions terminal bound level = .ok levels) :
    (level = [] ∧ levels = []) ∨
      (level ≠ [] ∧ Consistent transitions level ∧ ∃ smaller rest,
        expand transitions terminal smaller (nextLevel transitions terminal level) = .ok rest ∧
          levels = level :: rest) := by
  by_cases filled : level = []
  · subst filled
    rw [expand_nil] at expanded
    exact .inl ⟨rfl, (Except.ok.inj expanded).symm⟩
  · cases bound with
    | zero =>
      cases level with
      | nil => exact absurd rfl filled
      | cons node others => cases expanded
    | succ smaller =>
      by_cases consistent : Consistent transitions level
      · rw [expand_consistent smaller filled consistent] at expanded
        obtain ⟨rest, later, rfl⟩ := map_eq_ok.mp expanded
        exact .inr ⟨filled, consistent, smaller, rest, later, rfl⟩
      · obtain ⟨node, _, refused⟩ := expand_inconsistent terminal smaller consistent
        rw [refused] at expanded
        cases expanded

/-- The levels that a successful expansion returns are the ones until the first that is empty. -/
theorem expand_getElem? {bound : Nat} {level : List ν} {levels : List (List ν)}
    (expanded : expand transitions terminal bound level = .ok levels) (steps : Nat) :
    levels[steps]?.getD [] = levelAfter transitions terminal steps level := by
  induction levels generalizing bound level steps with
  | nil =>
    rcases expand_ok_cases expanded with ⟨rfl, _⟩ | ⟨_, _, _, _, _, impossible⟩
    · simp [levelAfter_nil]
    · cases impossible
  | cons first rest inductionHypothesis =>
    rcases expand_ok_cases expanded with ⟨_, impossible⟩ | ⟨_, _, smaller, _, later, same⟩
    · cases impossible
    · cases same
      cases steps with
      | zero => rfl
      | succ steps => exact inductionHypothesis later steps

/-- No level that a successful expansion returns is empty. An empty level ends the expansion and is
not returned. -/
theorem expand_filled {bound : Nat} {level : List ν} {levels : List (List ν)}
    (expanded : expand transitions terminal bound level = .ok levels) :
    ∀ returned ∈ levels, returned ≠ [] := by
  induction levels generalizing bound level with
  | nil =>
    intro returned member
    cases member
  | cons first rest inductionHypothesis =>
    rcases expand_ok_cases expanded with ⟨_, impossible⟩ | ⟨filled, _, smaller, _, later, same⟩
    · cases impossible
    · cases same
      intro returned member
      rcases List.mem_cons.mp member with rfl | member
      · exact filled
      · exact inductionHypothesis later returned member

end Outcome

end Csp.Diagram
