import Csp.Proofs.Diagram.Ends
import Csp.Proofs.Diagram.Level
import Csp.Proofs.Given

/-!
# Which diagrams are accepted

Well-formedness says of the walks of a diagram what its check finds out by
expanding levels: the root and the terminal are ends of the two kinds, no cycle
can be reached from the root, and all sources at one depth have the same values.
The check accepts exactly the well-formed diagrams.

The bound of the expansion is one more than the number of sources. It is never
reached on a diagram without reachable cycles, because a walk that long repeats
a source; and it is always reached when there is one, because a cycle keeps
every level from being empty.
-/
namespace Csp.Diagram

open Transition

variable {ν α : Type}

/-- A decision diagram, said of its walks from the root. What cannot be reached from the root is
free, except for what it says about the two ends. -/
structure WellFormed [BEq α] (transitions : List (Transition ν α)) (root terminal : ν) : Prop where
  isRoot : IsRoot transitions root
  isTerminal : IsTerminal transitions terminal
  acyclic : ∀ node, Reachable transitions root node → ¬ OnCycle transitions node
  consistent : ∀ steps node other, WalkOf transitions steps root node →
    WalkOf transitions steps root other → IsSource transitions node → IsSource transitions other →
      SameOffers transitions node other

/-- A root is left by a transition and a terminal is not, so no node is both. A diagram without
transitions between them does not exist. -/
theorem IsRoot.ne_terminal {transitions : List (Transition ν α)} {root terminal : ν}
    (isRoot : IsRoot transitions root) (isTerminal : IsTerminal transitions terminal) :
    root ≠ terminal := by
  rintro rfl
  exact isTerminal.2 isRoot.1

variable [BEq ν] [LawfulBEq ν] {transitions : List (Transition ν α)} {root terminal : ν}

/-- The depth-bounded expansion of a diagram ends with an empty level exactly when no cycle can
be reached. -/
theorem levelAfter_bound_iff (isRoot : IsRoot transitions root)
    (isTerminal : IsTerminal transitions terminal) :
    levelAfter transitions terminal ((sources transitions).length + 1) [root] = [] ↔
      ∀ node, Reachable transitions root node → ¬ OnCycle transitions node := by
  have apart : root ≠ terminal := isRoot.ne_terminal isTerminal
  constructor
  · intro empty node reached cycle
    obtain ⟨last, walk⟩ := long_walk_of_cycle reached cycle ((sources transitions).length + 1 + 1)
    obtain ⟨t, listed, front, _⟩ := walkOf_succ.mp walk
    have inside : t.source ≠ terminal := fun same => isTerminal.2 ⟨t, listed, same⟩
    have member := (mem_levelAfter isTerminal.2 apart _).mpr ⟨front, inside⟩
    rw [empty] at member
    cases member
  · intro acyclic
    by_contra filled
    obtain ⟨node, member⟩ := List.exists_mem_of_ne_nil _ filled
    obtain ⟨walk, _⟩ := (mem_levelAfter isTerminal.2 apart _).mp member
    obtain ⟨back, reached, cycle⟩ := cycle_of_long_walk walk (Nat.lt_succ_self _)
    exact acyclic back reached cycle

/-- All levels are consistent exactly when all sources at one depth have the same values. The level
of a depth holds the ends of the walks of that length, so both sides speak of the same nodes. -/
theorem consistent_levels_iff [BEq α] (isRoot : IsRoot transitions root)
    (isTerminal : IsTerminal transitions terminal) :
    (∀ steps, Consistent transitions (levelAfter transitions terminal steps [root])) ↔
      ∀ steps node other, WalkOf transitions steps root node → WalkOf transitions steps root other →
        IsSource transitions node → IsSource transitions other →
          SameOffers transitions node other := by
  have apart : root ≠ terminal := isRoot.ne_terminal isTerminal
  have inside {node : ν} (isSource : IsSource transitions node) : node ≠ terminal := by
    rintro rfl
    exact isTerminal.2 isSource
  constructor
  · intro consistent steps node other walk walkToo isSource isSourceToo
    exact consistent steps node
      ((mem_levelAfter isTerminal.2 apart steps).mpr ⟨walk, inside isSource⟩) other
      ((mem_levelAfter isTerminal.2 apart steps).mpr ⟨walkToo, inside isSourceToo⟩) isSource
      isSourceToo
  · intro same steps node member other memberToo isSource isSourceToo
    exact same steps node other ((mem_levelAfter isTerminal.2 apart steps).mp member).1
      ((mem_levelAfter isTerminal.2 apart steps).mp memberToo).1 isSource isSourceToo

/-- The check is the check of the ends and then the expansion of the root. The bound of the
expansion is one more than the number of sources. -/
theorem check_eq_ok_iff [BEq α] {levels : List (List ν)} :
    check transitions root terminal = .ok levels ↔
      IsRoot transitions root ∧ IsTerminal transitions terminal ∧
        expand transitions terminal ((sources transitions).length + 1) [root] = .ok levels := by
  rw [← and_assoc, ← checkEnds_ok_iff, check]
  cases checkEnds transitions root terminal <;> simp

/-- The check accepts exactly the well-formed diagrams. That the expansion ends within its bound is
the absence of cycles, because a walk that is long enough repeats a source. -/
theorem check_ok_iff_wellFormed [BEq α] [EquivBEq α] :
    (∃ levels, check transitions root terminal = .ok levels) ↔
      WellFormed transitions root terminal := by
  simp only [check_eq_ok_iff, exists_and_left, expand_ok_iff]
  constructor
  · rintro ⟨isRoot, isTerminal, empty, consistent⟩
    exact ⟨isRoot, isTerminal, (levelAfter_bound_iff isRoot isTerminal).mp empty,
      (consistent_levels_iff isRoot isTerminal).mp consistent⟩
  · rintro ⟨isRoot, isTerminal, acyclic, consistent⟩
    exact ⟨isRoot, isTerminal, (levelAfter_bound_iff isRoot isTerminal).mpr acyclic,
      (consistent_levels_iff isRoot isTerminal).mpr consistent⟩

section Levels

variable [BEq α] [EquivBEq α] {levels : List (List ν)}

/-- The levels of an accepted diagram hold the ends of the walks of their depth, without the
terminal; there are none of them below the last level. -/
theorem mem_levels (accepted : check transitions root terminal = .ok levels) (depth : Nat)
    (node : ν) :
    node ∈ levels[depth]?.getD [] ↔ WalkOf transitions depth root node ∧ node ≠ terminal := by
  obtain ⟨isRoot, isTerminal, expanded⟩ := check_eq_ok_iff.mp accepted
  rw [expand_getElem? expanded]
  exact mem_levelAfter isTerminal.2 (isRoot.ne_terminal isTerminal) depth

/-- What stands on a level is the end of a walk whose length is the place of the level. The terminal
is on no level. -/
theorem walk_of_mem_level (accepted : check transitions root terminal = .ok levels)
    {level : List ν} (listed : level ∈ levels) {node : ν} (member : node ∈ level) :
    ∃ depth, levels[depth]? = some level ∧ WalkOf transitions depth root node ∧
      node ≠ terminal := by
  obtain ⟨depth, placed⟩ := List.getElem?_of_mem listed
  have inside : node ∈ levels[depth]?.getD [] := by
    rw [placed]
    exact member
  exact ⟨depth, placed, (mem_levels accepted depth node).mp inside⟩

/-- A walk that has as many steps as there are levels has come to the terminal. Otherwise its end
would stand on a level after the last one. -/
theorem eq_terminal_of_long_walk (accepted : check transitions root terminal = .ok levels)
    {depth : Nat} (below : levels.length ≤ depth) {node : ν}
    (walk : WalkOf transitions depth root node) : node = terminal := by
  by_contra other
  have inside := (mem_levels accepted depth node).mpr ⟨walk, other⟩
  rw [List.getElem?_eq_none below] at inside
  cases inside

/-- No walk from the root has more steps than there are levels, since none goes on from the
terminal. -/
theorem walk_le_levels (accepted : check transitions root terminal = .ok levels) {steps : Nat}
    {node : ν} (walk : WalkOf transitions steps root node) : steps ≤ levels.length := by
  obtain ⟨_, isTerminal, _⟩ := check_eq_ok_iff.mp accepted
  by_contra above
  obtain ⟨before, rfl⟩ := Nat.exists_eq_add_one.mpr (Nat.zero_lt_of_lt (Nat.lt_of_not_le above))
  obtain ⟨t, listed, front, _⟩ := walkOf_succ.mp walk
  have arrived : t.source = terminal := eq_terminal_of_long_walk accepted (by omega) front
  exact isTerminal.2 ⟨t, listed, arrived⟩

/-- Down to the last level there are nodes other than the terminal. A level that is not empty has a
node, and a node stands on it only as the end of a walk. -/
theorem exists_walk_of_lt (accepted : check transitions root terminal = .ok levels) {depth : Nat}
    (above : depth < levels.length) :
    ∃ node, WalkOf transitions depth root node ∧ node ≠ terminal := by
  obtain ⟨_, _, expanded⟩ := check_eq_ok_iff.mp accepted
  have filled : levels[depth] ≠ [] := expand_filled expanded _ (List.getElem_mem above)
  obtain ⟨node, member⟩ := List.exists_mem_of_ne_nil _ filled
  have inside : node ∈ levels[depth]?.getD [] := by
    rw [List.getElem?_eq_getElem above]
    exact member
  exact ⟨node, (mem_levels accepted depth node).mp inside⟩

end Levels

/-- Whatever a diagram is refused for is a violation of a rule of validation. None of its faults is
an error of construction. -/
theorem Fault.family_violation (fault : Fault String) : fault.violation.family = .validation := by
  cases fault <;> rfl

/-- Every transition list over named nodes is either a well-formed diagram between a root and a
terminal, and then its check returns levels, or it is not, and then its check reports a violation
of a rule of validation. -/
theorem accepted_iff_wellFormed (transitions : List (Transition String Label))
    (root terminal : String) :
    ((∃ levels, checkGiven (.list (transitions.map .ofTransition)) (.text root) (.text terminal) =
        .ok levels) ↔ WellFormed transitions root terminal) ∧
      ((∃ violation : Violation, violation.family = .validation ∧
        checkGiven (.list (transitions.map .ofTransition)) (.text root) (.text terminal) =
          .error (.violation violation)) ↔ ¬ WellFormed transitions root terminal) := by
  rw [checkGiven_ofTransition, ← check_ok_iff_wellFormed]
  cases check transitions root terminal with
  | ok levels => simp [Except.map, Except.mapError]
  | error fault =>
    have refused : ∃ violation : Violation, violation.family = .validation ∧
        (.error (.violation fault.violation) : Except Failure (List (List Value))) =
          .error (.violation violation) :=
      ⟨fault.violation, fault.family_violation, rfl⟩
    simpa [Except.map, Except.mapError] using refused

end Csp.Diagram
