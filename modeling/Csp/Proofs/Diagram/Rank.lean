import Csp.Proofs.Diagram.Faults

/-!
# Ranked diagrams

A rank of the nodes of a diagram is zero for the root and grows by one along
each transition, of those that can be reached and do not lead to the terminal.
Where there is one, every walk from the root to a node has as many steps as the
rank of the node says. So there is no cycle to be found, the levels are the
nodes of one rank each, and all that is left for the check to refuse is a rank
at which two sources have different values.
-/
namespace Csp.Diagram

open Transition

variable {ν α : Type}

/-- A rank of the nodes that can be reached from the root. The terminal may have any rank.
Transitions between nodes that cannot be reached may do anything. -/
structure Ranked (transitions : List (Transition ν α)) (root terminal : ν) (rank : ν → Int) :
    Prop where
  root_eq_zero : rank root = 0
  target_eq_succ : ∀ t ∈ transitions, Reachable transitions root t.source → t.target ≠ terminal →
    rank t.target = rank t.source + 1

namespace Ranked

variable {transitions : List (Transition ν α)} {root terminal : ν} {rank : ν → Int}

/-- The rank of a node counts the steps of each walk that leads to it. The induction is on the walk,
each step of which adds one. -/
theorem eq_of_walk (ranked : Ranked transitions root terminal rank)
    (silent : ¬ IsSource transitions terminal) {steps : Nat} {node : ν}
    (walk : WalkOf transitions steps root node) (other : node ≠ terminal) :
    rank node = steps := by
  induction steps generalizing node with
  | zero =>
    have same : root = node := walkOf_zero.mp walk
    rw [← same]
    exact ranked.root_eq_zero
  | succ steps inductionHypothesis =>
    obtain ⟨t, listed, front, rfl⟩ := walkOf_succ.mp walk
    have inside : t.source ≠ terminal := fun same => silent ⟨t, listed, same⟩
    have before : rank t.source = steps := inductionHypothesis front inside
    have after : rank t.target = rank t.source + 1 :=
      ranked.target_eq_succ t listed ⟨steps, front⟩ other
    omega

/-- The nodes at a depth are the reachable nodes of that rank. So all walks to a node have the same
length. -/
theorem walk_iff (ranked : Ranked transitions root terminal rank)
    (silent : ¬ IsSource transitions terminal) (depth : Nat) (node : ν) :
    (WalkOf transitions depth root node ∧ node ≠ terminal) ↔
      Reachable transitions root node ∧ node ≠ terminal ∧ rank node = depth := by
  constructor
  · rintro ⟨walk, other⟩
    exact ⟨⟨depth, walk⟩, other, ranked.eq_of_walk silent walk other⟩
  · rintro ⟨⟨steps, walk⟩, other, place⟩
    have counted : rank node = steps := ranked.eq_of_walk silent walk other
    have same : steps = depth := by omega
    subst same
    exact ⟨walk, other⟩

/-- A cycle would lead back to a node with more steps than its rank. -/
theorem acyclic (ranked : Ranked transitions root terminal rank)
    (silent : ¬ IsSource transitions terminal) {node : ν}
    (reached : Reachable transitions root node) : ¬ OnCycle transitions node := by
  intro cycle
  have other : node ≠ terminal := by
    rintro rfl
    exact silent cycle.isSource
  obtain ⟨steps, walk⟩ := reached
  obtain ⟨length, positive, round⟩ := cycle
  have longer : WalkOf transitions (steps + length) root node :=
    (walkOf_add steps length).mpr ⟨node, walk, round⟩
  have counted : rank node = steps := ranked.eq_of_walk silent walk other
  have countedAgain : rank node = (steps + length : Nat) :=
    ranked.eq_of_walk silent longer other
  omega

/-- Sources at one depth are sources of one rank. This turns the condition on levels into one on
ranks, which does not mention walks. -/
theorem consistent_iff [BEq α] (ranked : Ranked transitions root terminal rank)
    (silent : ¬ IsSource transitions terminal) :
    (∀ steps node other, WalkOf transitions steps root node → WalkOf transitions steps root other →
        IsSource transitions node → IsSource transitions other →
          SameOffers transitions node other) ↔
      ∀ node other, Reachable transitions root node → Reachable transitions root other →
        IsSource transitions node → IsSource transitions other → rank node = rank other →
          SameOffers transitions node other := by
  have counted {steps : Nat} {node : ν} (walk : WalkOf transitions steps root node)
      (isSource : IsSource transitions node) : rank node = steps := by
    apply ranked.eq_of_walk silent walk
    rintro rfl
    exact silent isSource
  constructor
  · rintro consistent node other ⟨steps, walk⟩ ⟨more, walkToo⟩ isSource isSourceToo sameRank
    rw [counted walk isSource, counted walkToo isSourceToo] at sameRank
    have same : steps = more := by omega
    subst same
    exact consistent steps node other walk walkToo isSource isSourceToo
  · intro consistent steps node other walk walkToo isSource isSourceToo
    have sameRank : rank node = rank other := by
      rw [counted walk isSource, counted walkToo isSourceToo]
    exact consistent node other ⟨steps, walk⟩ ⟨steps, walkToo⟩ isSource isSourceToo sameRank

section Check

variable [BEq ν] [LawfulBEq ν] [BEq α] [EquivBEq α]

/-- Between a root and a terminal, a ranked diagram is accepted when the sources of one rank have
the same values. -/
theorem accepted_iff (ranked : Ranked transitions root terminal rank)
    (ends : checkEnds transitions root terminal = .ok ()) :
    (∃ levels, check transitions root terminal = .ok levels) ↔
      ∀ node other, Reachable transitions root node → Reachable transitions root other →
        IsSource transitions node → IsSource transitions other → rank node = rank other →
          SameOffers transitions node other := by
  obtain ⟨isRoot, isTerminal⟩ := checkEnds_ok_iff.mp ends
  rw [check_ok_iff_wellFormed, ← ranked.consistent_iff isTerminal.2]
  constructor
  · exact fun wellFormed => wellFormed.consistent
  · intro consistent
    exact ⟨isRoot, isTerminal, fun node reached => ranked.acyclic isTerminal.2 reached, consistent⟩

/-- A ranked diagram is never refused for a cycle. It may still be refused because its values
differ. -/
theorem not_cyclic (ranked : Ranked transitions root terminal rank)
    (ends : checkEnds transitions root terminal = .ok ()) :
    check transitions root terminal ≠ .error .cyclic := by
  intro reported
  obtain ⟨_, isTerminal⟩ := checkEnds_ok_iff.mp ends
  obtain ⟨_, node, reached, cycle⟩ := (check_cyclic_iff ends).mp reported
  exact ranked.acyclic isTerminal.2 reached cycle

variable {levels : List (List ν)}

/-- The levels of a ranked diagram are the reachable nodes of each rank, without the terminal, and
below the last level there are none. -/
theorem mem_levels (ranked : Ranked transitions root terminal rank)
    (accepted : check transitions root terminal = .ok levels) (depth : Nat) (node : ν) :
    node ∈ levels[depth]?.getD [] ↔
      Reachable transitions root node ∧ node ≠ terminal ∧ rank node = depth := by
  obtain ⟨_, isTerminal, _⟩ := check_eq_ok_iff.mp accepted
  rw [Diagram.mem_levels accepted, ranked.walk_iff isTerminal.2]

/-- A node has one rank, so it is on one level. Its rank is the place of that level. -/
theorem pairwise_disjoint (ranked : Ranked transitions root terminal rank)
    (accepted : check transitions root terminal = .ok levels) :
    levels.Pairwise List.Disjoint := by
  obtain ⟨_, isTerminal, _⟩ := check_eq_ok_iff.mp accepted
  apply (layers_of_accepted accepted).pairwise_disjoint_iff.mpr
  intro node steps more other walk walkToo
  have counted : rank node = steps := ranked.eq_of_walk isTerminal.2 walk other
  have countedToo : rank node = more := ranked.eq_of_walk isTerminal.2 walkToo other
  omega

end Check

end Ranked
end Csp.Diagram
