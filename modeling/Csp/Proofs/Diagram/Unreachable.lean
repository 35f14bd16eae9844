import Csp.Proofs.Diagram.Faults

/-!
# Parts of a diagram that the root cannot reach

A transition list may describe more than one diagram: what lies between the root
and the terminal, and transitions elsewhere that no walk from the root ever
takes. The check reads all of them. The others add sources to the bound of the
expansion, and they may lead into the diagram, turn in cycles and offer any
values. Yet no level holds one of their sources, so they decide nothing: the
check accepts the whole list exactly when it accepts the diagram, and it finds
the same levels. Only which fault is reported may depend on them.

The proof is on the walks. A walk of the whole list that starts from a node
within reach never leaves the diagram, so walks, cycles and values are those of
the diagram from there on, and these determine the outcome.
-/
namespace Csp.Diagram

open Transition

variable {ν α : Type}

/-- Extra transitions that leave no node within reach of the root, the root included, and not the
terminal, and that do not lead to the root. -/
structure Detached (transitions : List (Transition ν α)) (root terminal : ν)
    (extra : List (Transition ν α)) : Prop where
  unreachable : ∀ t ∈ extra, ¬ Reachable transitions root t.source
  not_terminal : ∀ t ∈ extra, t.source ≠ terminal
  not_root : ∀ t ∈ extra, t.target ≠ root

namespace Detached

variable {transitions extra whole : List (Transition ν α)} {root terminal : ν}

section Walks

variable (detached : Detached transitions root terminal extra)
variable (joined : whole.Perm (transitions ++ extra))

include detached joined

/-- What leaves a node within reach is a transition of the diagram. Such a transition cannot be an
extra one, because its source would be within reach. -/
theorem listed_iff {t : Transition ν α} (reached : Reachable transitions root t.source) :
    t ∈ whole ↔ t ∈ transitions := by
  rw [joined.mem_iff, List.mem_append]
  exact or_iff_left fun listed => detached.unreachable t listed reached

/-- From a node within reach, the walks of the whole list are those of the diagram. The induction is
on the path: each of its transitions leaves a node within reach and leads to another one. -/
theorem walk_iff {first last : ν} {path : List (Transition ν α)}
    (reached : Reachable transitions root first) :
    Walk whole first path last ↔ Walk transitions first path last := by
  induction path generalizing first with
  | nil => rw [walk_nil, walk_nil]
  | cons t path inductionHypothesis =>
    rw [walk_cons, walk_cons]
    constructor
    · rintro ⟨listed, rfl, onward⟩
      have inside : t ∈ transitions := (detached.listed_iff joined reached).mp listed
      exact ⟨inside, rfl, (inductionHypothesis (reached.step inside)).mp onward⟩
    · rintro ⟨inside, rfl, onward⟩
      have listed : t ∈ whole := (detached.listed_iff joined reached).mpr inside
      exact ⟨listed, rfl, (inductionHypothesis (reached.step inside)).mpr onward⟩

/-- From a node within reach, walks of the same length lead to the same nodes in both lists. -/
theorem walkOf_iff {first last : ν} (steps : Nat) (reached : Reachable transitions root first) :
    WalkOf whole steps first last ↔ WalkOf transitions steps first last :=
  exists_congr fun _ => and_congr_right fun _ => detached.walk_iff joined reached

/-- The same nodes are within reach. Extra transitions never come into play on a walk from the
root. -/
theorem reachable_iff {node : ν} : Reachable whole root node ↔ Reachable transitions root node :=
  exists_congr fun steps => detached.walkOf_iff joined steps (.refl root)

/-- So a node within reach is on a cycle of the whole list exactly if it is on one of the
diagram. -/
theorem onCycle_iff {node : ν} (reached : Reachable transitions root node) :
    OnCycle whole node ↔ OnCycle transitions node :=
  exists_congr fun steps => and_congr_right fun _ => detached.walkOf_iff joined steps reached

/-- A node within reach is left by the same transitions in both lists, so it is a source in both or
in none. -/
theorem isSource_iff {node : ν} (reached : Reachable transitions root node) :
    IsSource whole node ↔ IsSource transitions node := by
  refine exists_congr fun t => and_congr_left ?_
  rintro rfl
  exact detached.listed_iff joined reached

/-- A node within reach offers the same values in both lists. -/
theorem offers_iff [BEq α] {node : ν} (reached : Reachable transitions root node) (value : α) :
    Offers whole node value ↔ Offers transitions node value := by
  refine exists_congr fun t => and_congr_left ?_
  rintro ⟨rfl, _⟩
  exact detached.listed_iff joined reached

/-- Two nodes within reach therefore agree in their values in both lists or in none. -/
theorem sameOffers_iff [BEq α] {node other : ν} (reached : Reachable transitions root node)
    (reachedToo : Reachable transitions root other) :
    SameOffers whole node other ↔ SameOffers transitions node other := by
  unfold SameOffers
  simp only [detached.offers_iff joined reached, detached.offers_iff joined reachedToo]

/-- The root stays a root. No extra transition leads to it, and those that leave it are its own. -/
theorem isRoot_iff : IsRoot whole root ↔ IsRoot transitions root := by
  have sameTarget : IsTarget whole root ↔ IsTarget transitions root := by
    refine exists_congr fun t => and_congr_left fun arrived => ?_
    rw [joined.mem_iff, List.mem_append]
    exact or_iff_left fun listed => detached.not_root t listed arrived
  rw [IsRoot, IsRoot, detached.isSource_iff joined (.refl root), sameTarget]

/-- The extra transitions may lead to the terminal, so they can make one of a node that is none in
the diagram alone; but they take nothing from it. -/
theorem isTerminal (alone : IsTerminal transitions terminal) : IsTerminal whole terminal := by
  obtain ⟨⟨t, listed, arrived⟩, unleft⟩ := alone
  refine ⟨⟨t, joined.mem_iff.mpr (List.mem_append_left extra listed), arrived⟩, ?_⟩
  rintro ⟨u, listedToo, left⟩
  rcases List.mem_append.mp (joined.mem_iff.mp listedToo) with inside | outside
  · exact unleft ⟨u, inside, left⟩
  · exact detached.not_terminal u outside left

/-- The whole list is a diagram between the two ends exactly when the diagram alone is. Each of the
conditions is about nodes within reach, or about the two ends. -/
theorem wellFormed_iff [BEq α] (alone : IsTerminal transitions terminal) :
    WellFormed whole root terminal ↔ WellFormed transitions root terminal := by
  have acyclic_iff : (∀ node, Reachable whole root node → ¬ OnCycle whole node) ↔
      ∀ node, Reachable transitions root node → ¬ OnCycle transitions node := by
    refine forall_congr' fun node => ?_
    rw [detached.reachable_iff joined]
    exact forall_congr' fun reached => not_congr (detached.onCycle_iff joined reached)
  have consistent_iff : (∀ steps node other, WalkOf whole steps root node →
        WalkOf whole steps root other → IsSource whole node → IsSource whole other →
          SameOffers whole node other) ↔
      ∀ steps node other, WalkOf transitions steps root node →
        WalkOf transitions steps root other → IsSource transitions node →
          IsSource transitions other → SameOffers transitions node other := by
    refine forall_congr' fun steps => forall_congr' fun node => forall_congr' fun other => ?_
    rw [detached.walkOf_iff joined steps (.refl root),
      detached.walkOf_iff joined steps (.refl root)]
    refine forall_congr' fun walk => forall_congr' fun walkToo => ?_
    have reached : Reachable transitions root node := ⟨steps, walk⟩
    have reachedToo : Reachable transitions root other := ⟨steps, walkToo⟩
    rw [detached.isSource_iff joined reached, detached.isSource_iff joined reachedToo,
      detached.sameOffers_iff joined reached reachedToo]
  constructor
  · rintro ⟨isRoot, _, acyclic, consistent⟩
    exact ⟨(detached.isRoot_iff joined).mp isRoot, alone, acyclic_iff.mp acyclic,
      consistent_iff.mp consistent⟩
  · rintro ⟨isRoot, _, acyclic, consistent⟩
    exact ⟨(detached.isRoot_iff joined).mpr isRoot, detached.isTerminal joined alone,
      acyclic_iff.mpr acyclic, consistent_iff.mpr consistent⟩

section Check

variable [BEq ν] [LawfulBEq ν] [BEq α] [EquivBEq α]

/-- Between a root and a terminal, the extra transitions do not decide whether there are levels. -/
theorem accepted_iff (ends : checkEnds transitions root terminal = .ok ()) :
    (∃ levels, check whole root terminal = .ok levels) ↔
      ∃ levels, check transitions root terminal = .ok levels := by
  rw [check_ok_iff_wellFormed, check_ok_iff_wellFormed]
  exact detached.wellFormed_iff joined (checkEnds_ok_iff.mp ends).2

/-- Nor do they change the levels that there are. The same walks lead from the root. -/
theorem sameLevels {levels levelsToo : List (List ν)}
    (accepted : check transitions root terminal = .ok levels)
    (acceptedToo : check whole root terminal = .ok levelsToo) : SameLevels levels levelsToo := by
  apply (layers_of_accepted accepted).sameLevels (layers_of_accepted acceptedToo)
  intro steps node
  exact (detached.walkOf_iff joined steps (.refl root)).symm

end Check

end Walks

end Detached

/-- What lies out of reach of the root does not matter to the check: transitions that leave no node
within reach and touch neither end can be put among those of a diagram, in any order, and the check
accepts the whole exactly when it accepts the diagram, with the same levels. -/
theorem unreachable_irrelevant (transitions extra whole : List (Transition String Label))
    (root terminal : String) (ends : checkEnds transitions root terminal = .ok ())
    (detached : Detached transitions root terminal extra)
    (joined : whole.Perm (transitions ++ extra)) :
    ((∃ returned, checkNamed whole root terminal = .ok returned) ↔
        ∃ returned, checkNamed transitions root terminal = .ok returned) ∧
      ∀ returned others, checkNamed transitions root terminal = .ok returned →
        checkNamed whole root terminal = .ok others → SameLevels returned others := by
  simp only [checkNamed_eq_ok]
  constructor
  · have sameVerdict := detached.accepted_iff joined ends
    constructor
    · rintro ⟨_, levels, accepted, _⟩
      obtain ⟨alone, acceptedAlone⟩ := sameVerdict.mp ⟨levels, accepted⟩
      exact ⟨_, alone, acceptedAlone, rfl⟩
    · rintro ⟨_, levels, accepted, _⟩
      obtain ⟨joint, acceptedJoint⟩ := sameVerdict.mpr ⟨levels, accepted⟩
      exact ⟨_, joint, acceptedJoint, rfl⟩
  · rintro _ _ ⟨levels, accepted, rfl⟩ ⟨levelsToo, acceptedToo, rfl⟩
    exact (detached.sameLevels joined accepted acceptedToo).map Value.text

/-- One transition after the other. -/
def straight : List (Transition String Label) := [⟨"r", .int 0, "a"⟩, ⟨"a", .int 0, "t"⟩]

/-- A cycle, and a node with two values that leads into the diagram at different depths. -/
def loose : List (Transition String Label) :=
  [⟨"c", .int 0, "c"⟩, ⟨"d", .int 5, "a"⟩, ⟨"d", .bool true, "t"⟩]

/-- A loose part is put between the two transitions of a diagram, and the levels are still those of
the diagram alone. -/
theorem unreachable_irrelevant_loose :
    checkEnds straight "r" "t" = .ok () ∧ Detached straight "r" "t" loose ∧
      (⟨"r", .int 0, "a"⟩ :: (loose ++ [⟨"a", .int 0, "t"⟩])).Perm (straight ++ loose) ∧
      ∃ others, checkNamed (⟨"r", .int 0, "a"⟩ :: (loose ++ [⟨"a", .int 0, "t"⟩])) "r" "t" =
          .ok others ∧
        SameLevels [[.text "r"], [.text "a"]] others := by
  have ends : checkEnds straight "r" "t" = .ok () := rfl
  have apart : ∀ t ∈ loose, t.source ≠ "r" ∧ t.source ∉ straight.map target := by decide
  have detached : Detached straight "r" "t" loose := by
    constructor
    case unreachable =>
      intro t listed reached
      obtain ⟨other, untargeted⟩ := apart t listed
      exact untargeted (isTarget_iff_mem.mp (reached.isTarget other))
    case not_terminal => decide
    case not_root => decide
  have joined : (⟨"r", .int 0, "a"⟩ :: (loose ++ [⟨"a", .int 0, "t"⟩])).Perm (straight ++ loose) :=
    .cons _ List.perm_append_comm
  obtain ⟨sameVerdict, sameLevels⟩ :=
    unreachable_irrelevant straight loose _ "r" "t" ends detached joined
  have alone : checkNamed straight "r" "t" = .ok [[.text "r"], [.text "a"]] :=
    checkNamed_eq_ok.mpr ⟨_, rfl, rfl⟩
  obtain ⟨others, accepted⟩ := sameVerdict.mpr ⟨_, alone⟩
  exact ⟨ends, detached, joined, others, accepted, sameLevels _ _ alone accepted⟩

end Csp.Diagram
