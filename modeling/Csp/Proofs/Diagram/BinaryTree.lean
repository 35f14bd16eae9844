import Csp.Proofs.Diagram.Rank

/-!
# Perfect binary trees

In the perfect binary tree of a depth, two transitions leave each node, one for
each value, and lead to two nodes of their own, or from the last level to the
terminal. A node is given by the turns that lead to it from the root, the last
turn first, so its rank is the number of these turns. The tree has a level for
each rank below its depth, and each level has twice as many nodes as the one
before it. How the nodes are called does not matter, as long as no two are
called the same.
-/
namespace Csp.Diagram

open Transition

/-- The nodes of one rank, in the order in which the nodes above them are listed. -/
def treeLevel : Nat → List (List Bool)
  | 0 => [[]]
  | depth + 1 => (treeLevel depth).flatMap fun node => [false :: node, true :: node]

/-- The transition that takes a turn at a node of a tree: to the node below, if the tree has one at
that depth, and otherwise to the terminal. -/
def treeTransition (depth : Nat) (node : List Bool) (turn : Bool) :
    Transition (Option (List Bool)) Label :=
  ⟨some node, .int turn.toInt, if node.length + 1 < depth then some (turn :: node) else none⟩

/-- The perfect binary tree of a depth, level by level. The nodes are the sequences of turns from
the root, with the last turn first, and all nodes of the last rank lead to the terminal. -/
def binaryTree (depth : Nat) : List (Transition (Option (List Bool)) Label) :=
  ((List.range depth).flatMap treeLevel).flatMap fun node =>
    [false, true].map (treeTransition depth node)

/-- The names `r`, `r_0`, `r_1`, `r_0_0` and so on. -/
def nodeName : List Bool → String
  | [] => "r"
  | turn :: node => nodeName node ++ if turn then "_1" else "_0"

/-- The names of the nodes of a tree, with `t` for the terminal. -/
def treeName (place : Option (List Bool)) : String := place.elim "t" nodeName

example : (binaryTree 2).map (Transition.map treeName id) =
    [⟨"r", .int 0, "r_0"⟩, ⟨"r", .int 1, "r_1"⟩, ⟨"r_0", .int 0, "t"⟩, ⟨"r_0", .int 1, "t"⟩,
      ⟨"r_1", .int 0, "t"⟩, ⟨"r_1", .int 1, "t"⟩] := rfl

section Level

variable {depth : Nat}

/-- The nodes of a level of the tree are all sequences of as many turns. -/
theorem mem_treeLevel {node : List Bool} : node ∈ treeLevel depth ↔ node.length = depth := by
  induction depth generalizing node with
  | zero => rw [treeLevel, List.mem_singleton, List.length_eq_zero_iff]
  | succ depth inductionHypothesis =>
    cases node with
    | nil => simp [treeLevel]
    | cons turn node => cases turn <;> simp [treeLevel, inductionHypothesis]

/-- Each level has twice as many nodes as the one before it. So the level of a rank has two to the
power of that rank. -/
theorem length_treeLevel (depth : Nat) : (treeLevel depth).length = 2 ^ depth := by
  induction depth with
  | zero => rfl
  | succ depth inductionHypothesis =>
    simp [treeLevel, List.length_flatMap, inductionHypothesis, Nat.pow_succ]

/-- No node is listed twice, since the nodes below different nodes are different. -/
theorem nodup_treeLevel (depth : Nat) : (treeLevel depth).Nodup := by
  induction depth with
  | zero => exact List.nodup_singleton []
  | succ depth inductionHypothesis =>
    rw [treeLevel, List.nodup_flatMap]
    constructor
    · intro node _
      simp
    · refine inductionHypothesis.imp ?_
      intro node other different
      simp [different.symm]

end Level

section Tree

variable {depth : Nat}

/-- A turn leads to the node below it, where there is one. -/
theorem treeTransition_target_eq_some {node below : List Bool} {turn : Bool} :
    (treeTransition depth node turn).target = some below ↔
      node.length + 1 < depth ∧ turn :: node = below := by
  simp [treeTransition]

/-- Elsewhere it leads to the terminal. -/
theorem treeTransition_target_eq_none {node : List Bool} {turn : Bool} :
    (treeTransition depth node turn).target = none ↔ depth ≤ node.length + 1 := by
  simp [treeTransition]

/-- The transitions of a tree are the turns at its nodes. Each inner node has two of them, one for
each value. -/
theorem mem_binaryTree {t : Transition (Option (List Bool)) Label} :
    t ∈ binaryTree depth ↔
      ∃ node turn, node.length < depth ∧ treeTransition depth node turn = t := by
  simp only [binaryTree, List.mem_flatMap, List.mem_range, mem_treeLevel, List.mem_map]
  constructor
  · rintro ⟨node, ⟨_, inside, rfl⟩, turn, _, rfl⟩
    exact ⟨node, turn, inside, rfl⟩
  · rintro ⟨node, turn, inside, rfl⟩
    exact ⟨node, ⟨node.length, inside, rfl⟩, turn, by cases turn <;> decide, rfl⟩

/-- All inner nodes are sources, and nothing else is. At the last depth, both turns of a node lead
to the terminal. -/
theorem isSource_binaryTree {place : Option (List Bool)} :
    IsSource (binaryTree depth) place ↔ ∃ node, node.length < depth ∧ some node = place := by
  constructor
  · rintro ⟨t, listed, rfl⟩
    obtain ⟨node, turn, inside, rfl⟩ := mem_binaryTree.mp listed
    exact ⟨node, inside, rfl⟩
  · rintro ⟨node, inside, rfl⟩
    exact ⟨treeTransition depth node false, mem_binaryTree.mpr ⟨node, false, inside, rfl⟩, rfl⟩

/-- The terminal is written as a missing node, so no inner node can be confused with it. -/
theorem not_isSource_terminal : ¬ IsSource (binaryTree depth) none := by
  intro isSource
  obtain ⟨node, _, impossible⟩ := isSource_binaryTree.mp isSource
  cases impossible

/-- All nodes of a tree have the same outgoing values, zero and one. This is all that the check of
the levels asks for. -/
theorem offers_binaryTree {node : List Bool} (inside : node.length < depth) (value : Label) :
    Offers (binaryTree depth) (some node) value ↔ value.value = 0 ∨ value.value = 1 := by
  have turned (turn : Bool) : (Label.int turn.toInt == value) = true ↔
      turn.toInt = value.value := Label.beq_iff _ _
  constructor
  · rintro ⟨t, listed, left, same⟩
    obtain ⟨other, turn, _, rfl⟩ := mem_binaryTree.mp listed
    have equal : turn.toInt = value.value := (turned turn).mp same
    cases turn with
    | false => exact .inl equal.symm
    | true => exact .inr equal.symm
  · intro zeroOrOne
    have chosen : ∃ turn : Bool, turn.toInt = value.value := by
      rcases zeroOrOne with zero | one
      · exact ⟨false, zero.symm⟩
      · exact ⟨true, one.symm⟩
    obtain ⟨turn, equal⟩ := chosen
    exact ⟨treeTransition depth node turn, mem_binaryTree.mpr ⟨node, turn, inside, rfl⟩, rfl,
      (turned turn).mpr equal⟩

/-- The rank of a node is the number of turns that lead to it. -/
def turns (place : Option (List Bool)) : Int := place.elim 0 fun node => node.length

/-- The number of turns ranks the tree: each transition that does not lead to the terminal adds one
turn. -/
theorem ranked_binaryTree : Ranked (binaryTree depth) (some []) none turns := by
  constructor
  case root_eq_zero => rfl
  case target_eq_succ =>
    intro t listed _ below
    obtain ⟨node, turn, _, rfl⟩ := mem_binaryTree.mp listed
    obtain ⟨place, target⟩ := Option.ne_none_iff_exists'.mp below
    obtain ⟨_, rfl⟩ := treeTransition_target_eq_some.mp target
    rw [target]
    exact Int.natCast_succ node.length

/-- Every node of the tree can be reached, by its turns from the first to the last. -/
theorem reachable_binaryTree {node : List Bool} (inside : node.length < depth) :
    Reachable (binaryTree depth) (some []) (some node) := by
  induction node with
  | nil => exact ⟨0, walkOf_zero.mpr rfl⟩
  | cons turn node inductionHypothesis =>
    have above : node.length < depth := Nat.lt_of_succ_lt inside
    obtain ⟨steps, walk⟩ := inductionHypothesis above
    refine ⟨steps + 1, walkOf_succ.mpr ⟨treeTransition depth node turn, ?_, walk, ?_⟩⟩
    · exact mem_binaryTree.mpr ⟨node, turn, above, rfl⟩
    · exact treeTransition_target_eq_some.mpr ⟨inside, rfl⟩

/-- Whatever can be reached is in the tree, apart from the terminal. The induction is on the walk,
each step of which adds a turn or ends at the terminal. -/
theorem lt_of_reachable (positive : 0 < depth) {node : List Bool}
    (reached : Reachable (binaryTree depth) (some []) (some node)) : node.length < depth := by
  obtain ⟨steps, walk⟩ := reached
  cases steps with
  | zero =>
    have same : some [] = some node := walkOf_zero.mp walk
    cases same
    exact positive
  | succ steps =>
    obtain ⟨t, listed, _, target⟩ := walkOf_succ.mp walk
    obtain ⟨above, turn, _, rfl⟩ := mem_binaryTree.mp listed
    obtain ⟨inside, rfl⟩ := treeTransition_target_eq_some.mp target
    exact inside

/-- The root of a tree has no transition into it and the terminal none out of it. A tree of depth
zero would have no transitions at all, so it is left out. -/
theorem checkEnds_binaryTree (positive : 0 < depth) :
    checkEnds (binaryTree depth) (some []) none = .ok () := by
  apply checkEnds_ok_iff.mpr
  refine ⟨⟨isSource_binaryTree.mpr ⟨[], positive, rfl⟩, ?_⟩, ?_, not_isSource_terminal⟩
  · rintro ⟨t, listed, target⟩
    obtain ⟨node, turn, _, rfl⟩ := mem_binaryTree.mp listed
    obtain ⟨_, impossible⟩ := treeTransition_target_eq_some.mp target
    cases impossible
  · have last : (List.replicate (depth - 1) false).length + 1 = depth := by
      rw [List.length_replicate]
      omega
    refine ⟨treeTransition depth (List.replicate (depth - 1) false) false, ?_, ?_⟩
    · exact mem_binaryTree.mpr ⟨_, false, by omega, rfl⟩
    · exact treeTransition_target_eq_none.mpr last.ge

/-- The levels of a tree are its nodes rank by rank. The rank is the number of turns, so it is also
the number of steps from the root. -/
theorem mem_levels_binaryTree (positive : 0 < depth) {levels : List (List (Option (List Bool)))}
    (accepted : check (binaryTree depth) (some []) none = .ok levels) (rank : Nat)
    (place : Option (List Bool)) :
    place ∈ levels[rank]?.getD [] ↔ rank < depth ∧ place ∈ (treeLevel rank).map some := by
  rw [ranked_binaryTree.mem_levels accepted]
  cases place with
  | none => simp
  | some node =>
    have counted : turns (some node) = rank ↔ node.length = rank := Int.ofNat_inj
    rw [List.mem_map_of_injective (Option.some_injective _), mem_treeLevel, counted]
    constructor
    · rintro ⟨reached, _, rfl⟩
      exact ⟨lt_of_reachable positive reached, rfl⟩
    · rintro ⟨inside, rfl⟩
      exact ⟨reachable_binaryTree inside, Option.some_ne_none node, rfl⟩

/-- The levels of a tree do not end before its depth and not after it. The nodes of the last depth
lead to the terminal alone, and the terminal is on no level. -/
theorem lt_length_binaryTree_iff (positive : 0 < depth) {levels : List (List (Option (List Bool)))}
    (accepted : check (binaryTree depth) (some []) none = .ok levels) (rank : Nat) :
    rank < levels.length ↔ rank < depth := by
  have member := mem_levels_binaryTree positive accepted rank
  constructor
  · intro inside
    have filled : levels[rank] ≠ [] :=
      (layers_of_accepted accepted).filled levels[rank] (List.getElem_mem inside)
    obtain ⟨place, listed⟩ := List.exists_mem_of_ne_nil _ filled
    rw [List.getElem?_eq_getElem inside] at member
    exact ((member place).mp listed).1
  · intro inside
    have leftmost : some (List.replicate rank false) ∈ (treeLevel rank).map some :=
      List.mem_map_of_mem (mem_treeLevel.mpr List.length_replicate)
    have listed := (member _).mpr ⟨inside, leftmost⟩
    by_contra beyond
    rw [List.getElem?_eq_none (Nat.le_of_not_lt beyond)] at listed
    cases listed

/-- On each level of a tree there are as many nodes as there are ways to take its turns. -/
theorem length_level_binaryTree (positive : 0 < depth) {levels : List (List (Option (List Bool)))}
    (accepted : check (binaryTree depth) (some []) none = .ok levels) {rank : Nat}
    {level : List (Option (List Bool))} (placed : levels[rank]? = some level) :
    level.length = 2 ^ rank := by
  obtain ⟨inside, _⟩ := List.getElem?_eq_some_iff.mp placed
  have shallow : rank < depth := (lt_length_binaryTree_iff positive accepted rank).mp inside
  have distinct : level.Nodup := nodup_of_mem_levels accepted (List.mem_of_getElem? placed)
  have distinctToo : ((treeLevel rank).map some).Nodup :=
    (nodup_treeLevel rank).map (Option.some_injective _)
  have same : level.Perm ((treeLevel rank).map some) := by
    rw [List.perm_ext_iff_of_nodup distinct distinctToo]
    intro place
    have member := mem_levels_binaryTree positive accepted rank place
    rw [placed] at member
    exact member.trans (and_iff_right shallow)
  rw [same.length_eq, List.length_map, length_treeLevel]

/-- A tree is accepted, since all its nodes have the same outgoing values. -/
theorem accepted_binaryTree (positive : 0 < depth) :
    ∃ levels, check (binaryTree depth) (some []) none = .ok levels := by
  apply (ranked_binaryTree.accepted_iff (checkEnds_binaryTree positive)).mpr
  intro place other _ _ isSource isSourceToo _ value
  obtain ⟨node, inside, rfl⟩ := isSource_binaryTree.mp isSource
  obtain ⟨nodeToo, insideToo, rfl⟩ := isSource_binaryTree.mp isSourceToo
  rw [offers_binaryTree inside, offers_binaryTree insideToo]

/-- Whatever the nodes are called, a tree is accepted. It has as many levels as its depth says, and
each level has twice as many nodes as the one before it. -/
theorem checkNamed_binaryTree (positive : 0 < depth) {name : Option (List Bool) → String}
    (injective : Function.Injective name) :
    ∃ levels : List (List String),
      checkNamed ((binaryTree depth).map (Transition.map name id)) (name (some [])) (name none) =
          .ok (levels.map (·.map .text)) ∧
        levels.length = depth ∧
          ∀ rank level, levels[rank]? = some level → level.Nodup ∧ level.length = 2 ^ rank := by
  obtain ⟨levels, accepted⟩ := accepted_binaryTree positive
  have named : check ((binaryTree depth).map (Transition.map name id)) (name (some []))
      (name none) = .ok (levels.map (·.map name)) := by
    have kept : Faithful (id : Label → Label) := fun _ _ => rfl
    rw [check_map (.of_injective injective) kept, accepted]
    rfl
  refine ⟨levels.map (·.map name), checkNamed_eq_ok.mpr ⟨_, named, rfl⟩, ?_, ?_⟩
  · rw [List.length_map]
    exact eq_of_forall_lt_iff (lt_length_binaryTree_iff positive accepted)
  · intro rank level placed
    rw [List.getElem?_map, Option.map_eq_some_iff] at placed
    obtain ⟨places, listed, rfl⟩ := placed
    have distinct : places.Nodup := nodup_of_mem_levels accepted (List.mem_of_getElem? listed)
    refine ⟨distinct.map injective, ?_⟩
    rw [List.length_map, length_level_binaryTree positive accepted listed]

end Tree

/-- Each turn adds two characters to the name of a node. -/
theorem length_nodeName (node : List Bool) : (nodeName node).length = 2 * node.length + 1 := by
  induction node with
  | nil => rfl
  | cons turn node inductionHypothesis =>
    have added : (if turn then "_1" else "_0").length = 2 := by cases turn <;> rfl
    rw [nodeName, String.length_append, inductionHypothesis, added, List.length_cons]
    omega

/-- Different nodes have different names, since the last two characters tell the last turn. -/
theorem nodeName_injective : Function.Injective nodeName := by
  intro node other same
  have sameLength : node.length = other.length := by
    have sizes : (nodeName node).length = (nodeName other).length := congrArg String.length same
    rw [length_nodeName, length_nodeName] at sizes
    omega
  induction node generalizing other with
  | nil => exact (List.length_eq_zero_iff.mp sameLength.symm).symm
  | cons turn node inductionHypothesis =>
    obtain ⟨turnToo, nodeToo, rfl⟩ := List.exists_cons_of_length_eq_add_one sameLength.symm
    have characters : (nodeName node).toList ++ (if turn then "_1" else "_0").toList =
        (nodeName nodeToo).toList ++ (if turnToo then "_1" else "_0").toList := by
      rw [← String.toList_append, ← String.toList_append]
      exact congrArg String.toList same
    have added (last : Bool) : (if last then "_1" else "_0").toList.length = 2 := by
      cases last <;> rfl
    obtain ⟨front, back⟩ := List.append_inj' characters ((added turn).trans (added turnToo).symm)
    have above : node = nodeToo :=
      inductionHypothesis (String.toList_inj.mp front) (Nat.succ.inj sameLength)
    have last : turn = turnToo := by
      cases turn <;> cases turnToo <;> first | rfl | exact absurd back (by decide)
    rw [above, last]

/-- No two nodes have the same name, and none has that of the terminal. The name of the terminal has
one character that no other name begins with. -/
theorem treeName_injective : Function.Injective treeName := by
  have apart (node : List Bool) : nodeName node ≠ "t" := by
    intro same
    have size : (nodeName node).length = 1 := congrArg String.length same
    rw [length_nodeName] at size
    have short : node = [] := List.length_eq_zero_iff.mp (by omega)
    subst short
    exact absurd same (by decide)
  intro place other same
  cases place with
  | none =>
    cases other with
    | none => rfl
    | some node => exact absurd same.symm (apart node)
  | some node =>
    cases other with
    | none => exact absurd same (apart node)
    | some nodeToo => exact congrArg some (nodeName_injective same)

/-- Between a root and a terminal, a ranked diagram is never refused for a cycle and is accepted
exactly when the sources of each rank have the same values. Its levels are then the reachable nodes
of each rank, without the terminal, and so they are disjoint. One such diagram is the perfect binary
tree of any depth. -/
theorem ranked_exact :
    (∀ (transitions : List (Transition String Label)) (root terminal : String)
      (rank : String → Int), checkEnds transitions root terminal = .ok () →
        Ranked transitions root terminal rank →
          ¬ Violates (checkNamed transitions root terminal) "cyclic" ∧
          ((∃ returned, checkNamed transitions root terminal = .ok returned) ↔
            ∀ node other, Reachable transitions root node → Reachable transitions root other →
              IsSource transitions node → IsSource transitions other → rank node = rank other →
                SameOffers transitions node other) ∧
          ∀ returned, checkNamed transitions root terminal = .ok returned →
            ∃ levels : List (List String), returned = levels.map (·.map .text) ∧
              (∀ (depth : Nat) node, node ∈ levels[depth]?.getD [] ↔
                Reachable transitions root node ∧ node ≠ terminal ∧ rank node = depth) ∧
              levels.Pairwise List.Disjoint) ∧
      ∀ (depth : Nat) (name : Option (List Bool) → String), 0 < depth → Function.Injective name →
        ∃ levels : List (List String),
          checkNamed ((binaryTree depth).map (Transition.map name id)) (name (some []))
              (name none) = .ok (levels.map (·.map .text)) ∧
            levels.length = depth ∧
              ∀ rank level, levels[rank]? = some level → level.Nodup ∧ level.length = 2 ^ rank := by
  constructor
  · intro transitions root terminal rank ends ranked
    refine ⟨?_, ?_, ?_⟩
    · rw [checkNamed_violates_cyclic]
      exact ranked.not_cyclic ends
    · rw [← ranked.accepted_iff ends]
      constructor
      · rintro ⟨returned, accepted⟩
        obtain ⟨levels, checked, _⟩ := checkNamed_eq_ok.mp accepted
        exact ⟨levels, checked⟩
      · rintro ⟨levels, checked⟩
        exact ⟨_, checkNamed_eq_ok.mpr ⟨levels, checked, rfl⟩⟩
    · intro returned accepted
      obtain ⟨levels, checked, rfl⟩ := checkNamed_eq_ok.mp accepted
      exact ⟨levels, rfl, ranked.mem_levels checked, ranked.pairwise_disjoint checked⟩
  · intro depth name positive injective
    exact checkNamed_binaryTree positive injective

/-- Two nodes of the same rank that share the node below them. -/
def sharing : List (Transition String Label) :=
  [⟨"r", .int 0, "a"⟩, ⟨"r", .int 1, "b"⟩, ⟨"a", .int 0, "c"⟩, ⟨"b", .int 0, "c"⟩,
    ⟨"c", .int 2, "t"⟩]

/-- The rank of each node of `sharing`. -/
def sharingRank (node : String) : Int :=
  if node = "r" then 0 else if node = "c" then 2 else 1

/-- Every transition but the last one leads from one rank to the next. The two nodes in the middle
share their rank. -/
theorem ranked_sharing : Ranked sharing "r" "t" sharingRank := by
  constructor
  case root_eq_zero => rfl
  case target_eq_succ =>
    have graded : ∀ t ∈ sharing, t.target ≠ "t" →
        sharingRank t.target = sharingRank t.source + 1 := by decide
    exact fun t listed _ below => graded t listed below

/-- The diagram has a node with two parents and is accepted all the same, and a tree of depth three
has three levels. -/
theorem ranked_exact_sharing :
    (checkEnds sharing "r" "t" = .ok () ∧ Ranked sharing "r" "t" sharingRank ∧
        ¬ Violates (checkNamed sharing "r" "t") "cyclic") ∧
      ∃ levels : List (List String),
        checkNamed ((binaryTree 3).map (Transition.map treeName id)) "r" "t" =
            .ok (levels.map (·.map .text)) ∧
          levels.length = 3 := by
  have ends : checkEnds sharing "r" "t" = .ok () := rfl
  obtain ⟨levels, accepted, count, _⟩ :=
    ranked_exact.2 3 treeName (by decide) treeName_injective
  exact ⟨⟨ends, ranked_sharing, (ranked_exact.1 sharing "r" "t" sharingRank ends ranked_sharing).1⟩,
    levels, accepted, count⟩

end Csp.Diagram
