import Csp.Proofs.Diagram.Acceptance
import Mathlib.Order.Bounds.Basic

/-!
# The levels of an accepted diagram

The level at a depth holds the nodes to which some walk of that many steps leads
from the root, without the terminal. This tells all that there is to know about
the levels: the first holds the root alone, there are as many as the longest
walk to such a node needs, and together they hold all of these nodes.

A level is made from the one before it without regard to the others, so a node
to which walks of two lengths lead is on two levels. The levels share no node
exactly where no edge skips a level, which the check does not ask.
-/
namespace Csp.Diagram

open Transition

variable {ν α : Type}

/-- The nodes other than the terminal to which some walk of exactly so many steps leads. A node may
have several depths, since walks of different lengths can lead to it. -/
def atDepth (transitions : List (Transition ν α)) (root terminal : ν) (depth : Nat) : Set ν :=
  {node | WalkOf transitions depth root node ∧ node ≠ terminal}

/-- What the levels of a diagram are, said of its walks. A level is a list in which every node of
its depth stands once. -/
structure Layers (transitions : List (Transition ν α)) (root terminal : ν)
    (levels : List (List ν)) : Prop where
  exact : ∀ depth level, levels[depth]? = some level →
    ∀ node, node ∈ level ↔ node ∈ atDepth transitions root terminal depth
  distinct : ∀ level ∈ levels, level.Nodup
  first : levels[0]? = some [root]
  filled : ∀ level ∈ levels, level ≠ []
  longest : ∃ steps, levels.length = steps + 1 ∧
    IsGreatest {steps | ∃ node, WalkOf transitions steps root node ∧ node ≠ terminal} steps
  covering : ∀ node, (∃ level ∈ levels, node ∈ level) ↔
    Reachable transitions root node ∧ node ≠ terminal

/-- Two lists of levels hold the same nodes at each depth, in whatever order they are listed. The
order within a level comes from that of the transitions and means nothing. -/
def SameLevels (levels others : List (List ν)) : Prop := List.Forall₂ List.Perm levels others

/-- Levels that are the same stay so when their nodes are renamed. -/
theorem SameLevels.map {μ : Type} {levels others : List (List ν)} (same : SameLevels levels others)
    (rename : ν → μ) : SameLevels (levels.map (·.map rename)) (others.map (·.map rename)) := by
  rw [SameLevels, List.forall₂_map_left_iff, List.forall₂_map_right_iff]
  exact same.imp fun _ _ permuted => permuted.map rename

section Levels

variable [BEq ν] [LawfulBEq ν] {transitions : List (Transition ν α)} {root terminal : ν}

/-- No node stands twice on a level. Repetitions are erased at each expansion, and the root alone
has none. -/
theorem nodup_levelAfter (steps : Nat) :
    (levelAfter transitions terminal steps [root]).Nodup := by
  cases steps with
  | zero => exact List.nodup_singleton root
  | succ steps =>
    rw [levelAfter_succ]
    exact nodup_eraseDups _

variable [BEq α] [EquivBEq α] {levels : List (List ν)}

/-- Each level names a node once, although several transitions may lead to it from the level
before. -/
theorem nodup_of_mem_levels (accepted : check transitions root terminal = .ok levels)
    {level : List ν} (listed : level ∈ levels) : level.Nodup := by
  obtain ⟨_, _, expanded⟩ := check_eq_ok_iff.mp accepted
  obtain ⟨depth, placed⟩ := List.getElem?_of_mem listed
  have same : level = levelAfter transitions terminal depth [root] := by
    rw [← expand_getElem? expanded, placed]
    rfl
  rw [same]
  exact nodup_levelAfter depth

/-- The first level is the root, as a list of one node. -/
theorem levels_head (accepted : check transitions root terminal = .ok levels) :
    levels[0]? = some [root] := by
  obtain ⟨_, _, expanded⟩ := check_eq_ok_iff.mp accepted
  have head : levels[0]?.getD [] = [root] := expand_getElem? expanded 0
  cases levels with
  | nil => cases head
  | cons first rest => exact congrArg some head

/-- A walk to a node other than the terminal is shorter than the number of levels. So the number of
levels bounds all these walks, and there are no cycles among them. -/
theorem lt_length_levels (accepted : check transitions root terminal = .ok levels) {depth : Nat}
    {node : ν} (walk : WalkOf transitions depth root node) (other : node ≠ terminal) :
    depth < levels.length := by
  by_contra below
  exact other (eq_terminal_of_long_walk accepted (Nat.le_of_not_lt below) walk)

/-- Among the walks to a node other than the terminal, the longest leads to the last level. The
number of levels is therefore one more than its length. -/
theorem longest_to_inner (accepted : check transitions root terminal = .ok levels) :
    ∃ steps, levels.length = steps + 1 ∧
      IsGreatest {steps | ∃ node, WalkOf transitions steps root node ∧ node ≠ terminal} steps := by
  have someLevel : 0 < levels.length := by
    obtain ⟨inside, _⟩ := List.getElem?_eq_some_iff.mp (levels_head accepted)
    exact inside
  obtain ⟨last, count⟩ := Nat.exists_eq_add_one.mpr someLevel
  refine ⟨last, count, ?_, ?_⟩
  · exact exists_walk_of_lt accepted (by omega)
  · rintro steps ⟨node, walk, other⟩
    have short : steps < levels.length := lt_length_levels accepted walk other
    omega

/-- The levels that the check returns are those of the walks. This is the one place where levels and
walks are brought together. -/
theorem layers_of_accepted (accepted : check transitions root terminal = .ok levels) :
    Layers transitions root terminal levels := by
  constructor
  case exact =>
    intro depth level placed node
    have member := mem_levels accepted depth node
    rw [placed] at member
    exact member
  case distinct => exact fun level listed => nodup_of_mem_levels accepted listed
  case first => exact levels_head accepted
  case filled =>
    obtain ⟨_, _, expanded⟩ := check_eq_ok_iff.mp accepted
    exact expand_filled expanded
  case longest => exact longest_to_inner accepted
  case covering =>
    intro node
    constructor
    · rintro ⟨level, listed, member⟩
      obtain ⟨depth, _, walk, other⟩ := walk_of_mem_level accepted listed member
      exact ⟨⟨depth, walk⟩, other⟩
    · rintro ⟨⟨depth, walk⟩, other⟩
      have inside : depth < levels.length := lt_length_levels accepted walk other
      have member := (mem_levels accepted depth node).mpr ⟨walk, other⟩
      rw [List.getElem?_eq_getElem inside] at member
      exact ⟨levels[depth], List.getElem_mem inside, member⟩

end Levels

namespace Layers

variable {transitions : List (Transition ν α)} {root terminal : ν} {levels : List (List ν)}

/-- Each walk to a node other than the terminal puts that node on the level of its depth. If walks
of two lengths lead to it, then it stands on two levels. -/
theorem mem_of_walk (layers : Layers transitions root terminal levels) {steps : Nat} {node : ν}
    (walk : WalkOf transitions steps root node) (other : node ≠ terminal) :
    ∃ inside : steps < levels.length, node ∈ levels[steps] := by
  obtain ⟨last, count, _, bounded⟩ := layers.longest
  have short : steps ≤ last := bounded ⟨node, walk, other⟩
  have inside : steps < levels.length := by omega
  refine ⟨inside, ?_⟩
  have placed : levels[steps]? = some levels[steps] := List.getElem?_eq_getElem inside
  exact (layers.exact steps levels[steps] placed node).mpr ⟨walk, other⟩

/-- A node on a level is the end of a walk of the depth of the level. -/
theorem walk_of_mem (layers : Layers transitions root terminal levels) {depth : Nat}
    (inside : depth < levels.length) {node : ν} (member : node ∈ levels[depth]) :
    WalkOf transitions depth root node ∧ node ≠ terminal := by
  have placed : levels[depth]? = some levels[depth] := List.getElem?_eq_getElem inside
  exact (layers.exact depth levels[depth] placed node).mp member

/-- No node is on two of the levels exactly where all walks from the root to a node have the same
number of steps, the terminal apart. -/
theorem pairwise_disjoint_iff (layers : Layers transitions root terminal levels) :
    levels.Pairwise List.Disjoint ↔
      ∀ node steps more, node ≠ terminal → WalkOf transitions steps root node →
        WalkOf transitions more root node → steps = more := by
  rw [List.pairwise_iff_getElem]
  constructor
  · intro disjoint node steps more other walk walkToo
    obtain ⟨inside, member⟩ := layers.mem_of_walk walk other
    obtain ⟨insideToo, memberToo⟩ := layers.mem_of_walk walkToo other
    rcases Nat.lt_trichotomy steps more with before | same | after
    · exact absurd memberToo (disjoint steps more inside insideToo before member)
    · exact same
    · exact absurd member (disjoint more steps insideToo inside after memberToo)
  · intro sole depth below inside insideToo before node member memberToo
    obtain ⟨walk, other⟩ := layers.walk_of_mem inside member
    obtain ⟨walkToo, _⟩ := layers.walk_of_mem insideToo memberToo
    have same : depth = below := sole node depth below other walk walkToo
    omega

/-- Where the same walks lead from the root, the levels are the same. The levels are determined by
the walks, whatever the transitions are that these take. -/
theorem sameLevels {others : List (Transition ν α)} {levelsToo : List (List ν)}
    (layers : Layers transitions root terminal levels)
    (layersToo : Layers others root terminal levelsToo)
    (walks : ∀ steps node, WalkOf transitions steps root node ↔ WalkOf others steps root node) :
    SameLevels levels levelsToo := by
  obtain ⟨last, count, longest⟩ := layers.longest
  obtain ⟨lastToo, countToo, longestToo⟩ := layersToo.longest
  simp only [walks] at longest
  have sameLast : last = lastToo := longest.unique longestToo
  apply List.forall₂_of_length_eq_of_get (by omega)
  intro depth inside insideToo
  have unique : levels[depth].Nodup := layers.distinct _ (List.getElem_mem inside)
  have uniqueToo : levelsToo[depth].Nodup := layersToo.distinct _ (List.getElem_mem insideToo)
  refine (List.perm_ext_iff_of_nodup unique uniqueToo).mpr fun node => ?_
  rw [layers.exact depth _ (List.getElem?_eq_getElem inside),
    layersToo.exact depth _ (List.getElem?_eq_getElem insideToo)]
  exact and_congr_left fun _ => walks depth node

end Layers

/-- Whatever diagram is accepted, in a constraint or by the check alone, its levels are those of
its walks. -/
theorem levels_exact :
    (∀ (id scope transitions root terminal : Value) (m : Mdd Value),
      Mdd.make id scope transitions root terminal = .ok m →
        Layers m.diagram.transitions m.diagram.root m.diagram.terminal m.diagram.levels) ∧
      ∀ (transitions : List (Transition String Label)) (root terminal : String)
        (returned : List (List Value)), checkNamed transitions root terminal = .ok returned →
          ∃ levels, returned = levels.map (·.map .text) ∧
            Layers transitions root terminal levels := by
  constructor
  · intro id scope transitions root terminal m made
    exact layers_of_accepted m.diagram.accepted
  · intro transitions root terminal returned accepted
    obtain ⟨levels, checked, rfl⟩ := checkNamed_eq_ok.mp accepted
    exact ⟨levels, rfl, layers_of_accepted checked⟩

/-- A diagram in which an edge from the root to `b` skips the level of `a`. -/
def skipping : List (Transition String Label) :=
  [⟨"r", .int 0, "a"⟩, ⟨"r", .int 1, "b"⟩, ⟨"a", .int 0, "b"⟩, ⟨"b", .int 0, "t"⟩]

/-- The levels of a diagram with an edge that skips one, in a constraint and by the check alone. -/
theorem levels_of_skipping :
    (∃ m : Mdd Value,
      Mdd.make .null (.list [.text "x"]) (.list (skipping.map .ofTransition)) (.text "r")
          (.text "t") = .ok m ∧
        m.diagram.levels = [["r"], ["a", "b"], ["b"]] ∧
        Layers m.diagram.transitions m.diagram.root m.diagram.terminal m.diagram.levels) ∧
      ∃ levels, [[.text "r"], [.text "a", .text "b"], [.text "b"]] = levels.map (·.map Value.text) ∧
        Layers skipping "r" "t" levels := by
  constructor
  · refine ⟨_, rfl, rfl, ?_⟩
    exact levels_exact.1 .null (.list [.text "x"]) (.list (skipping.map .ofTransition)) (.text "r")
      (.text "t") _ rfl
  · exact levels_exact.2 skipping "r" "t" _ (checkNamed_eq_ok.mpr ⟨_, rfl, rfl⟩)

/-- The levels of a diagram constraint are pairwise disjoint exactly where all walks from the root
to a node have the same number of steps, the terminal apart. A node to which walks of different
numbers of steps lead is on the level of each of them. -/
theorem levels_disjoint_iff (m : Mdd Value) :
    (m.diagram.levels.Pairwise List.Disjoint ↔
      ∀ node steps more, node ≠ m.diagram.terminal →
        WalkOf m.diagram.transitions steps m.diagram.root node →
          WalkOf m.diagram.transitions more m.diagram.root node → steps = more) ∧
      ∀ node steps more, node ≠ m.diagram.terminal →
        WalkOf m.diagram.transitions steps m.diagram.root node →
          WalkOf m.diagram.transitions more m.diagram.root node → steps ≠ more →
            ∃ level levelToo, m.diagram.levels[steps]? = some level ∧
              m.diagram.levels[more]? = some levelToo ∧ node ∈ level ∧ node ∈ levelToo := by
  have layers := layers_of_accepted m.diagram.accepted
  refine ⟨layers.pairwise_disjoint_iff, ?_⟩
  intro node steps more other walk walkToo _
  obtain ⟨inside, member⟩ := layers.mem_of_walk walk other
  obtain ⟨insideToo, memberToo⟩ := layers.mem_of_walk walkToo other
  exact ⟨_, _, List.getElem?_eq_getElem inside, List.getElem?_eq_getElem insideToo, member,
    memberToo⟩

/-- The edge that skips a level puts its target on two of them. -/
theorem levels_not_disjoint :
    ∃ m : Mdd Value,
      Mdd.make .null (.list [.text "x"]) (.list (skipping.map .ofTransition)) (.text "r")
          (.text "t") = .ok m ∧
        ¬ m.diagram.levels.Pairwise List.Disjoint := by
  refine ⟨_, rfl, ?_⟩
  intro disjoint
  have apart : List.Disjoint ["a", "b"] ["b"] := List.pairwise_iff_getElem.mp disjoint 1 2
    (by decide) (by decide) (by decide)
  exact apart (List.mem_cons_of_mem "a" (List.mem_singleton_self "b")) (List.mem_singleton_self "b")

end Csp.Diagram
