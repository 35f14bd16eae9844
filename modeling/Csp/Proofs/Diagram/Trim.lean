import Csp.Proofs.Diagram.Inference

/-!
# Diagrams without dead ends

A diagram that is made with a root and a terminal of its own choice may have
nodes from which the terminal cannot be reached: the check compares the values
of sources only and passes over the other nodes of a level. Where the ends were
inferred there are no such nodes, because the terminal is then the only node
that no transition leaves. A walk that has not come to the terminal can always
go on, and since the levels run out, it comes to the terminal in the end.
-/
namespace Csp.Diagram

open Transition

variable {ν α : Type}

/-- Every node on the levels is on a walk from the root to the terminal, the nodes of a level have
the same outgoing values, and there are as many levels as the longest of these walks has steps.
These walks are paths: they leave no node twice. -/
structure Trim [BEq α] (transitions : List (Transition ν α)) (root terminal : ν)
    (levels : List (List ν)) : Prop where
  reached : ∀ level ∈ levels, ∀ node ∈ level, Reachable transitions root node
  onward : ∀ level ∈ levels, ∀ node ∈ level, Reachable transitions node terminal
  sameOffers : ∀ level ∈ levels, ∀ node ∈ level, ∀ other ∈ level,
    SameOffers transitions node other
  longest : WalkOf transitions levels.length root terminal
  bounded : ∀ steps, WalkOf transitions steps root terminal → steps ≤ levels.length
  simple : ∀ path, Walk transitions root path terminal → (path.map source).Nodup

/-- Where the terminal is the only one of its kind, a walk from a root that has not come to it can
go on. -/
theorem SoleEnds.isSource {transitions : List (Transition ν α)} {root terminal node : ν}
    {steps : Nat} (sole : SoleEnds transitions root terminal)
    (walk : WalkOf transitions steps root node) (other : node ≠ terminal) :
    IsSource transitions node := by
  by_contra unleft
  cases steps with
  | zero =>
    have same : root = node := walkOf_zero.mp walk
    rw [← same] at unleft
    exact unleft ((sole.root_iff root).mpr rfl).1
  | succ steps =>
    obtain ⟨t, listed, _, target⟩ := walkOf_succ.mp walk
    exact other ((sole.terminal_iff node).mp ⟨⟨t, listed, target⟩, unleft⟩)

section Levels

variable [BEq ν] [LawfulBEq ν] [BEq α] [EquivBEq α] {transitions : List (Transition ν α)}
variable {root terminal : ν} {levels : List (List ν)}

/-- From the end of any walk, the terminal can be reached in the steps that are left before the
levels run out. -/
theorem reachable_terminal (accepted : check transitions root terminal = .ok levels)
    (sole : SoleEnds transitions root terminal) {depth left : Nat}
    (enough : levels.length ≤ depth + left) {node : ν} (walk : WalkOf transitions depth root node) :
    Reachable transitions node terminal := by
  induction left generalizing depth node with
  | zero =>
    have arrived : node = terminal := eq_terminal_of_long_walk accepted enough walk
    exact ⟨0, walkOf_zero.mpr arrived⟩
  | succ left inductionHypothesis =>
    by_cases arrived : node = terminal
    · exact ⟨0, walkOf_zero.mpr arrived⟩
    · obtain ⟨t, listed, rfl⟩ := sole.isSource walk arrived
      have further : WalkOf transitions (depth + 1) root t.target :=
        walkOf_succ.mpr ⟨t, listed, walk, rfl⟩
      obtain ⟨steps, rest⟩ := inductionHypothesis (by omega) further
      exact ⟨1 + steps, (walkOf_add 1 steps).mpr ⟨t.target, walkOf_one listed, rest⟩⟩

/-- From the last level the terminal is one step away. A node on it with a transition elsewhere
would put another level behind it. -/
theorem longest_walk (accepted : check transitions root terminal = .ok levels)
    (sole : SoleEnds transitions root terminal) :
    WalkOf transitions levels.length root terminal := by
  obtain ⟨isRoot, isTerminal, _⟩ := check_eq_ok_iff.mp accepted
  have filled : 0 < levels.length := by
    by_contra empty
    have arrived : root = terminal :=
      eq_terminal_of_long_walk accepted (Nat.le_of_not_lt empty) (walkOf_zero.mpr rfl)
    exact isRoot.ne_terminal isTerminal arrived
  obtain ⟨last, count⟩ := Nat.exists_eq_add_one.mpr filled
  obtain ⟨node, walk, other⟩ := exists_walk_of_lt accepted (show last < levels.length by omega)
  obtain ⟨t, listed, rfl⟩ := sole.isSource walk other
  have further : WalkOf transitions (last + 1) root t.target :=
    walkOf_succ.mpr ⟨t, listed, walk, rfl⟩
  rw [← count] at further
  have arrived : t.target = terminal := eq_terminal_of_long_walk accepted (Nat.le_refl _) further
  rw [arrived] at further
  exact further

/-- An accepted diagram between the only ends that its transitions have is trim. A node without
transitions would be a second terminal, so from every node the walk goes on until the levels run
out. -/
theorem trim_of_soleEnds (accepted : check transitions root terminal = .ok levels)
    (sole : SoleEnds transitions root terminal) : Trim transitions root terminal levels := by
  have wellFormed : WellFormed transitions root terminal :=
    check_ok_iff_wellFormed.mp ⟨levels, accepted⟩
  constructor
  case reached =>
    intro level listed node member
    obtain ⟨depth, _, walk, _⟩ := walk_of_mem_level accepted listed member
    exact ⟨depth, walk⟩
  case onward =>
    intro level listed node member
    obtain ⟨depth, _, walk, _⟩ := walk_of_mem_level accepted listed member
    exact reachable_terminal accepted sole (Nat.le_add_left levels.length depth) walk
  case sameOffers =>
    intro level listed node member other memberToo
    obtain ⟨depth, placed, walk, inside⟩ := walk_of_mem_level accepted listed member
    have otherToo : other ∈ levels[depth]?.getD [] := by
      rw [placed]
      exact memberToo
    obtain ⟨walkToo, insideToo⟩ := (mem_levels accepted depth other).mp otherToo
    exact wellFormed.consistent depth node other walk walkToo (sole.isSource walk inside)
      (sole.isSource walkToo insideToo)
  case longest => exact longest_walk accepted sole
  case bounded => exact fun steps walk => walk_le_levels accepted walk
  case simple =>
    intro path walk
    by_contra twice
    obtain ⟨node, reached, cycle⟩ := walk.passes_cycle twice
    exact wellFormed.acyclic node reached cycle

end Levels

/-- A callback about a diagram that succeeds has appended a diagram constraint without dead
ends. -/
theorem callback_appends_trim (c : Collector) (scope transitions : Value)
    (result : Option (Instance Value))
    (succeeds : (c.step (.callback (.mdd scope transitions))).result = .ok result) :
    ∃ m : Mdd Value,
      (c.step (.callback (.mdd scope transitions))).collector.constraints =
          c.constraints ++ [.mdd m] ∧
        Trim m.diagram.transitions m.diagram.root m.diagram.terminal m.diagram.levels := by
  simp only [Collector.step] at succeeds ⊢
  cases contributed : (Callback.mdd scope transitions).contribution c.host.room with
  | error failure =>
    rw [contributed] at succeeds
    cases succeeds
  | ok contribution =>
    obtain ⟨m, rfl, sole⟩ := Callback.contribution_mdd_ok contributed
    refine ⟨m, ?_, trim_of_soleEnds m.diagram.accepted sole⟩
    rw [Collector.finish_collector]
    rfl

/-- An edge that skips a level and a cycle that cannot be reached do no harm. -/
theorem callback_appends_trim_skipping :
    ∃ m : Mdd Value,
      ((Collector.start .ample .null .null .null (.int 0)).step (.callback (.mdd
          (.list [.text "x", .text "y"])
          (.list [.tuple [.text "r", .int 0, .text "a"], .tuple [.text "r", .int 1, .text "t"],
            .tuple [.text "a", .int 0, .text "t"],
            .tuple [.text "c", .int 0, .text "c"]])))).collector.constraints = [.mdd m] ∧
        Trim m.diagram.transitions m.diagram.root m.diagram.terminal m.diagram.levels :=
  callback_appends_trim _ _ _ none rfl

end Csp.Diagram
