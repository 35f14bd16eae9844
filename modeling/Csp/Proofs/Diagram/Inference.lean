import Csp.Proofs.Contribution
import Csp.Proofs.Diagram.Acceptance
import Csp.Proofs.Reading

/-!
# Diagrams without named ends

A document reader does not say which nodes are the root and the terminal of a
diagram. They are inferred from the plain texts of the nodes, before the
transitions are brought into their normal form and the diagram is checked. The
inference and the check are independent of each other; here they are shown to
agree, so that no diagram whose ends were inferred fails the check of its ends.
-/
namespace Csp

open Transition

namespace Diagram

/-- The root and the terminal are the only ends of their kinds. This is more than that they are
ends: no other node may be one. -/
structure SoleEnds {ν α : Type} (transitions : List (Transition ν α)) (root terminal : ν) :
    Prop where
  root_iff : ∀ node, IsRoot transitions node ↔ node = root
  terminal_iff : ∀ node, IsTerminal transitions node ↔ node = terminal

/-- What the ends of a transition list are depends on its sources and targets alone. The values on
the transitions do not enter. -/
theorem SoleEnds.congr {ν α β : Type} {transitions : List (Transition ν α)}
    {others : List (Transition ν β)} {root terminal : ν}
    (sources : transitions.map source = others.map source)
    (targets : transitions.map target = others.map target)
    (sole : SoleEnds transitions root terminal) : SoleEnds others root terminal := by
  have sameSource (node : ν) : IsSource transitions node ↔ IsSource others node := by
    rw [isSource_iff_mem, sources, ← isSource_iff_mem]
  have sameTarget (node : ν) : IsTarget transitions node ↔ IsTarget others node := by
    rw [isTarget_iff_mem, targets, ← isTarget_iff_mem]
  constructor
  · intro node
    rw [← sole.root_iff, IsRoot, IsRoot, sameSource, sameTarget]
  · intro node
    rw [← sole.terminal_iff, IsTerminal, IsTerminal, sameSource, sameTarget]

/-- The inference is the search among the plain texts, and reports what the search does. The values
of the transitions are not looked at, so they may be anything. -/
theorem givenEnds_of_described {items : List Value} {named : List (Transition String Value)}
    (described : List.Forall₂ Value.Describes items named) :
    givenEnds (.list items) = (findEnds named).mapError (.violation ·.violation) := by
  have read : (Value.list items).mapItems Value.namedTransition = .ok named := by
    rw [mapItems_list, mapM_eq_ok]
    exact described.imp fun _ _ => Value.Describes.namedTransition
  simp only [givenEnds, read, bind, Except.bind]

/-- Ends that were inferred are the only ones among the plain texts. Nodes given as different values
with the same text are one node here. -/
theorem givenEnds_ok {transitions : Value} {root terminal : String}
    (found : givenEnds transitions = .ok (root, terminal)) :
    ∃ named, transitions.mapItems Value.namedTransition = .ok named ∧
      SoleEnds named root terminal := by
  obtain ⟨named, read, found⟩ := bind_eq_ok.mp found
  refine ⟨named, read, ?_⟩
  obtain ⟨roots, terminals⟩ := findEnds_candidates (mapError_eq_ok.mp found)
  constructor
  · intro node
    rw [← mem_rootCandidates, roots, List.mem_singleton]
  · intro node
    rw [← mem_terminalCandidates, terminals, List.mem_singleton]

/-- The search for the ends reports one of two rules, or none if a transition cannot be taken apart
or written. -/
theorem givenEnds_reports (transitions : Value) {rules : List String}
    (root : "ambiguous_root" ∈ rules) (terminal : "ambiguous_terminal" ∈ rules) :
    FailsOnly (Reports rules) (givenEnds transitions) := by
  refine (Value.mapItems_reports Value.namedTransition_reports _).bind fun named _ => ?_
  refine FailsOnly.mapError fun ambiguity _ => ?_
  cases ambiguity with
  | root candidates => exact reports_violation root
  | terminal candidates => exact reports_violation terminal

/-- Between a root and a terminal, the check refuses a diagram for its levels only. The four rules
on the ends are out of the question. -/
theorem check_error {ν α : Type} [BEq ν] [LawfulBEq ν] [BEq α] [EquivBEq α]
    {transitions : List (Transition ν α)} {root terminal : ν} {fault : Fault ν}
    (isRoot : IsRoot transitions root) (isTerminal : IsTerminal transitions terminal)
    (refused : check transitions root terminal = .error fault) :
    fault = .cyclic ∨ ∃ node, fault = .inconsistentLevel node := by
  have ends : checkEnds transitions root terminal = .ok () :=
    checkEnds_ok_iff.mpr ⟨isRoot, isTerminal⟩
  rw [check, ends] at refused
  exact expand_error refused

/-- A diagram is refused for a fault of the check and for no other reason. -/
theorem ofTransitions_error {transitions : List (Transition String Label)}
    {root terminal : String} {fault : Fault String}
    (refused : ofTransitions transitions root terminal = .error fault) :
    check transitions root terminal = .error fault := by
  unfold ofTransitions at refused
  split at refused
  · rename_i outcome
    cases refused
    exact outcome
  · cases refused

end Diagram

/-- Where the ends of the transitions are right, the maker refuses nothing on their account. What
remains are the rules on levels and those on the form of what is given. -/
theorem Mdd.make_reports {id scope transitions root terminal : Value} {rules : List String}
    (listed : ["empty_variables", "empty_transitions", "malformed_transition", "cyclic",
      "inconsistent_level"] ⊆ rules)
    (ends : ∀ items normal, transitions.items = .ok items →
      items.mapM (Value.normalTransition "node") = .ok normal →
        ∀ first last, root.plain = .ok first → terminal.plain = .ok last →
          Diagram.IsRoot normal first ∧ Diagram.IsTerminal normal last) :
    FailsOnly (Reports rules) (Mdd.make id scope transitions root terminal) := by
  refine (Value.normalId_reports id).bind fun id _ => ?_
  refine (Value.items_reports scope).bind fun scope _ => ?_
  refine (Value.items_reports transitions).bind fun items itemsSo => ?_
  refine (Value.plain_reports root).bind fun first firstSo => ?_
  refine (Value.plain_reports terminal).bind fun last lastSo => ?_
  refine (requireItems_reports (listed (by decide))).bind fun _ _ => ?_
  refine (requireItems_reports (listed (by decide))).bind fun _ _ => ?_
  have each (v : Value) := Value.normalTransition_reports "node" v (listed (by decide))
  refine (FailsOnly.mapM each items).bind fun normal normalSo => ?_
  obtain ⟨isRoot, isTerminal⟩ := ends items normal itemsSo normalSo first last firstSo lastSo
  refine (FailsOnly.mapError fun fault outcome => ?_).bind fun diagram _ => .ok _
  rcases Diagram.check_error isRoot isTerminal (Diagram.ofTransitions_error outcome) with
    rfl | ⟨node, rfl⟩
  · exact reports_violation (listed (by decide))
  · exact reports_violation (listed (by simp [Violation.rule, Diagram.Fault.violation]))

namespace Callback

/-- The rules that a callback about a diagram can report. Those on the ends of a diagram are not
among them. -/
def diagramRules : List String :=
  ["ambiguous_root", "ambiguous_terminal", "empty_variables", "empty_transitions",
    "malformed_transition", "cyclic", "inconsistent_level"]

/-- The ends that were inferred are the only ones of the normal forms too. The normal forms have the
same texts for their ends, so the two searches see the same nodes. -/
theorem soleEnds_of_inferred {transitions : Value} {root terminal : String} {items : List Value}
    {normal : List (Transition String Label)}
    (found : Diagram.givenEnds transitions = .ok (root, terminal))
    (listed : transitions.items = .ok items)
    (read : items.mapM (Value.normalTransition "node") = .ok normal) :
    Diagram.SoleEnds normal root terminal := by
  obtain ⟨named, readNamed, sole⟩ := Diagram.givenEnds_ok found
  rw [Value.mapItems_of_items _ listed] at readNamed
  obtain ⟨sources, targets⟩ := Value.lists_agree readNamed read
  exact sole.congr sources targets

/-- A diagram that is made between the ends that were inferred has no other ends. -/
theorem soleEnds_of_made {id scope transitions : Value} {root terminal : String} {c : Mdd Value}
    (found : Diagram.givenEnds transitions = .ok (root, terminal))
    (made : Mdd.make id scope transitions (.text root) (.text terminal) = .ok c) :
    Diagram.SoleEnds c.diagram.transitions c.diagram.root c.diagram.terminal := by
  obtain ⟨items, listed, read, rootText, terminalText, _⟩ := Mdd.make_ok made
  have sameRoot : root = c.diagram.root := Except.ok.inj rootText
  have sameTerminal : terminal = c.diagram.terminal := Except.ok.inj terminalText
  have sole := soleEnds_of_inferred found listed read
  rw [sameRoot, sameTerminal] at sole
  exact sole

/-- What a callback about a diagram contributes is a diagram constraint between the only ends that
its transitions have. -/
theorem contribution_mdd_ok {room : Nat} {scope transitions : Value} {contributed : Contribution}
    (accepted : (Callback.mdd scope transitions).contribution room = .ok contributed) :
    ∃ c : Mdd Value, contributed = ⟨.constraint (.mdd c), .ok (Notice.mdd c.diagram)⟩ ∧
      Diagram.SoleEnds c.diagram.transitions c.diagram.root c.diagram.terminal := by
  obtain ⟨root, terminal, terms, c, found, _, made, rfl⟩ := contribution_mdd_made accepted
  exact ⟨c, rfl, soleEnds_of_made found made⟩

/-- What the callback on diagrams can report are the two rules of the search and the rules that are
checked afterwards. The four rules on given ends are not among them, since the ends that were found
pass these checks. -/
theorem contribution_mdd_reports (room : Nat) (scope transitions : Value) :
    FailsOnly (Reports diagramRules) ((Callback.mdd scope transitions).contribution room) := by
  refine (Diagram.givenEnds_reports transitions (by decide) (by decide)).bind fun ends found => ?_
  refine (Value.mapItems_reports Value.term_reports scope).bind fun terms _ => ?_
  refine (Mdd.make_reports (by decide) ?_).bind fun c _ => .ok _
  intro items normal listed read first last firstSo lastSo
  cases firstSo
  cases lastSo
  have sole := soleEnds_of_inferred found listed read
  exact ⟨(sole.root_iff _).mpr rfl, (sole.terminal_iff _).mpr rfl⟩

end Callback

namespace Collector

/-- A callback about a diagram fails with a rule that such a callback can report. Announcing the
constraint adds no rule to that. -/
theorem step_mdd_reports (c : Collector) (scope transitions : Value) :
    FailsOnly (Reports Callback.diagramRules)
      (c.step (.callback (.mdd scope transitions))).result := by
  have contributes := Callback.contribution_mdd_reports c.host.room scope transitions
  simp only [step]
  split
  · rename_i contributed accepted
    obtain ⟨m, rfl, _⟩ := Callback.contribution_mdd_ok accepted
    exact finish_reports _ none (announce_reports _ _ 2)
  · rename_i failure refused
    exact FailsOnly.error.mpr (contributes failure refused)

end Collector

namespace Diagram

/-- The ends of a transition list are inferred exactly when one pair of nodes passes the check of
the ends, and then they are that pair. Otherwise the number of roots is reported if it is not one,
and else the number of terminals. So no callback about a diagram fails on the check of its ends. -/
theorem inference_exact (items : List Value) (named : List (Transition String Value))
    (described : List.Forall₂ Value.Describes items named) :
    (∀ root terminal, givenEnds (.list items) = .ok (root, terminal) ↔
        checkEnds named root terminal = .ok () ∧
          ∀ other last, checkEnds named other last = .ok () → other = root ∧ last = terminal) ∧
      (givenEnds (.list items) =
          .error (.violation (.ambiguousRoot {node | IsRoot named node}.ncard)) ↔
        {node | IsRoot named node}.ncard ≠ 1) ∧
      (givenEnds (.list items) =
          .error (.violation (.ambiguousTerminal {node | IsTerminal named node}.ncard)) ↔
        {node | IsRoot named node}.ncard = 1 ∧ {node | IsTerminal named node}.ncard ≠ 1) ∧
      ∀ (c : Collector) (scope transitions : Value) (failure : Failure),
        (c.step (.callback (.mdd scope transitions))).result = .error failure →
          ∀ rule ∈ ["unknown_root", "root_is_destination", "unknown_terminal",
            "terminal_is_source"], failure.rule? ≠ some (.text rule) := by
  rw [givenEnds_of_described described]
  have distinct (roots terminals : Nat) : Failure.violation (.ambiguousRoot roots) ≠
      .violation (.ambiguousTerminal terminals) := violation_ne (by simp [Violation.rule])
  refine ⟨?_, ?_, ?_, ?_⟩
  · intro root terminal
    rw [← findEnds_ok_iff]
    cases findEnds named <;> simp [Except.mapError]
  · rw [← length_rootCandidates]
    rcases findEnds_eq named with
      ⟨root, terminal, roots, _, outcome⟩ | ⟨several, outcome⟩ | ⟨single, _, outcome⟩
    · simp [outcome, roots, Except.mapError]
    · simp [outcome, several, Except.mapError, Ambiguity.violation]
    · simp [outcome, single, Except.mapError, Ambiguity.violation, (distinct _ _).symm]
  · rw [← length_rootCandidates, ← length_terminalCandidates]
    rcases findEnds_eq named with
      ⟨root, terminal, roots, terminals, outcome⟩ | ⟨several, outcome⟩ |
        ⟨single, several, outcome⟩
    · simp [outcome, roots, terminals, Except.mapError]
    · simp [outcome, several, Except.mapError, Ambiguity.violation, distinct]
    · simp [outcome, single, several, Except.mapError, Ambiguity.violation]
  · intro c scope transitions failure failed rule listed
    apply (c.step_mdd_reports scope transitions failure failed).rule?_ne
    revert rule
    decide

/-- The node 1 is given as an integer and as a text, and one transition carries no value at all. -/
theorem inference_mixed_nodes :
    List.Forall₂ Value.Describes
        [.tuple [.int 0, .int 1, .text "1"], .list [.int 1, .null, .text "t"]]
        [⟨"0", .int 1, "1"⟩, ⟨"1", .null, "t"⟩] ∧
      givenEnds (.list [.tuple [.int 0, .int 1, .text "1"], .list [.int 1, .null, .text "t"]]) =
        .ok ("0", "t") := by
  have described : List.Forall₂ Value.Describes
      [.tuple [.int 0, .int 1, .text "1"], .list [.int 1, .null, .text "t"]]
      [⟨"0", .int 1, "1"⟩, ⟨"1", .null, "t"⟩] :=
    .cons ⟨_, _, rfl, rfl, rfl⟩ (.cons ⟨_, _, rfl, rfl, rfl⟩ .nil)
  refine ⟨described, ((inference_exact _ _ described).1 "0" "t").mpr ⟨rfl, ?_⟩⟩
  intro other last both
  obtain ⟨⟨⟨t, listed, rfl⟩, untargeted⟩, ⟨u, listedToo, rfl⟩, unleft⟩ := checkEnds_ok_iff.mp both
  simp only [List.mem_cons, List.not_mem_nil, or_false] at listed listedToo
  constructor
  · rcases listed with rfl | rfl
    · rfl
    · exact absurd ⟨⟨"0", .int 1, "1"⟩, by simp, rfl⟩ untargeted
  · rcases listedToo with rfl | rfl
    · exact absurd ⟨⟨"1", .null, "t"⟩, by simp, rfl⟩ unleft
    · rfl

end Diagram
end Csp
