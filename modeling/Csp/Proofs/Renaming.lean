import Csp.Automaton.Basic
import Csp.Diagram.Basic
import Csp.Proofs.Distinct

/-!
# Renaming nodes and values

The checks on graphs compare nodes with nodes and values with values and ask
nothing else of them. So a renaming that keeps equal nodes and values equal and
others apart changes no verdict: the check of the renamed transitions returns
the renamed nodes, or the same fault about the renamed node.
-/
namespace Csp

variable {ν μ α β : Type}

/-- A transition with its ends and its value renamed. -/
def Transition.map (rename : ν → μ) (relabel : α → β) (t : Transition ν α) : Transition μ β :=
  ⟨rename t.source, relabel t.value, rename t.target⟩

/-- A fault of a diagram that is about a renamed node. -/
def Diagram.Fault.map (rename : ν → μ) : Fault ν → Fault μ
  | .unknownRoot node => .unknownRoot (rename node)
  | .rootIsTarget node => .rootIsTarget (rename node)
  | .unknownTerminal node => .unknownTerminal (rename node)
  | .terminalIsSource node => .terminalIsSource (rename node)
  | .cyclic => .cyclic
  | .inconsistentLevel node => .inconsistentLevel (rename node)

/-- A fault of an automaton that is about a renamed state and a renamed value. -/
def Automaton.Fault.map (rename : ν → μ) (relabel : α → β) : Fault ν α → Fault μ β
  | .unknownStart state => .unknownStart (rename state)
  | .unknownFinal state => .unknownFinal (rename state)
  | .nonDeterministic state value => .nonDeterministic (rename state) (relabel value)

section Nodes

variable [BEq ν] [BEq μ] {rename : ν → μ} {relabel : α → β}

/-- A renamed item is found exactly where the item was. -/
theorem Faithful.contains (faithful : Faithful rename) (items : List ν) (item : ν) :
    (items.map rename).contains (rename item) = items.contains item := by
  simp only [List.contains_eq_any_beq, List.any_map, Function.comp_def, faithful _ _]

namespace Transition

/-- The sources of renamed transitions are the renamed sources, in the same order. Repetitions are
erased at the same places. -/
theorem sources_map (faithful : Faithful rename) (transitions : List (Transition ν α)) :
    sources (transitions.map (map rename relabel)) = (sources transitions).map rename := by
  rw [sources, sources, ← faithful.eraseDups_map, List.map_map, List.map_map]
  rfl

/-- The same holds of the targets. -/
theorem targets_map (faithful : Faithful rename) (transitions : List (Transition ν α)) :
    targets (transitions.map (map rename relabel)) = (targets transitions).map rename := by
  rw [targets, targets, ← faithful.eraseDups_map, List.map_map, List.map_map]
  rfl

/-- And it holds of all nodes. -/
theorem nodes_map (faithful : Faithful rename) (transitions : List (Transition ν α)) :
    nodes (transitions.map (map rename relabel)) = (nodes transitions).map rename := by
  rw [nodes, nodes, ← faithful.eraseDups_map, List.flatMap_map, List.map_flatMap]
  rfl

end Transition

namespace Diagram

open Transition

/-- A renamed node offers the relabelled values. Its transitions are found since no other node has
taken its name. -/
theorem offered_map (faithful : Faithful rename) (transitions : List (Transition ν α)) (node : ν) :
    offered (transitions.map (map rename relabel)) (rename node) =
      (offered transitions node).map relabel := by
  simp only [offered, List.filter_map, List.map_map, Function.comp_def, map, faithful _ _]

/-- A renamed node has the renamed successors, the renamed terminal left out. -/
theorem successors_map (faithful : Faithful rename) (transitions : List (Transition ν α))
    (terminal node : ν) :
    successors (transitions.map (map rename relabel)) (rename terminal) (rename node) =
      (successors transitions terminal node).map rename := by
  simp only [successors, List.filter_map, List.map_map, Function.comp_def, map, bne, faithful _ _]

/-- Levels are therefore renamed node by node. -/
theorem nextLevel_map (faithful : Faithful rename) (transitions : List (Transition ν α))
    (terminal : ν) (level : List ν) :
    nextLevel (transitions.map (map rename relabel)) (rename terminal) (level.map rename) =
      (nextLevel transitions terminal level).map rename := by
  simp only [nextLevel, List.flatMap_map, successors_map faithful, ← List.map_flatMap,
    faithful.eraseDups_map]

/-- The check of the ends passes for renamed ends exactly where it has passed before, and its faults
name the renamed nodes. -/
theorem checkEnds_map (faithful : Faithful rename) (transitions : List (Transition ν α))
    (root terminal : ν) :
    checkEnds (transitions.map (map rename relabel)) (rename root) (rename terminal) =
      (checkEnds transitions root terminal).mapError (Fault.map rename) := by
  simp only [checkEnds, sources_map faithful, targets_map faithful, faithful.contains]
  cases (sources transitions).contains root <;> cases (targets transitions).contains root <;>
    cases (targets transitions).contains terminal <;>
    cases (sources transitions).contains terminal <;> rfl

end Diagram

/-- The check of the states does the same for an automaton. Relabelling does not matter to it, since
it does not look at values. -/
theorem Automaton.checkStates_map (faithful : Faithful rename)
    (transitions : List (Transition ν α)) (start : ν) (finals : List ν) :
    checkStates (transitions.map (.map rename relabel)) (rename start) (finals.map rename) =
      ((checkStates transitions start finals).map (·.map rename)).mapError
        (Fault.map rename relabel) := by
  simp only [checkStates, Transition.nodes_map faithful, faithful.contains, List.find?_map,
    Function.comp_def]
  cases (Transition.nodes transitions).contains start with
  | false => rfl
  | true => cases finals.find? fun state => !(Transition.nodes transitions).contains state <;> rfl

end Nodes

section Values

variable [BEq ν] [BEq μ] [BEq α] [BEq β] {rename : ν → μ} {relabel : α → β}

namespace Diagram

open Transition

/-- The values of a renamed level are the relabelled ones, if labels that were told apart still
are. -/
theorem levelValues_map (faithful : Faithful rename) (faithfulValue : Faithful relabel)
    (transitions : List (Transition ν α)) (level : List ν) :
    levelValues (transitions.map (map rename relabel)) (level.map rename) =
      (levelValues transitions level).map relabel := by
  simp only [levelValues, List.flatMap_map, offered_map faithful, ← List.map_flatMap,
    faithfulValue.eraseDups_map]

/-- A renamed node lacks a value exactly if the node has lacked one. -/
theorem lacksValue_map (faithful : Faithful rename) (faithfulValue : Faithful relabel)
    (transitions : List (Transition ν α)) (values : List α) (node : ν) :
    lacksValue (transitions.map (map rename relabel)) (values.map relabel) (rename node) =
      lacksValue transitions values node := by
  simp only [lacksValue, offered_map faithful, List.isEmpty_map, List.any_map, Function.comp_def,
    faithfulValue.contains]

/-- Renaming commutes with the expansion, level by level. The induction follows the levels, and the
bound is the same on both sides. -/
theorem expand_map (faithful : Faithful rename) (faithfulValue : Faithful relabel)
    (transitions : List (Transition ν α)) (terminal : ν) (bound : Nat) (level : List ν) :
    expand (transitions.map (map rename relabel)) (rename terminal) bound (level.map rename) =
      ((expand transitions terminal bound level).map (·.map (·.map rename))).mapError
        (Fault.map rename) := by
  induction bound generalizing level with
  | zero => cases level <;> rfl
  | succ bound inductionHypothesis =>
    cases level with
    | nil => rfl
    | cons node others =>
      rw [List.map_cons, expand, expand, ← List.map_cons, levelValues_map faithful faithfulValue,
        List.find?_map, nextLevel_map faithful, inductionHypothesis]
      simp only [Function.comp_def, lacksValue_map faithful faithfulValue]
      cases (node :: others).find?
          (lacksValue transitions (levelValues transitions (node :: others))) with
      | some lacking => rfl
      | none =>
        cases expand transitions terminal bound
            (nextLevel transitions terminal (node :: others)) <;> rfl

/-- The check of a renamed diagram returns the renamed levels or the renamed fault. The bound on the
levels is the same, because no two sources become one. -/
theorem check_map (faithful : Faithful rename) (faithfulValue : Faithful relabel)
    (transitions : List (Transition ν α)) (root terminal : ν) :
    check (transitions.map (map rename relabel)) (rename root) (rename terminal) =
      ((check transitions root terminal).map (·.map (·.map rename))).mapError
        (Fault.map rename) := by
  have expanded := expand_map faithful faithfulValue transitions terminal
    ((sources transitions).length + 1) [root]
  rw [List.map_singleton] at expanded
  rw [check, check, checkEnds_map faithful, sources_map faithful, List.length_map]
  cases checkEnds transitions root terminal with
  | error fault => rfl
  | ok _ => exact expanded

end Diagram

namespace Automaton

/-- The scan for repeated pairs stops at the same transition. Pairs are compared by their states and
values, and both renamings keep them apart. -/
theorem firstCompeting_map (faithful : Faithful rename) (faithfulValue : Faithful relabel)
    (earlier transitions : List (Transition ν α)) :
    firstCompeting (earlier.map (.map rename relabel)) (transitions.map (.map rename relabel)) =
      (firstCompeting earlier transitions).map (.map rename relabel) := by
  induction transitions generalizing earlier with
  | nil => rfl
  | cons t later inductionHypothesis =>
    have competing : (earlier.map (.map rename relabel)).any (competes (t.map rename relabel)) =
        earlier.any (competes t) := by
      rw [List.any_map]
      congr 1
      funext u
      simp only [Function.comp_apply, competes, Transition.map, faithful _ _, faithfulValue _ _]
    have following := inductionHypothesis (t :: earlier)
    rw [List.map_cons] at following
    rw [List.map_cons, firstCompeting, firstCompeting, competing]
    split
    · rfl
    · exact following

/-- The check of a renamed automaton returns the renamed states or the renamed fault. -/
theorem check_map (faithful : Faithful rename) (faithfulValue : Faithful relabel)
    (transitions : List (Transition ν α)) (start : ν) (finals : List ν) :
    check (transitions.map (.map rename relabel)) (rename start) (finals.map rename) =
      ((check transitions start finals).map (·.map rename)).mapError
        (Fault.map rename relabel) := by
  have competing := firstCompeting_map faithful faithfulValue [] transitions
  rw [List.map_nil] at competing
  rw [check, check, checkStates_map faithful, competing]
  cases checkStates transitions start finals with
  | error fault => rfl
  | ok states => cases firstCompeting [] transitions <;> rfl

end Automaton

end Values
end Csp
