import Csp.Proofs.Given

/-!
# Labels as numbers

A label is an integer or a truth value, and a truth value equals its number. So
triples can be equal though their labels are not the same. The checks of diagrams
and of automata cannot tell such triples apart: what they return is determined by
the triples with every label replaced by the number for which it stands. Only the
message about two competing transitions shows which label was given.
-/
namespace Csp

namespace Transition

/-- Two transitions are equal as triples. -/
def Equal (t u : Transition String Label) : Prop :=
  (Value.ofTransition t).same (.ofTransition u) = true

/-- A transition with the number that its label stands for. -/
def numbered (t : Transition String Label) : Transition String Int := t.map id Label.value

/-- Transitions are equal exactly if they become the same when their labels are replaced by
numbers. -/
theorem equal_iff (t u : Transition String Label) : t.Equal u ↔ t.numbered = u.numbered := by
  change Shape.alike (.tuple [.text t.source, (Value.ofLabel t.value).shape, .text t.target])
    (.tuple [.text u.source, (Value.ofLabel u.value).shape, .text u.target]) = true ↔ _
  simp only [Shape.alike, Shape.alikeItems, alike_ofLabel, Bool.and_eq_true, Bool.and_true,
    beq_iff_eq, Label.beq_iff, numbered, map, mk.injEq, id_eq]

/-- Lists of triples that are equal are the same list once labels are numbers. So what is computed
from them is the same on both sides. -/
theorem numbered_of_equal {transitions others : List (Transition String Label)}
    (equal : List.Forall₂ Equal transitions others) :
    transitions.map numbered = others.map numbered := by
  rw [← List.forall₂_eq_eq_eq, List.forall₂_map_left_iff, List.forall₂_map_right_iff]
  exact equal.imp fun t u => (equal_iff t u).mp

/-- Names that stay as they are keep being told apart. -/
theorem id_faithful : Faithful (id : String → String) := fun _ _ => rfl

/-- Labels are compared by their numbers, so replacing them by their numbers confuses none that were
told apart. -/
theorem value_faithful : Faithful Label.value := fun _ _ => rfl

/-- The nodes do not depend on the labels. -/
theorem nodes_numbered (transitions : List (Transition String Label)) :
    nodes (transitions.map numbered) = nodes transitions :=
  (nodes_map id_faithful transitions).trans (List.map_id _)

/-- The values of the transitions are replaced one by one. -/
theorem values_numbered (transitions : List (Transition String Label)) :
    values (transitions.map numbered) = (values transitions).map Label.value := by
  rw [values, values, ← value_faithful.eraseDups_map, List.map_map, List.map_map]
  rfl

end Transition

open Transition

namespace Diagram

/-- The check of a diagram goes by the numbers for which labels stand. Its levels are lists of
nodes, in which labels do not occur. -/
theorem check_numbered (transitions : List (Transition String Label)) (root terminal : String) :
    check (transitions.map numbered) root terminal = check transitions root terminal := by
  have mapped := check_map id_faithful value_faithful transitions root terminal
  refine mapped.trans ?_
  cases check transitions root terminal with
  | ok levels => simp [Except.map, Except.mapError]
  | error fault => cases fault <;> rfl

/-- Lists of triples that are equal describe diagrams with the same levels, or they have the same
fault. -/
theorem check_of_equal {transitions others : List (Transition String Label)}
    (equal : List.Forall₂ Equal transitions others) (root terminal : String) :
    check transitions root terminal = check others root terminal := by
  rw [← check_numbered, numbered_of_equal equal, check_numbered]

end Diagram

namespace Automaton

/-- The check of an automaton goes by the numbers for which labels stand, and only the fault of two
competing transitions mentions a label. -/
theorem check_numbered (transitions : List (Transition String Label)) (start : String)
    (finals : List String) :
    check (transitions.map numbered) start finals =
      (check transitions start finals).mapError (Fault.map id Label.value) := by
  have mapped := check_map id_faithful value_faithful transitions start finals
  rw [List.map_id] at mapped
  refine mapped.trans ?_
  cases check transitions start finals with
  | ok states => simp [Except.map, Except.mapError]
  | error fault => rfl

/-- The check of an automaton returns the same states for equal transitions, or faults that differ
only in the way in which a label is given. -/
theorem check_of_equal {transitions others : List (Transition String Label)}
    (equal : List.Forall₂ Equal transitions others) (start : String) (finals : List String) :
    (check transitions start finals).mapError (Fault.map id Label.value) =
      (check others start finals).mapError (Fault.map id Label.value) := by
  rw [← check_numbered, numbered_of_equal equal, check_numbered]


end Automaton

end Csp
