import Csp.Proofs.Making
import Csp.Proofs.Numbered
import Csp.Proofs.Rules

/-!
# Arguments with the same normal form

The makers of automaton and of diagram constraints bring all that they are given
into a normal form, and every check is made on normal forms alone. So two calls
whose arguments have the same normal form end in the same way: with equal
constraints, which have the same states or the same levels, or with the same
violated rule.

Both calls go through the same steps, and it is shown of every step that it has
the same verdict in both where the steps before it have agreed. Two steps can
also fail without a rule, then in the same way in both calls: final states need
not be given as a collection of what has a text, and the report on two competing
transitions needs the numeral of their value.
-/
namespace Csp

open Transition

/-! ## Outcomes that agree -/

section Outcomes

variable {β γ : Type} {outcome other : Except Failure β} {agree : β → β → Prop}

/-- A rule that is violated at some step is reported in the end, whatever would come after the
step. -/
theorem Violates.bind {rule : String} (violates : Violates outcome rule)
    (next : β → Except Failure γ) : Violates (outcome >>= next) rule := by
  obtain ⟨violation, named, rfl⟩ := violates
  exact ⟨violation, named, rfl⟩

/-- Two computations have the same verdict if their first steps have and if the others have
wherever the first steps agree. -/
theorem SameVerdict.bind {agreeToo : γ → γ → Prop} {next nextToo : β → Except Failure γ}
    (first : SameVerdict agree outcome other)
    (second : ∀ result resultToo, agree result resultToo →
      SameVerdict agreeToo (next result) (nextToo resultToo)) :
    SameVerdict agreeToo (outcome >>= next) (other >>= nextToo) := by
  rcases first with ⟨result, resultToo, rfl, rfl, agrees⟩ | ⟨rule, refused, refusedToo⟩
  · exact second result resultToo agrees
  · exact .inr ⟨rule, refused.bind next, refusedToo.bind nextToo⟩

/-- Two outcomes have the same verdict, or both are the same failure of a certain sort. Which sort
it is has to be said, so that not every failure is excused. -/
def SameOutcome (silent : Failure → Prop) (agree : β → β → Prop)
    (outcome other : Except Failure β) : Prop :=
  SameVerdict agree outcome other ∨
    ∃ failure, silent failure ∧ outcome = .error failure ∧ other = .error failure

/-- Two computations have the same outcome if their first steps have and if the others have wherever
the first steps agree. -/
theorem SameOutcome.bind {silent : Failure → Prop} {agreeToo : γ → γ → Prop}
    {next nextToo : β → Except Failure γ} (first : SameOutcome silent agree outcome other)
    (second : ∀ result resultToo, agree result resultToo →
      SameOutcome silent agreeToo (next result) (nextToo resultToo)) :
    SameOutcome silent agreeToo (outcome >>= next) (other >>= nextToo) := by
  rcases first with
    (⟨result, resultToo, rfl, rfl, agrees⟩ | ⟨rule, refused, refusedToo⟩) |
      ⟨failure, fits, rfl, rfl⟩
  · exact second result resultToo agrees
  · exact .inl (.inr ⟨rule, refused.bind next, refusedToo.bind nextToo⟩)
  · exact .inr ⟨failure, fits, rfl, rfl⟩

end Outcomes

/-! ## Constraints that are alike -/

/-- Two automaton constraints are equal, with the same states and with alphabets of the same
numbers. -/
structure Regular.Alike (c d : Regular Value) : Prop where
  equal : (Value.entity (.constraint (.regular c))).same (.entity (.constraint (.regular d))) = true
  states : c.automaton.states = d.automaton.states
  alphabet : c.automaton.alphabet.map Label.value = d.automaton.alphabet.map Label.value

/-- Two diagram constraints are equal, with the same levels and the same nodes. -/
structure Mdd.Alike (c d : Mdd Value) : Prop where
  equal : (Value.entity (.constraint (.mdd c))).same (.entity (.constraint (.mdd d))) = true
  levels : c.diagram.levels = d.diagram.levels
  nodes : c.diagram.nodes = d.diagram.nodes

/-- Two lists of values are equal item by item. Equality is that of values, under which numbers of
different types can be equal. -/
def SameItems (items others : List Value) : Prop :=
  List.Forall₂ (fun item other => item.same other = true) items others

namespace SameItems

variable {items others : List Value}

/-- Lists that are equal item by item have shapes that are alike. -/
theorem alike (same : SameItems items others) :
    Shape.alikeItems (items.map Value.shape) (others.map Value.shape) = true := by
  rw [Shape.alikeItems_iff, List.forall₂_map_left_iff, List.forall₂_map_right_iff]
  exact same

end SameItems

/-- Transitions that are equal up to the way in which a label is given have shapes that are
alike. -/
theorem Transition.alike_of_equal {transitions others : List (Transition String Label)}
    (same : List.Forall₂ Transition.Equal transitions others) :
    Shape.alikeItems (transitions.map Shape.ofTransition)
      (others.map Shape.ofTransition) = true := by
  rw [Shape.alikeItems_iff, List.forall₂_map_left_iff, List.forall₂_map_right_iff]
  refine same.imp fun t u equal => ?_
  rw [← Value.shape_ofTransition, ← Value.shape_ofTransition]
  exact equal

/-- The shape of an automaton constraint is made of the shapes of its terms and of its automaton, so
it can be compared part by part. -/
theorem Regular.shape_eq (c : Regular Value) :
    (Value.entity (.constraint (.regular c))).shape =
      .ofRegular c.id (c.scope.map Value.shape) c.automaton := by
  rw [← Value.shapes_eq_map]
  cases c
  rfl

/-- The shape of a diagram constraint is made of those of its parts in the same way. -/
theorem Mdd.shape_eq (c : Mdd Value) :
    (Value.entity (.constraint (.mdd c))).shape =
      .ofMdd c.id (c.scope.map Value.shape) c.diagram := by
  rw [← Value.shapes_eq_map]
  cases c
  rfl

/-- Constraints with equal parts are alike, since all else is derived from the parts. States and
alphabet are read off the transitions, and equal transitions have labels of the same numbers. -/
theorem Regular.alike_of_parts {c d : Regular Value} (id : c.id = d.id)
    (scope : SameItems c.scope d.scope)
    (transitions : List.Forall₂ Transition.Equal c.automaton.transitions d.automaton.transitions)
    (start : c.automaton.start = d.automaton.start)
    (finals : c.automaton.finals = d.automaton.finals) : c.Alike d := by
  constructor
  case equal =>
    rw [Value.same, shape_eq, shape_eq]
    simp only [Shape.same, Shape.ofRegular, Shape.ofClass, Shape.alike, Shape.alikeFields, id,
      scope.alike, alike_of_equal transitions, start, finals, Shape.alikeItems_self,
      beq_self_eq_true, Bool.and_self]
  case states =>
    rw [Automaton.states, Automaton.states, ← nodes_numbered, numbered_of_equal transitions,
      nodes_numbered]
  case alphabet =>
    rw [Automaton.alphabet, Automaton.alphabet, ← values_numbered, numbered_of_equal transitions,
      values_numbered]

/-- Diagram constraints with equal parts are alike. The levels are those of transitions that are
equal, and the check does not see the difference. -/
theorem Mdd.alike_of_parts {c d : Mdd Value} (id : c.id = d.id)
    (scope : SameItems c.scope d.scope)
    (transitions : List.Forall₂ Transition.Equal c.diagram.transitions d.diagram.transitions)
    (root : c.diagram.root = d.diagram.root)
    (terminal : c.diagram.terminal = d.diagram.terminal) : c.Alike d := by
  constructor
  case equal =>
    rw [Value.same, shape_eq, shape_eq]
    simp only [Shape.same, Shape.ofMdd, Shape.ofClass, Shape.alike, Shape.alikeFields, id,
      scope.alike, alike_of_equal transitions, root, terminal, beq_self_eq_true, Bool.and_self]
  case levels =>
    have found := c.diagram.accepted
    rw [Diagram.check_of_equal transitions, root, terminal, d.diagram.accepted] at found
    exact (Except.ok.inj found).symm
  case nodes =>
    rw [Diagram.nodes, Diagram.nodes, ← nodes_numbered, numbered_of_equal transitions,
      nodes_numbered]

/-! ## Arguments that agree -/

/-- The arguments of the maker of automaton constraints. -/
structure Regular.Arguments where
  id : Value
  scope : Value
  transitions : Value
  start : Value
  finals : Value

/-- The arguments of the maker of diagram constraints. -/
structure Mdd.Arguments where
  id : Value
  scope : Value
  transitions : Value
  root : Value
  terminal : Value

/-- What the maker makes of the arguments. -/
def Regular.Arguments.make (a : Arguments) : Except Failure (Regular Value) :=
  Regular.make a.id a.scope a.transitions a.start a.finals

/-- What the maker makes of the arguments. -/
def Mdd.Arguments.make (a : Arguments) : Except Failure (Mdd Value) :=
  Mdd.make a.id a.scope a.transitions a.root a.terminal

end Csp
