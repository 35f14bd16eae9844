import Csp.Proofs.Automaton.Runs
import Csp.Proofs.Collector.Run
import Csp.Proofs.Diagram.Inference

/-!
# What can be relied on in what is collected

The makers bring the parts of an entity into their normal form and check them,
and the callbacks see to it that the parts exclude each other where a maker
would not: a table has rows of one meaning only, an objective has an expression
or terms, and a diagram has no ends but its root and its terminal. A callback
that fails takes in nothing that would fall short of this, and settings have no
part in it, so all of it holds in every state that a collector can reach.
-/
namespace Csp

open Transition

/-- An automaton constraint in which everything is there and every word has one run at most. The
second part is stated for words, and it follows from the transitions alone. -/
structure Regular.Sound (c : Regular Value) : Prop where
  scope : c.scope ≠ []
  transitions : c.automaton.transitions ≠ []
  finals : c.automaton.finals ≠ []
  start_isEnd : IsEnd c.automaton.transitions c.automaton.start
  finals_isEnd : ∀ state ∈ c.automaton.finals, IsEnd c.automaton.transitions state
  functional : ∀ t ∈ c.automaton.transitions, ∀ u ∈ c.automaton.transitions,
    t.source = u.source → t.value.value = u.value.value → t.target = u.target
  run_unique : ∀ path next last other,
    Walk c.automaton.transitions c.automaton.start path last →
      Walk c.automaton.transitions c.automaton.start next other → word path = word next →
        path = next ∧ last = other

/-- A diagram constraint with one root and one terminal, without a cycle below the root, and with
the levels that the check finds. -/
structure Mdd.Sound (c : Mdd Value) : Prop where
  scope : c.scope ≠ []
  ends : Diagram.SoleEnds c.diagram.transitions c.diagram.root c.diagram.terminal
  acyclic : ∀ node, Reachable c.diagram.transitions c.diagram.root node →
    ¬ OnCycle c.diagram.transitions node
  levels : Diagram.checkGiven (.list (c.diagram.transitions.map .ofTransition))
    (.text c.diagram.root) (.text c.diagram.terminal) =
      .ok (c.diagram.levels.map (·.map .text))

/-- What can be relied on in a constraint of each of the four families. -/
def Constraint.Sound : Constraint Value → Prop
  | .intension c => ∃ text, c.expression = .text text ∧ text ≠ ""
  | .table c => c.supports = [] ∨ c.conflicts = []
  | .regular c => c.Sound
  | .mdd c => c.Sound

/-- What can be relied on in a contribution. Nothing is asked of variables. -/
def Addition.Sound : Addition → Prop
  | .single _ => True
  | .constraint c => c.id = "" ∧ c.Sound
  | .objective x => x.id = "" ∧ x.Unambiguous

/-- What the maker of automaton constraints returns is sound, since every condition has been checked
on the way. The identifier is empty because none is given. -/
theorem Regular.sound_of_make {scope transitions start finals : Value} {c : Regular Value}
    (made : make .null scope transitions start finals = .ok c) : c.id = "" ∧ c.Sound := by
  obtain ⟨named, _, scopeFilled, _, transitionsFilled, _, _, finalsFilled⟩ := make_ok made
  obtain ⟨known, allKnown, distinct⟩ := c.automaton.deterministic
  refine ⟨(Except.ok.inj named).symm, ?_⟩
  constructor
  · exact scopeFilled
  · exact transitionsFilled
  · exact finalsFilled
  · exact known
  · exact allKnown
  · intro t listed u listedToo source number
    rw [distinct.eq_of_samePair listed listedToo source number]
  · intro path next last other walk walkToo sameWord
    exact distinct.run_unique walk walkToo sameWord

/-- What is made from the ends that a document leaves open is sound. That the ends are the only ones
follows from how they were found, and not from the check of the diagram. -/
theorem Mdd.sound_of_make {scope transitions : Value} {root terminal : String} {c : Mdd Value}
    (found : Diagram.givenEnds transitions = .ok (root, terminal))
    (made : make .null scope transitions (.text root) (.text terminal) = .ok c) :
    c.id = "" ∧ c.Sound := by
  obtain ⟨_, _, _, _, _, named, _, scopeFilled⟩ := make_ok made
  have wellFormed : Diagram.WellFormed c.diagram.transitions c.diagram.root c.diagram.terminal :=
    Diagram.check_ok_iff_wellFormed.mp ⟨_, c.diagram.accepted⟩
  refine ⟨(Except.ok.inj named).symm, ?_⟩
  constructor
  · exact scopeFilled
  · exact Callback.soleEnds_of_made found made
  · exact wellFormed.acyclic
  · rw [Diagram.checkGiven_ofTransition, c.diagram.accepted]
    rfl

namespace Contribution

variable {contributed : Contribution}

/-- A table is added with its rows on one side only, so supports and conflicts are never both
filled. -/
theorem sound_of_table {scope rows positive : Value}
    (accepted : ofTable scope rows positive = .ok contributed) : contributed.addition.Sound := by
  obtain ⟨terms, t, _, made, rfl⟩ := ofTable_ok accepted
  obtain ⟨id, _, frozen, _, supports, conflicts⟩ := tableOf_ok made
  refine ⟨id, ?_⟩
  by_cases meant : positive.isTrue = true
  · rw [if_pos meant] at conflicts
    exact .inr conflicts
  · rw [if_neg meant] at supports
    exact .inl supports

/-- An objective that is an expression has no terms and no coefficients, and its kind is that of
expressions. -/
theorem sound_of_expression {sense : Except Failure Sense} {term : Value}
    (accepted : ofExpression sense term = .ok contributed) : contributed.addition.Sound := by
  obtain ⟨expression, direction, x, _, made, rfl⟩ := ofExpression_ok accepted
  obtain ⟨named, _⟩ := Objective.ofExpression_ok made
  exact ⟨(Except.ok.inj named).symm, Objective.unambiguous_of_expression made⟩

/-- An objective over terms has an empty expression, even if its kind is that of expressions. -/
theorem sound_of_aggregate {sense : Except Failure Sense} {tag terms coefficients : Value}
    (accepted : ofAggregate sense tag terms coefficients = .ok contributed) :
    contributed.addition.Sound := by
  obtain ⟨kind, listed, factors, direction, x, _, made, rfl⟩ := ofAggregate_ok accepted
  obtain ⟨named, _⟩ := Objective.ofTerms_ok made
  exact ⟨(Except.ok.inj named).symm, Objective.unambiguous_of_terms made⟩

end Contribution

/-- Whatever a callback contributes can be relied on. There is one case for each callback, and each
goes back to what its maker has checked. -/
theorem Callback.sound_of_contribution {room : Nat} {call : Callback} {contributed : Contribution}
    (accepted : call.contribution room = .ok contributed) : contributed.addition.Sound := by
  cases call with
  | interval x low high | values x domain =>
    obtain ⟨_, _, _, _, rfl⟩ := Contribution.ofVariable_ok accepted
    trivial
  | intension scope tree =>
    obtain ⟨text, c, _, made, rfl⟩ := contribution_intension_ok accepted
    obtain ⟨named, kept, filled⟩ := Intension.make_ok made
    refine ⟨(Except.ok.inj named).symm, text, kept, ?_⟩
    rintro rfl
    cases filled
  | unaryTable x listed positive =>
    obtain ⟨rows, _, accepted⟩ := contribution_unaryTable_ok accepted
    exact Contribution.sound_of_table accepted
  | table scope rows positive => exact Contribution.sound_of_table accepted
  | regular scope transitions start finals =>
    obtain ⟨terms, c, _, made, rfl⟩ := contribution_regular_ok accepted
    exact Regular.sound_of_make made
  | mdd scope transitions =>
    obtain ⟨root, terminal, terms, c, found, _, made, rfl⟩ := contribution_mdd_made accepted
    exact Mdd.sound_of_make found made
  | expression sense term | expressionLike other term =>
    exact Contribution.sound_of_expression accepted
  | aggregate sense tag terms coefficients | aggregateLike other tag terms coefficients =>
    exact Contribution.sound_of_aggregate accepted

namespace Collector

/-- All constraints and all objectives that have been collected can be relied on. -/
structure Sound (c : Collector) : Prop where
  constraints : ∀ x ∈ c.constraints, x.id = "" ∧ x.Sound
  objectives : ∀ x ∈ c.objectives, x.id = "" ∧ x.Unambiguous

/-- Soundness is a property of each entity alone. So adding a sound one to sound ones needs no look
at the others. -/
theorem Sound.add {c : Collector} {a : Addition} (sound : c.Sound) (fresh : a.Sound) :
    (c.add a).Sound := by
  obtain ⟨constraints, objectives⟩ := sound
  cases a with
  | single x => exact ⟨constraints, objectives⟩
  | constraint x =>
    have all := List.forall_mem_append.mpr ⟨constraints, List.forall_mem_singleton.mpr fresh⟩
    exact ⟨all, objectives⟩
  | objective x =>
    have all := List.forall_mem_append.mpr ⟨objectives, List.forall_mem_singleton.mpr fresh⟩
    exact ⟨constraints, all⟩

/-- In every state that a collector can reach, all constraints and objectives that it holds can be
relied on, whatever the callbacks were given and whether they succeeded or failed. -/
theorem sound_after (host : Host) (format framework annotations verbosity : Value)
    (commands : List Command) :
    ((start host format framework annotations verbosity).after commands).Sound := by
  apply after_induction
  · intro c call a _ contributed sound
    obtain ⟨notice, accepted⟩ := Callback.entity?_eq_some.mp contributed
    exact sound.add (Callback.sound_of_contribution accepted)
  · intro c setting value _ sound
    cases setting <;> exact ⟨sound.constraints, sound.objectives⟩
  · exact ⟨List.forall_mem_nil _, List.forall_mem_nil _⟩

end Collector
end Csp
