import Csp.Make.Constraints
import Csp.Proofs.Equality
import Csp.Proofs.Outcome
import Csp.Proofs.Renaming
import Mathlib.Data.List.TakeWhile

/-!
# Checking transitions that are given by name

The checks of what is given compare values with values. Where the nodes are
texts and the values of transitions are labels, this is the comparison of the
texts and of the labels, and everything can be a key. So on such transitions
the checks of what is given are the checks on texts and labels, and each of
their faults is reported as the violation that describes it.

Start and final states may be any values even then. A value that is no text is
none of the states, but it is what the message about it has to name.
-/
namespace Csp

/-- Texts are the same key when they are equal. So nothing that is said about texts changes when
they are taken for values. -/
theorem text_faithful : Faithful Value.text := by
  intro item other
  rw [Bool.eq_iff_iff, Value.beq_text_iff, beq_iff_eq, Value.text.injEq]

/-- The shape of a label is a number, namely the one that the label stands for. -/
theorem shape_ofLabel (label : Label) :
    ∃ n : Number, (Value.ofLabel label).shape = .number n ∧
      n.exact = .finite (label.value : Dyadic) := by
  cases label with
  | int n => exact ⟨.int n, rfl, rfl⟩
  | bool b => exact ⟨.bool b, rfl, by cases b <;> rfl⟩

/-- Labels are alike when they stand for the same number. Truth values are labels of the numbers
zero and one. -/
theorem alike_ofLabel (label other : Label) :
    (Value.ofLabel label).shape.alike (Value.ofLabel other).shape = (label == other) := by
  obtain ⟨n, shape, exactly⟩ := shape_ofLabel label
  obtain ⟨m, otherShape, otherExactly⟩ := shape_ofLabel other
  rw [shape, otherShape, Shape.alike, Number.same, exactly, otherExactly, Bool.eq_iff_iff,
    decide_eq_true_eq, finite_intCast_inj, Label.beq_iff]

/-- Labels are the same key when they stand for the same number, since numbers are hashed by their
exact value. -/
theorem ofLabel_faithful : Faithful Value.ofLabel := by
  intro label other
  obtain ⟨n, shape, exactly⟩ := shape_ofLabel label
  obtain ⟨m, otherShape, otherExactly⟩ := shape_ofLabel other
  have hashed : (label == other) = true →
      ((Value.ofLabel label).shape.hash? == (Value.ofLabel other).shape.hash?) = true := by
    intro equal
    rw [Label.beq_iff] at equal
    rw [shape, otherShape, Shape.hash?, Shape.hash?, Number.hash, Number.hash, exactly,
      otherExactly, equal, beq_self_eq_true]
  change (_ == _ && Shape.alike _ _) = _
  rw [alike_ofLabel]
  cases equal : label == other with
  | false => rw [Bool.and_false]
  | true => rw [hashed equal, Bool.and_self]

/-- Among named states, a value is found only if it is the text of one. -/
theorem contains_named {states : List String} {v : Value} :
    (states.map Value.text).contains v = true ↔ ∃ s ∈ states, v = .text s := by
  simp only [List.contains_eq_any_beq, List.any_map, List.any_eq_true, Function.comp_apply,
    Value.beq_text_iff]

/-- Going through the items of a list is acting on each of them. The items of a list are always
there, so only the action can fail. -/
theorem mapItems_list {β : Type} (action : Value → Except Failure β) (items : List Value) :
    (Value.list items).mapItems action = items.mapM action :=
  Value.mapItems_of_items action rfl

/-- An action that turns each form of an item into its result succeeds on all of them. -/
theorem mapM_map_ok {ε β γ δ : Type} {form : β → γ} {action : γ → Except ε δ} {result : β → δ}
    (each : ∀ item, action (form item) = .ok (result item)) (items : List β) :
    (items.map form).mapM action = .ok (items.map result) := by
  rw [List.mapM_map, show action ∘ form = fun item => pure (result item) from funext each,
    List.mapM_pure]
  rfl

/-- A transition given by name, with its parts as values. -/
def Transition.asValues (t : Transition String Label) : Transition Value Value :=
  t.map .text .ofLabel

namespace Diagram

/-- What is given for a transition is read as its three parts, as they are. -/
theorem givenTransition_ofTransition (t : Transition String Label) :
    givenTransition (.ofTransition t) = .ok t.asValues := by
  obtain ⟨source, value, target⟩ := t
  cases value <;> rfl

/-- What a message names is a text here, so every fault is reported. -/
theorem givenFailure_map_text (fault : Fault String) :
    (fault.map .text).givenFailure = .violation fault.violation := by
  cases fault <;> rfl

/-- On transitions given by name, the check of what is given is the check on texts and labels. All
that can go wrong with arbitrary values cannot go wrong with these: they can be keys, and their
texts are known. -/
theorem checkGiven_ofTransition (transitions : List (Transition String Label))
    (root terminal : String) :
    checkGiven (.list (transitions.map .ofTransition)) (.text root) (.text terminal) =
      ((check transitions root terminal).map (·.map (·.map .text))).mapError
        (.violation ·.violation) := by
  have renamed : check (transitions.map .asValues) (.text root) (.text terminal) =
      ((check transitions root terminal).map (·.map (·.map .text))).mapError (Fault.map .text) :=
    check_map text_faithful ofLabel_faithful transitions root terminal
  simp only [checkGiven, mapItems_list, mapM_map_ok givenTransition_ofTransition, bind,
    Except.bind, renamed]
  cases check transitions root terminal with
  | ok levels => rfl
  | error fault =>
    simp only [Except.map, Except.mapError, givenFailure_map_text]

/-- The check of a diagram as it is given, where the nodes are texts and the values are labels. -/
def checkNamed (transitions : List (Transition String Label)) (root terminal : String) :
    Except Failure (List (List Value)) :=
  checkGiven (.list (transitions.map .ofTransition)) (.text root) (.text terminal)

/-- What the check of a named diagram returns are the levels, with their nodes as values. The levels
are those of texts, and nothing is lost by taking these for values. -/
theorem checkNamed_eq_ok {transitions : List (Transition String Label)} {root terminal : String}
    {returned : List (List Value)} :
    checkNamed transitions root terminal = .ok returned ↔
      ∃ levels, check transitions root terminal = .ok levels ∧
        levels.map (·.map .text) = returned := by
  rw [checkNamed, checkGiven_ofTransition]
  cases check transitions root terminal <;> simp [Except.map, Except.mapError]

end Diagram

namespace Automaton

/-- On this side, too, a transition is read as its three parts. -/
theorem givenTransition_ofTransition (t : Transition String Label) :
    givenTransition (.ofTransition t) = .ok t.asValues := by
  obtain ⟨source, value, target⟩ := t
  cases value <;> rfl

/-- A repeated pair is reported in the words for a label: the state is a text here, and the value is
written as the label that it is. -/
theorem givenFailure_competing (state : String) (value : Label) :
    (Fault.nonDeterministic (.text state) (Value.ofLabel value)).givenFailure =
      (Fault.nonDeterministic state value).failure := by
  cases value <;> rfl

/-- The values of transitions given by name can all be keys. The scan for repeated pairs therefore
sees all of them. -/
theorem takeWhile_isHashable (transitions : List (Transition String Label)) :
    (transitions.map Transition.asValues).takeWhile (·.value.isHashable) =
      transitions.map Transition.asValues := by
  rw [List.takeWhile_eq_self_iff]
  intro t listed
  obtain ⟨⟨_, value, _⟩, _, rfl⟩ := List.mem_map.mp listed
  cases value <;> rfl

/-- Going through the final states stops at the first that is not among the states. Whether it can
be named does not matter for where it stops. -/
theorem mapM_requireKnown (states finals : List Value) :
    finals.mapM (requireKnown states) =
      match finals.find? (!states.contains ·) with
      | some final => .error (Fault.givenFailure (.unknownFinal final))
      | none => .ok (finals.map fun _ => ()) := by
  induction finals with
  | nil => rfl
  | cons final rest inductionHypothesis =>
    rw [List.mapM_cons, requireKnown, List.find?_cons, inductionHypothesis]
    cases states.contains final with
    | false => rfl
    | true => cases rest.find? fun state => !states.contains state <;> rfl

/-- The check of an automaton as it is given, where the states of the transitions are texts and the
values are labels. -/
def checkNamed (transitions : List (Transition String Label)) (start : Value)
    (finals : List Value) : Except Failure (List Value) :=
  checkGiven (.list (transitions.map .ofTransition)) start (.list finals)

/-- The check of transitions given by name, whatever the start and the final states are: the start
state is looked for among the named states first, then the final states are, and then two
transitions that compete. -/
theorem checkNamed_eq (transitions : List (Transition String Label)) (start : Value)
    (finals : List Value) :
    checkNamed transitions start finals =
      let states := (Transition.nodes transitions).map Value.text
      if states.contains start then
        match finals.find? (!states.contains ·) with
        | some final => .error (Fault.givenFailure (.unknownFinal final))
        | none => match firstCompeting [] transitions with
          | some t => .error (Fault.nonDeterministic t.source t.value).failure
          | none => .ok states
      else .error (Fault.givenFailure (.unknownStart start)) := by
  have nodes : Transition.nodes (transitions.map Transition.asValues) =
      (Transition.nodes transitions).map .text :=
    Transition.nodes_map text_faithful transitions
  have competing : firstCompeting [] (transitions.map Transition.asValues) =
      (firstCompeting [] transitions).map .asValues :=
    firstCompeting_map text_faithful ofLabel_faithful [] transitions
  simp only [checkNamed, checkGiven, Value.items, mapItems_list, bind, Except.bind,
    mapM_map_ok givenTransition_ofTransition, checkStates, nodes, List.find?_nil,
    takeWhile_isHashable, competing, mapM_requireKnown]
  cases ((Transition.nodes transitions).map Value.text).contains start with
  | false => rfl
  | true =>
    simp only [Bool.not_true, Bool.false_eq_true, if_false, if_true, Except.mapError]
    cases finals.find? fun final =>
        !((Transition.nodes transitions).map Value.text).contains final with
    | some final => rfl
    | none =>
      cases firstCompeting [] transitions with
      | none => rfl
      | some t => exact congrArg Except.error (givenFailure_competing t.source t.value)

end Automaton
end Csp
