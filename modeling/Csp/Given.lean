import Csp.Value.Text
import Csp.Value.Whole

/-!
# Transitions as they are given

A transition is given as any value with three items. The constructors bring
transitions into their normal form, in which both ends are texts and the value
is a label. The graph checks can also be run on transitions as they are given;
they then compare ends and values as values. Where the check on texts only
compares, the check of what is given can also fail: on what cannot be a key when
it is looked up or kept, and on what has no plain text when a message names it.

The search for the ends of a diagram goes by the plain texts of the nodes.
-/
namespace Csp.Value

/-- The three items of a value as a transition, with nothing changed. A progression is counted
before its items are asked for, so that it may be of any length. -/
def rawTransition : Value → Except Failure (Transition Value Value)
  | .progression r =>
    if r.length = 3 then .ok ⟨.int r.start, .int (r.start + r.step), .int (r.start + 2 * r.step)⟩
    else .error .wrongCount
  | v => do
    match ← v.items with
    | [source, value, target] => return ⟨source, value, target⟩
    | _ => throw .wrongCount

/-- A transition in its normal form. The word for the ends of a transition goes into the error;
the value is looked at before the ends. -/
def normalTransition (ends : String) (v : Value) : Except Failure (Transition String Label) := do
  if (← v.size) ≠ 3 then throw (.violation (.malformedTriple ends (← v.written)))
  let t ← v.rawTransition
  let value ← t.value.label
  return ⟨← t.source.plain, value, ← t.target.plain⟩

/-- The transitions that the items of a value describe, each in its normal form. -/
def normalTransitions (ends : String) (v : Value) :
    Except Failure (List (Transition String Label)) :=
  v.mapItems (normalTransition ends)

/-- A transition whose ends are replaced by their plain texts. Its value is left as it is, since the
search for the ends does not look at it. -/
def namedTransition (v : Value) : Except Failure (Transition String Value) := do
  let t ← v.rawTransition
  return ⟨← t.source.plain, t.value, ← t.target.plain⟩

end Csp.Value

namespace Csp.Automaton

/-- The violation that reports a fault. A state that is looked up has to be usable as a key, and
whatever the message names has to have a plain text. -/
def Fault.givenViolation : Fault Value Value → Except Failure Violation
  | .unknownStart state => do return .unknownStart (← (← state.asKey).plain)
  | .unknownFinal state => do return .unknownFinal (← (← state.asKey).plain)
  | .nonDeterministic state value => do return .nonDeterministic (← state.plain) (← value.plain)

/-- A transition whose ends can be keys. -/
def givenTransition (v : Value) : Except Failure (Transition Value Value) := do
  let t ← v.rawTransition
  return ⟨← t.source.asKey, t.value, ← t.target.asKey⟩

/-- The failure that reports a fault. -/
def Fault.givenFailure (fault : Fault Value Value) : Failure := .reporting fault.givenViolation

/-- Refuses a final state that is not among the states. -/
def requireKnown (states : List Value) (final : Value) : Except Failure Unit :=
  if states.contains final then .ok () else .error (Fault.givenFailure (.unknownFinal final))

/-- The states of an automaton as it is given, or the first failure. The start state is looked
up before the final states are gone through. -/
def checkGiven (transitions start finals : Value) : Except Failure (List Value) := do
  let transitions ← (← transitions.items).mapM givenTransition
  let states ← (checkStates transitions start []).mapError Fault.givenFailure
  let _ ← finals.mapItems (requireKnown states)
  let usable := transitions.takeWhile (·.value.isHashable)
  match firstCompeting [] usable with
  | some t => throw (Fault.givenFailure (.nonDeterministic t.source t.value))
  | none => if usable.length = transitions.length then return states else throw .notHashable

end Csp.Automaton

namespace Csp.Diagram

/-- The violation that reports a fault. A root or terminal that is looked up in vain has to be
usable as a key, and whatever the message names has to have a plain text. -/
def Fault.givenViolation : Fault Value → Except Failure Violation
  | .unknownRoot node => do return .unknownRoot (← (← node.asKey).plain)
  | .rootIsTarget node => do return .rootIsTarget (← node.plain)
  | .unknownTerminal node => do return .unknownTerminal (← (← node.asKey).plain)
  | .terminalIsSource node => do return .terminalIsSource (← node.plain)
  | .cyclic => return .cyclic
  | .inconsistentLevel node => do return .inconsistentLevel (← node.plain)

/-- The failure that reports a fault. -/
def Fault.givenFailure (fault : Fault Value) : Failure := .reporting fault.givenViolation

/-- A transition whose parts can be keys. -/
def givenTransition (v : Value) : Except Failure (Transition Value Value) := do
  let t ← v.rawTransition
  return ⟨← t.source.asKey, ← t.value.asKey, ← t.target.asKey⟩

/-- The levels of a diagram as it is given, or the first failure. -/
def checkGiven (transitions root terminal : Value) : Except Failure (List (List Value)) := do
  let transitions ← transitions.mapItems givenTransition
  (check transitions root terminal).mapError Fault.givenFailure

/-- The violation that reports an ambiguity. -/
def Ambiguity.violation : Ambiguity → Violation
  | .root candidates => .ambiguousRoot candidates
  | .terminal candidates => .ambiguousTerminal candidates

/-- The ends of a diagram as it is given, by the plain texts of its nodes. Nodes that are different
values with the same text are one node. -/
def givenEnds (transitions : Value) : Except Failure (String × String) := do
  let transitions ← transitions.mapItems Value.namedTransition
  (findEnds transitions).mapError (.violation ·.violation)

end Csp.Diagram
