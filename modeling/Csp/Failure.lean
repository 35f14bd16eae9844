import Csp.Text.Numeral
import Csp.Value.Basic

/-!
# Failures

A constructor or a check that cannot accept its arguments says why. The rules
of the model have errors of their own, with a family, the name of the rule and
a message; a caller can tell them apart without reading the message. All other
failures concern the type or the form of an argument and have no message,
except where something is not supported or may not be changed.
-/
namespace Csp

/-- The families of the model's own errors. -/
inductive ErrorFamily where
  | model
  /-- A required part is missing or empty, or has the wrong form. -/
  | construction
  /-- An automaton or a decision diagram is inconsistent. -/
  | validation
deriving DecidableEq

/-- An error of the model. Rule and message are texts wherever the model itself raises the
error; a caller may use other values. -/
structure ModelError where
  family : ErrorFamily
  rule : Value
  message : Value

/-- Why something was refused. Some are errors of the model, with a rule and a message, and the
others come from the types and the sizes of what was given. -/
inductive Failure where
  | model (error : ModelError)
  /-- Items were asked of a value that has none. -/
  | notIterable
  /-- A size was asked of a value that has none. -/
  | noSize
  /-- A value that holds a list or a mapping was used as a key. -/
  | notHashable
  /-- A text was needed. -/
  | notText
  /-- A number was needed, or a text that denotes one. -/
  | notNumeric
  /-- Two values were compared between which there is no order. -/
  | notComparable
  /-- The arguments do not match the parameters. -/
  | badArguments
  /-- Something was called that is not a method. -/
  | notCallable
  /-- Something was assigned inside a value that has no places to assign to. -/
  | notAssignable
  /-- Where a number was needed, a text that is no numeral or one with too many digits, or a double
  that is no number; where a text was needed, an integer with too many digits. -/
  | badNumeral
  /-- A value has more or fewer items than were asked of it. -/
  | wrongCount
  /-- An infinite double where a whole number was needed, or more items than can be counted. -/
  | tooLarge
  /-- A list was to be made for which there is no room. -/
  | outOfMemory
  /-- A list has no item at the index that was asked of it. -/
  | outOfRange
  /-- A value does not have the attribute that was asked of it. -/
  | noAttribute
  /-- A line could not be printed. -/
  | notPrinted
  | unsupported (message : String)
  | readOnly (message : String)

/-- The rules of the model and what they report. Each carries what its message shows. -/
inductive Violation where
  | unknownObjectiveKind (given : String)
  | emptyExpression
  | emptyVariables
  | emptyTransitions
  | malformedFinals (given : String)
  | emptyFinals
  | malformedTriple (ends given : String)
  | malformedValue (given : String)
  | unknownStart (state : String)
  | unknownFinal (state : String)
  | nonDeterministic (state value : String)
  | unknownRoot (node : String)
  | rootIsTarget (node : String)
  | unknownTerminal (node : String)
  | terminalIsSource (node : String)
  | cyclic
  | inconsistentLevel (node : String)
  | ambiguousRoot (candidates : Nat)
  | ambiguousTerminal (candidates : Nat)
deriving DecidableEq

namespace Violation

/-- The name of the violated rule. -/
def rule : Violation → String
  | .unknownObjectiveKind _ => "unknown_objective_type"
  | .emptyExpression => "empty_expression"
  | .emptyVariables => "empty_variables"
  | .emptyTransitions => "empty_transitions"
  | .malformedFinals _ => "malformed_final"
  | .emptyFinals => "empty_final"
  | .malformedTriple .. | .malformedValue _ => "malformed_transition"
  | .unknownStart _ => "unknown_start"
  | .unknownFinal _ => "unknown_final"
  | .nonDeterministic .. => "non_deterministic"
  | .unknownRoot _ => "unknown_root"
  | .rootIsTarget _ => "root_is_destination"
  | .unknownTerminal _ => "unknown_terminal"
  | .terminalIsSource _ => "terminal_is_source"
  | .cyclic => "cyclic"
  | .inconsistentLevel _ => "inconsistent_level"
  | .ambiguousRoot _ => "ambiguous_root"
  | .ambiguousTerminal _ => "ambiguous_terminal"

/-- The rules on the form of arguments are of construction, those on graphs of validation. So the
two sorts of errors can be told apart without reading a message. -/
def family : Violation → ErrorFamily
  | .unknownObjectiveKind _ | .emptyExpression | .emptyVariables | .emptyTransitions
  | .malformedFinals _ | .emptyFinals | .malformedTriple .. | .malformedValue _ => .construction
  | .unknownStart _ | .unknownFinal _ | .nonDeterministic .. | .unknownRoot _ | .rootIsTarget _
  | .unknownTerminal _ | .terminalIsSource _ | .cyclic | .inconsistentLevel _
  | .ambiguousRoot _ | .ambiguousTerminal _ => .validation

/-- The message for a reader. -/
def message : Violation → String
  | .unknownObjectiveKind given => "Unknown objective type " ++ given
  | .emptyExpression => "Function expression cannot be empty"
  | .emptyVariables => "Variables list cannot be empty"
  | .emptyTransitions => "Transitions list cannot be empty"
  | .malformedFinals given => "Final states must be a collection of states, got " ++ given
  | .emptyFinals => "Final states list cannot be empty"
  | .malformedTriple ends given =>
    "Each transition must be a triple (source_" ++ ends ++ ", value, destination_" ++ ends ++
      "), got " ++ given
  | .malformedValue given => "Transition value must be an integer, got " ++ given
  | .unknownStart state => "Start state '" ++ state ++ "' not found in transitions"
  | .unknownFinal state => "Final state '" ++ state ++ "' not found in transitions"
  | .nonDeterministic state value =>
    "Non-deterministic transition found: state='" ++ state ++ "', value=" ++ value
  | .unknownRoot node => "Root node '" ++ node ++ "' not found as a source in transitions"
  | .rootIsTarget node => "Root node '" ++ node ++ "' cannot be a destination node"
  | .unknownTerminal node =>
    "Terminal node '" ++ node ++ "' not found as a destination in transitions"
  | .terminalIsSource node => "Terminal node '" ++ node ++ "' cannot be a source node"
  | .cyclic => "Decision diagram contains a cycle"
  | .inconsistentLevel node =>
    "Node '" ++ node ++ "' has inconsistent values with other nodes at same level"
  | .ambiguousRoot candidates =>
    "MDD must have exactly one root (found " ++ toString candidates ++ ")"
  | .ambiguousTerminal candidates =>
    "MDD must have exactly one terminal (found " ++ toString candidates ++ ")"

/-- The error of a violated rule. -/
def error (v : Violation) : ModelError := ⟨v.family, .text v.rule, .text v.message⟩

end Violation

namespace Failure

/-- Refuses because a rule is violated. -/
def violation (v : Violation) : Failure := .model v.error

/-- Refuses because a rule is violated, if the report on that can be worded. Otherwise what
prevented the report comes in its place. -/
def reporting : Except Failure Violation → Failure
  | .ok v => violation v
  | .error failure => failure

end Failure

/-- The numeral of an integer. All texts in which an integer occurs are made with it: plain and
written texts, messages and notices. -/
def numeral (n : Int) : Except Failure String :=
  if Text.hasNumeral n then .ok (toString n) else .error .badNumeral

end Csp
