import Csp.Diagram.Basic
import Csp.Given

/-!
# Making constraints

Each family brings its parts into their normal form and then applies its rules
in a fixed order, so that of several defects always the same one is reported.
Identifiers are texts, scopes are tuples, and the states of an automaton and
the nodes of a diagram are texts.
-/
namespace Csp

/-- Refuses a value without items, with an error that the caller words. What cannot be counted is
refused by the counting. -/
def requireNonEmpty (value rule message : Value) : Except Failure Unit := do
  if (← value.size) = 0 then throw (.model ⟨.construction, rule, message⟩)

/-- Refuses a tuple without items, in the words of a violation. It is the same test, and a tuple can
always be counted. -/
def requireItems (items : List Value) (violation : Violation) : Except Failure Unit :=
  requireNonEmpty (.tuple items) (.text violation.rule) (.text violation.message)

/-- A constraint given by an expression, which must count as true. An expression is not parsed, so
anything else can stand in it. -/
def Intension.make (id expression : Value) : Except Failure (Intension Value) := do
  let id ← id.normalId
  if expression.isTrue then return ⟨id, expression⟩ else throw (.violation .emptyExpression)

/-- A table constraint. Rows are frozen; how many values they have is not checked. -/
def Table.make (id scope supports conflicts : Value) : Except Failure (Table Value) := do
  let id ← id.normalId
  let scope ← scope.items
  let supports ← supports.frozenItems
  return ⟨id, scope, supports, ← conflicts.frozenItems⟩

/-- The value that stands for any value in the row of a table. -/
def star : Value := .text "*"

/-- A row of several values with a star among them. -/
def hasStar : Value → Bool
  | .tuple items => items.any (·.same star)
  | _ => false

/-- Whether some row has a star. -/
def Table.isShort (c : Table Value) : Bool := c.supports.any hasStar || c.conflicts.any hasStar

/-- The violation that reports a fault of an automaton, in the words of which the value of a
transition may be too long to be written. -/
def Automaton.Fault.violation : Fault String Label → Except Failure Violation
  | .unknownStart state => .ok (.unknownStart state)
  | .unknownFinal state => .ok (.unknownFinal state)
  | .nonDeterministic state value => do return .nonDeterministic state (← value.written)

/-- The failure that reports a fault of an automaton. -/
def Automaton.Fault.failure (fault : Fault String Label) : Failure := .reporting fault.violation

/-- The final states: any items but the characters of a text. A text is refused, because it would be
taken apart into characters. -/
def finalStates : Value → Except Failure (List String)
  | .text s => .error (.violation (.malformedFinals (Text.quoted s)))
  | v => v.mapItems Value.plain

/-- An automaton constraint. The final states are looked at before the transitions are. -/
def Regular.make (id scope transitions start finals : Value) : Except Failure (Regular Value) := do
  let id ← id.normalId
  let scope ← scope.items
  let transitions ← transitions.items
  let start ← start.plain
  requireItems scope .emptyVariables
  requireItems transitions .emptyTransitions
  let finals ← finalStates finals
  requireItems (finals.map .text) .emptyFinals
  let transitions ← transitions.mapM (Value.normalTransition "state")
  let automaton ← (Automaton.ofTransitions transitions start finals).mapError (·.failure)
  return ⟨id, scope, automaton⟩

/-- The violation that reports a fault of a diagram. -/
def Diagram.Fault.violation : Fault String → Violation
  | .unknownRoot node => .unknownRoot node
  | .rootIsTarget node => .rootIsTarget node
  | .unknownTerminal node => .unknownTerminal node
  | .terminalIsSource node => .terminalIsSource node
  | .cyclic => .cyclic
  | .inconsistentLevel node => .inconsistentLevel node

/-- A diagram constraint. The rows are brought into their normal form before the check sees them. -/
def Mdd.make (id scope transitions root terminal : Value) : Except Failure (Mdd Value) := do
  let id ← id.normalId
  let scope ← scope.items
  let transitions ← transitions.items
  let root ← root.plain
  let terminal ← terminal.plain
  requireItems scope .emptyVariables
  requireItems transitions .emptyTransitions
  let transitions ← transitions.mapM (Value.normalTransition "node")
  let diagram ← (Diagram.ofTransitions transitions root terminal).mapError (.violation ·.violation)
  return ⟨id, scope, diagram⟩

end Csp
