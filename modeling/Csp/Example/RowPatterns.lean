import Csp.Make.Constraints
import Csp.Make.Instance

/-!
# Row patterns

Two constraints on a row of cells that are zero or one. The automaton accepts
the rows of the nonogram clue "2 1": two ones in a row, a gap, and a single
one. The diagram asks for an even number of ones among the first three cells;
its node `f` is a dead end that stands for the rejected parity.
-/
namespace Csp.RowPatterns

/-- The names of the five cells. -/
def cells : List String := ["x0", "x1", "x2", "x3", "x4"]

/-- A list of texts as a value. -/
def texts (items : List String) : Value := .list (items.map .text)

/-- Transitions as a value. -/
def triples (transitions : List (String × Int × String)) : Value :=
  .list (transitions.map fun (source, value, target) =>
    .tuple [.text source, .int value, .text target])

/-- The transitions of the automaton for the clue. -/
def clueTransitions : List (String × Int × String) :=
  [("a", 0, "a"), ("a", 1, "b"), ("b", 1, "c"), ("c", 0, "d"), ("d", 0, "d"), ("d", 1, "e"),
   ("e", 0, "e")]

/-- The transitions of the diagram for the parity. A name has the parity so far and the number
of cells read. -/
def parityTransitions : List (String × Int × String) :=
  [("r", 0, "e1"), ("r", 1, "o1"), ("e1", 0, "e2"), ("e1", 1, "o2"), ("o1", 0, "o2"),
   ("o1", 1, "e2"), ("e2", 0, "t"), ("e2", 1, "f"), ("o2", 0, "f"), ("o2", 1, "t")]

/-- The row matches the clue. -/
def clueConstraint : Except Failure (Regular Value) :=
  Regular.make (.text "clue") (texts cells) (triples clueTransitions) (.text "a") (texts ["e"])

/-- A constraint on the first three cells by a diagram with the root `r` and the terminal `t`. -/
def rowDiagram (id : Value) (transitions : List (String × Int × String)) :
    Except Failure (Mdd Value) :=
  Mdd.make id (texts (cells.take 3)) (triples transitions) (.text "r") (.text "t")

/-- The first three cells have even parity. -/
def parityConstraint : Except Failure (Mdd Value) := rowDiagram (.text "parity") parityTransitions

/-- An instance of both constraints. -/
def rows : Except Failure (Instance Value) := do
  let vars ← cells.mapM fun cell =>
    Variable.make (.text cell) (.list [.tuple [.int 0, .int 1]])
  let clue ← clueConstraint
  let parity ← parityConstraint
  Instance.make (.text "XCSP3") (.text "CSP") (.list (vars.map (.entity <| .single ·)))
    (.list [.entity (.constraint (.regular clue)), .entity (.constraint (.mdd parity))]) .null .null

/-- The states and the values of the automaton, sorted. -/
def describeClue (c : Regular Value) : Except Failure String := do
  let states ← (texts (c.automaton.states.mergeSort)).written
  let alphabet := c.automaton.alphabet.mergeSort (fun a b => a.value ≤ b.value)
  return "clue states: " ++ states ++ ", alphabet: " ++
    (← (Value.list (alphabet.map .ofLabel)).written)

/-- What becomes of the diagram when one transition is dropped: the node `e2` then has fewer
values than `o2` on the same level. -/
def describeRejection : Except Failure String :=
  match rowDiagram .null (parityTransitions.filter (· ≠ ("e2", 1, "f"))) with
  | .ok _ => .ok ""
  | .error (.model error) => do
    return "rejected (" ++ (← error.rule.plain) ++ "): " ++ (← error.message.plain)
  | .error failure => .error failure

/-- The report on the instance, line by line. -/
def report : Except Failure (List String) := do
  let whole ← rows
  let clue ← clueConstraint
  let sizes := toString whole.vars.length ++ " variables, " ++
    toString whole.constraints.length ++ " constraints"
  return [sizes, ← describeClue clue, ← describeRejection]

end Csp.RowPatterns
