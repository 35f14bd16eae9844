import Csp.Collector.Notice
import Csp.Make.Constraints
import Csp.Make.Instance
import Csp.Term

/-!
# Callbacks of a document reader

A document reader calls back once for every variable, constraint and objective
that it meets, with the arguments that it has at hand. A callback contributes
at most one entity, which depends on the arguments alone and not on what was
read before. Constraints and objectives read in this way have no identifier.

The reader spells a run of values as a progression, gives scopes as variables,
and does not say which nodes are the root and the terminal of a diagram.
-/
namespace Csp

/-- What a document reader reports. -/
inductive Callback where
  | interval (x low high : Value)
  | values (x domain : Value)
  | intension (scope tree : Value)
  | unaryTable (x listed positive : Value)
  | table (scope rows positive : Value)
  | regular (scope transitions start finals : Value)
  | mdd (scope transitions : Value)
  | expression (sense : Sense) (term : Value)
  | aggregate (sense : Sense) (tag terms coefficients : Value)
  /-- An objective by an expression, in the direction of another objective. -/
  | expressionLike (other term : Value)
  /-- An objective over terms, in the direction of another objective. -/
  | aggregateLike (other tag terms coefficients : Value)

/-- An entity of one of the three families that are collected. -/
inductive Addition where
  | single (x : Variable Value)
  | constraint (c : Constraint Value)
  | objective (x : Objective Value)

/-- What a callback contributes, and the notice that announces it, which may fail by itself. The
entity is taken in before the notice is made. -/
structure Contribution where
  addition : Addition
  notice : Except Failure Notice

/-- Puts a value behind the rows so far, or the terms of a progression in its place. The terms are
counted first, and the list has to have room for them. -/
def expandOnto (room : Nat) (rows : List Value) (v : Value) : Except Failure (List Value) := do
  let added ← match v with
    | .progression r => (Value.progression r).size
    | _ => pure 1
  if room < rows.length + added then throw .outOfMemory
  match v with
  | .progression r => return rows ++ r.toList.map .int
  | v => return rows ++ [v]

/-- The items of a value, in which every progression is replaced by its terms. The rows have to fit
into a list, and a progression that has too many terms to be counted is refused at once. -/
def expandValues (room : Nat) (values : Value) : Except Failure (List Value) :=
  values.foldItems (expandOnto room) []

/-- A table over given terms, which lists supports if it is positive and conflicts if not. The side
that is not meant stays empty. So the flag is not kept, and it has to be read off the sides. -/
def tableOf (terms : List Value) (rows : Value) (positive : Bool) :
    Except Failure (Table Value) :=
  if positive then Table.make .null (.list terms) rows (.tuple [])
  else Table.make .null (.list terms) (.tuple []) rows

/-- A term of an aggregate: variables are mentioned by name, everything else is a text. -/
def aggregateTerm : Value → Except Failure Value
  | .handle number id => (Value.handle number id).term
  | v => do return .text (← v.plain)

/-- The expression of an objective: the identifier of a variable, or the text of a tree. -/
def objectiveExpression : Value → Except Failure Value
  | .handle _ id => .ok id
  | v => do return .text (← v.plain)

/-- The direction of an objective. -/
def Value.sense : Value → Except Failure Sense
  | .entity (.objective x) => .ok x.sense
  | _ => .error .noAttribute

namespace Contribution

/-- A variable. -/
def ofVariable (x domain : Value) (notice : Value → Except Failure Notice) :
    Except Failure Contribution := do
  let id ← x.identifier
  return ⟨.single (← Variable.make id domain), notice id⟩

/-- A table over the variables of a scope. The notice counts the rows as they were given, after the
table has been made. -/
def ofTable (scope rows positive : Value) : Except Failure Contribution := do
  let table ← tableOf (← scope.terms) rows positive.isTrue
  return ⟨.constraint (.table table), Notice.table positive.isTrue scope rows⟩

/-- An objective by an expression. The direction is looked at last. -/
def ofExpression (sense : Except Failure Sense) (term : Value) : Except Failure Contribution := do
  let expression ← objectiveExpression term
  let sense ← sense
  let x ← Objective.ofExpression sense .null expression
  return ⟨.objective x, .ok (Notice.expression sense)⟩

/-- An objective over terms. Coefficients that do not count as true are the same as none. -/
def ofAggregate (sense : Except Failure Sense) (tag terms coefficients : Value) :
    Except Failure Contribution := do
  let kind ← tag.kindOfTag
  let terms ← terms.mapItems aggregateTerm
  let sense ← sense
  let coefficients := if coefficients.isTrue then coefficients else .tuple []
  let x ← Objective.ofTerms sense .null (.kind kind) (.list terms) coefficients
  return ⟨.objective x, .ok (Notice.aggregate kind sense)⟩

end Contribution

namespace Callback

/-- What a callback contributes, or why it contributes nothing, where lists have so much room. Only
the rows of a unary table can become many more than the arguments that describe them. -/
def contribution (room : Nat) : Callback → Except Failure Contribution
  | .interval x low high =>
    Contribution.ofVariable x (.list [.tuple [low, high]]) (Notice.interval · low high)
  | .values x domain => Contribution.ofVariable x domain (Notice.values · domain)
  | .intension scope tree => do
    let c ← Intension.make .null (.text (← tree.plain))
    return ⟨.constraint (.intension c), Notice.intension scope⟩
  | .unaryTable x listed positive => do
    let rows ← expandValues room listed
    Contribution.ofTable (.list [x]) (.list rows) positive
  | .table scope rows positive => Contribution.ofTable scope rows positive
  | .regular scope transitions start finals => do
    let terms ← scope.terms
    let c ← Regular.make .null (.list terms) transitions start finals
    return ⟨.constraint (.regular c), .ok (Notice.regular c.automaton)⟩
  | .mdd scope transitions => do
    let (root, terminal) ← Diagram.givenEnds transitions
    let terms ← scope.terms
    let c ← Mdd.make .null (.list terms) transitions (.text root) (.text terminal)
    return ⟨.constraint (.mdd c), .ok (Notice.mdd c.diagram)⟩
  | .expression sense term => Contribution.ofExpression (.ok sense) term
  | .aggregate sense tag terms coefficients =>
    Contribution.ofAggregate (.ok sense) tag terms coefficients
  | .expressionLike other term => Contribution.ofExpression other.sense term
  | .aggregateLike other tag terms coefficients =>
    Contribution.ofAggregate other.sense tag terms coefficients

end Callback
end Csp
