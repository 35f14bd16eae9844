import Csp.Automaton.Basic
import Csp.Diagram.Basic
import Csp.Entity.Kind

/-!
# The entities of an instance

Variables, objectives, constraints and the instance that collects them. An
entity is made once and never changed: the constructors normalise what they are
given, and these types hold the normal forms. Where the model does not look
inside a part, the part is an arbitrary value of the type `V`; whether scopes
mention declared variables, for one, is left to whoever makes the entities.
-/
namespace Csp

/-- An integer variable with its domain, whose items are numbers or closed intervals. -/
structure Variable (V : Type) where
  id : V
  domain : List V

/-- An array of variables. The domains map index patterns to domains, and the fallback is
the domain of the cells that no pattern mentions. -/
structure Grid (V : Type) where
  id : V
  size : List Int
  domains : List (V × V)
  fallback : Option (List V)

/-- One cell of an array of variables. -/
structure Cell (V : Type) where
  array : V
  indices : List Int

/-- The direction of an objective. -/
inductive Sense where
  | minimize
  | maximize
deriving DecidableEq

/-- An objective. The expression and the terms exclude each other in the objectives that the
factories make, but the constructor admits both. -/
structure Objective (V : Type) where
  sense : Sense
  id : String
  kind : ObjectiveKind
  terms : List V
  coefficients : List Int
  expression : V

/-- A constraint given by a Boolean expression, which is kept verbatim. -/
structure Intension (V : Type) where
  id : String
  expression : V

/-- A table constraint. A positive table lists the supports and a negative one the conflicts;
a row of a unary table is a single value. -/
structure Table (V : Type) where
  id : String
  scope : List V
  supports : List V
  conflicts : List V

/-- The values of the scope spell a word that the automaton accepts. The automaton has passed its
check, so a constraint with a faulty one cannot be made. -/
structure Regular (V : Type) where
  id : String
  scope : List V
  automaton : Automaton

/-- The values of the scope label a path of the diagram from its root to its terminal. The diagram
has passed its check and carries its levels. -/
structure Mdd (V : Type) where
  id : String
  scope : List V
  diagram : Diagram

/-- A constraint of one of the four families. -/
inductive Constraint (V : Type) where
  | intension (c : Intension V)
  | table (c : Table V)
  | regular (c : Regular V)
  | mdd (c : Mdd V)

/-- A whole instance. No objectives at all is a satisfaction problem. The annotations may hold
anything. -/
structure Instance (V : Type) where
  format : V
  framework : V
  vars : List V
  constraints : List V
  objectives : Option (List V)
  annotations : Option (List (V × V))

/-- An entity of any class. -/
inductive Entity (V : Type) where
  | single (x : Variable V)
  | grid (x : Grid V)
  | cell (x : Cell V)
  | objective (x : Objective V)
  | constraint (x : Constraint V)
  | whole (x : Instance V)

variable {V : Type}

/-- The number of dimensions of an array. -/
def Grid.dimensions (x : Grid V) : Nat := x.size.length

/-- A table is negative when it lists conflicts and no supports. A table without any rows is
positive, though its maker may have meant conflicts. -/
def Table.positive (c : Table V) : Bool := !c.supports.isEmpty || c.conflicts.isEmpty

/-- The rows of a table, whichever way they are meant. They are in the order in which they were
given, with repetitions. -/
def Table.rows (c : Table V) : List V := if c.positive then c.supports else c.conflicts

/-- A table over one variable. -/
def Table.isUnary (c : Table V) : Bool := c.scope.length == 1

/-- An instance with an objective is an optimisation problem. An empty list of objectives does not
count. -/
def Instance.isOptimization (x : Instance V) : Bool :=
  match x.objectives with
  | none => false
  | some objectives => !objectives.isEmpty

end Csp
