import Csp.Entity.Basic
import Csp.Value.Text

/-!
# Notices

Every contribution to a collector is announced by one line of text. A notice
has a level: the summary level for objectives and the built instance, the
detail level for variables and constraints. Its text is made whether or not it
is printed, so it can fail on an argument that has no size or no plain text.
-/
namespace Csp

/-- A message with the least verbosity at which it is printed. It is made even if it will not be
printed, so it can fail at every verbosity. -/
structure Notice where
  level : Value
  message : Value

/-- The word for a direction. -/
def Sense.noun : Sense → String
  | .minimize => "minimization"
  | .maximize => "maximization"

namespace Notice

/-- A notice of the summary level. -/
def summary (text : String) : Notice := ⟨.int 1, .text text⟩

/-- A notice of the detail level. -/
def detail (text : String) : Notice := ⟨.int 2, .text text⟩

/-- A variable with an interval as its domain. Both bounds are written into it, which fails if one
of them has too many digits. -/
def interval (id low high : Value) : Except Failure Notice := do
  let id ← id.plain
  let low ← low.plain
  return detail ("Collected var " ++ id ++ " in [" ++ low ++ ", " ++ (← high.plain) ++ "]")

/-- A variable with listed values as its domain. -/
def values (id domain : Value) : Except Failure Notice := do
  let id ← id.plain
  return detail ("Collected var " ++ id ++ " with " ++ toString (← domain.size) ++ " values")

/-- A constraint by an expression over the variables of a scope. -/
def intension (scope : Value) : Except Failure Notice := do
  return detail ("Collected intension constraint on " ++ toString (← scope.size) ++ " vars")

/-- A table over the variables of a scope. -/
def table (positive : Bool) (scope rows : Value) : Except Failure Notice := do
  let width ← scope.size
  return detail ("Collected " ++ (if positive then "positive" else "negative") ++
    " extension on " ++ toString width ++ " vars with " ++ toString (← rows.size) ++ " tuples")

/-- A constraint by an automaton. -/
def regular (a : Automaton) : Notice :=
  detail ("Collected regular constraint with " ++ toString a.transitions.length ++ " transitions")

/-- A constraint by a diagram. -/
def mdd (d : Diagram) : Notice :=
  detail ("Collected mdd constraint with " ++ toString d.levels.length ++ " levels")

/-- An objective given by an expression. -/
def expression (sense : Sense) : Notice := summary ("Collected " ++ sense.noun ++ " objective")

/-- An objective over terms. -/
def aggregate (kind : ObjectiveKind) (sense : Sense) : Notice :=
  summary ("Collected " ++ kind.spelling ++ " " ++ sense.noun ++ " objective")

/-- An instance that has been built for a framework. -/
def built (framework : Value) (x : Instance Value) : Except Failure Notice := do
  return summary ("Built " ++ (← framework.plain) ++ " instance with " ++
    toString x.vars.length ++ " variables, " ++ toString x.constraints.length ++ " constraints")

end Notice
end Csp
