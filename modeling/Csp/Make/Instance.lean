import Csp.Value.Text
import Csp.Value.Whole

/-!
# Making variables, objectives and instances

Declaration order is kept and nothing is checked beyond what it takes to build
the parts: identifiers of variables may be any value, domains may be empty or
repeat themselves, and an array may be addressed outside its size.

The factories make objectives in which the expression and the terms exclude
each other: one of a single expression has neither terms nor coefficients, and
one of terms has the empty expression. No coefficients at all mean that every
coefficient is one.

An instance takes over what it is given: no entity is looked into, and nothing
is checked across entities.
-/
namespace Csp

/-- A variable with a domain that no longer shares a list with its maker. The items of the domain
are frozen one level deep. -/
def Variable.make (id domain : Value) : Except Failure (Variable Value) := do
  return ⟨id, ← domain.frozenItems⟩

/-- The domain under an index pattern. -/
def Grid.makeDomain (entry : Value × Value) : Except Failure (Value × Value) := do
  return (entry.1, .tuple (← entry.2.frozenItems))

/-- An array of variables: first its size, then the domains of its patterns, then the fallback,
which may be missing. -/
def Grid.make (id size domains fallback : Value) : Except Failure (Grid Value) := do
  let size ← size.wholes
  let domains ← (← domains.entries).mapM makeDomain
  let fallback ← match fallback with
    | .null => pure none
    | domain => some <$> domain.frozenItems
  return ⟨id, size, domains, fallback⟩

/-- A cell of an array. -/
def Cell.make (array indices : Value) : Except Failure (Cell Value) := do
  return ⟨array, ← indices.wholes⟩

/-! ## Objectives -/

/-- The kind that a value names, by itself or by its attribute value. -/
def Value.objectiveKind : Value → Except Failure ObjectiveKind
  | .kind k => .ok k
  | .text s => match ObjectiveKind.ofSpelling? s with
    | some k => .ok k
    | none => .error (.violation (.unknownObjectiveKind (Text.quoted s)))
  | v => do throw (.violation (.unknownObjectiveKind (← v.written)))

/-- The failure for a value that is named but stands for no kind. -/
def Value.unsupportedKind (v : Value) : Except Failure ObjectiveKind := do
  throw (.unsupported ("Objective type " ++ (← v.plain) ++ " not supported"))

/-- The kind for which a reader's tag stands. A variable of the reader stands for none, even if
its identifier is the name of a kind, and values of other types do not even have a name. -/
def Value.kindOfTag : Value → Except Failure ObjectiveKind
  | .kind k | .tag (.kind k) => .ok k
  | .tag .product => (Value.tag .product).unsupportedKind
  | .handle number id => (Value.handle number id).unsupportedKind
  | _ => .error .noAttribute

/-- The reader's tag for a kind. -/
def Value.tagOfKind : Value → Except Failure ReaderTag
  | .kind k => .ok (.kind k)
  | _ => .error .noAttribute

namespace Objective

/-- An objective as its parts describe it, even if expression and terms are both there. Kinds and
whole numbers are read on the way, and each of them can be refused. -/
def make (sense : Sense) (id kind terms coefficients expression : Value) :
    Except Failure (Objective Value) := do
  let id ← id.normalId
  let kind ← kind.objectiveKind
  let terms ← terms.items
  return ⟨sense, id, kind, terms, ← coefficients.wholes, expression⟩

/-- An objective given by an expression. -/
def ofExpression (sense : Sense) (id expression : Value) : Except Failure (Objective Value) :=
  make sense id (.kind .expression) (.tuple []) (.tuple []) expression

/-- An objective over terms. The terms and coefficients are listed before anything else is
looked at. -/
def ofTerms (sense : Sense) (id kind terms coefficients : Value) :
    Except Failure (Objective Value) := do
  let terms ← terms.items
  let coefficients ← coefficients.items
  make sense id kind (.tuple terms) (.tuple coefficients) (.text "")

/-- An objective from the parts of a document element. The expression counts only with the
kind of expressions and when it is not empty; otherwise the terms do. -/
def ofElement (sense : Sense) (id kind terms coefficients expression : Value) :
    Except Failure (Objective Value) := do
  let kind ← kind.objectiveKind
  if kind = .expression ∧ expression.isTrue then ofExpression sense id expression
  else ofTerms sense id (.kind kind) terms coefficients

/-- Whether an objective is given by an expression. -/
def isExpression (x : Objective Value) : Bool := x.kind == .expression && x.expression.isTrue

end Objective

/-! ## Instances -/

/-- The value unless it is missing. -/
def Value.present? : Value → Option Value
  | .null => none
  | v => some v

/-- An instance of the given parts. Missing objectives and annotations stay missing. The three lists
are turned into tuples, and the annotations into a mapping that is frozen. -/
def Instance.make (format framework vars constraints objectives annotations : Value) :
    Except Failure (Instance Value) := do
  let vars ← vars.items
  let constraints ← constraints.items
  let objectives ← objectives.present?.mapM Value.items
  return ⟨format, framework, vars, constraints, objectives,
    ← annotations.present?.mapM Value.entries⟩

/-- An instance that declares variables and nothing else. -/
def Instance.withVariables (format framework vars : Value) :
    Except Failure (Instance Value) := do
  make format framework (.tuple (← vars.items)) (.tuple []) .null .null

end Csp
