import Csp.Make.Constraints
import Csp.Make.Instance

/-!
# Requests

An entity can be requested by its class, a factory of the class, and arguments
by position and by name. First the class has to have the factory. Then arguments
are matched with the parameters, before anything else happens: too many, an
unknown or repeated name, and a parameter that is left without a value are all
refused alike.
-/
namespace Csp

/-- A parameter, with the value that it has when no argument is given. -/
structure Parameter where
  name : String
  default : Option Value

/-- The parameters of a factory, and whether they can be given by position. -/
structure Signature where
  parameters : List Parameter
  positional : Bool

/-- The way in which a class makes an entity. All factories of a class end with the maker of the
class. -/
inductive Factory where
  | constructor
  | element
  | expression
  | terms
  | withVariables
deriving DecidableEq

/-- The name of a factory other than the constructor. -/
def Factory.name? : Factory → Option String
  | .constructor => none
  | .element => some "from_element"
  | .expression => some "of_expression"
  | .terms => some "of_terms"
  | .withVariables => some "with_variables"

/-- The factory of a given name. -/
def Factory.ofName? (name : String) : Option Factory :=
  [element, expression, terms, withVariables].find? (·.name? == some name)

namespace Parameter

/-- A parameter that needs an argument. -/
def required (name : String) : Parameter := ⟨name, none⟩

/-- A parameter that can be left out. -/
def optional (name : String) (default : Value) : Parameter := ⟨name, some default⟩

end Parameter

namespace Signature

/-- The value of a parameter: its argument by name, or its default. -/
def fill (named : List (String × Value)) (p : Parameter) : Except Failure Value :=
  match named.lookup p.name, p.default with
  | some value, _ => .ok value
  | none, some value => .ok value
  | none, none => .error .badArguments

/-- The values of all parameters in their order. Arguments by position come first, and a parameter
that gets two arguments is refused. -/
def bind (s : Signature) (args : List Value) (named : List (String × Value)) :
    Except Failure (List Value) := do
  let places := if s.positional then s.parameters.length else 0
  let byName := s.parameters.drop args.length
  if places < args.length then throw .badArguments
  if !named.all (fun argument => byName.any (·.name == argument.1)) then throw .badArguments
  return args ++ (← byName.mapM (fill named))

/-- Parameters that can be given by position or by name. -/
def byPosition (parameters : List Parameter) : Signature := ⟨parameters, true⟩

/-- Parameters that can be given by name only. -/
def byName (parameters : List Parameter) : Signature := ⟨parameters, false⟩

end Signature

namespace EntityClass

open Parameter

/-- No items. -/
def noItems : Value := .tuple []

/-- The parameters of the constructor of a class: its declared fields, in order. -/
def fields : EntityClass → List Parameter
  | .single => [required "id", optional "domain" noItems]
  | .grid =>
    [required "id", required "size", optional "domains" (.dict []), optional "default_domain" .null]
  | .cell => [required "array_id", required "indices"]
  | .minimize | .maximize =>
    [optional "id" (.text ""), optional "type" (.kind .expression), optional "variables" noItems,
     optional "coefficients" noItems, optional "expression" (.text "")]
  | .intension => [required "id", required "expression"]
  | .table =>
    [optional "id" (.text ""), optional "list" noItems, optional "supports" noItems,
     optional "conflicts" noItems]
  | .regular =>
    [required "id", required "variables", required "transitions", required "start",
     required "final"]
  | .mdd =>
    [required "id", required "variables", required "transitions", required "root",
     required "terminal"]
  | .whole =>
    [optional "format" (.text "XCSP3"), optional "type" (.text ""), optional "variables" noItems,
     optional "constraints" noItems, optional "objectives" .null, optional "annotations" .null]

/-- The parameters of a document element. A missing identifier is the rule there. -/
def elementFields : EntityClass → Option (List Parameter)
  | .minimize => some (fields .minimize)
  | .maximize => some (fields .maximize)
  | .table => some (fields .table)
  | .intension => some [optional "id" .null, required "_function"]
  | .regular => some (optional "id" .null :: (fields .regular).tail)
  | .mdd => some (optional "id" .null :: (fields .mdd).tail)
  | _ => none

/-- The parameters of a factory, if the class has it. -/
def signature? (c : EntityClass) : Factory → Option Signature
  | .constructor => some (.byPosition c.fields)
  | .element => c.elementFields.map .byName
  | .expression =>
    if c = .minimize ∨ c = .maximize
    then some (.byPosition [required "id", required "expression"]) else none
  | .terms =>
    if c = .minimize ∨ c = .maximize
    then some (.byPosition [required "id", required "type", required "variables",
      optional "coefficients" noItems]) else none
  | .withVariables =>
    if c = .whole
    then some (.byPosition [required "format", required "type", required "variables"]) else none

/-- The direction of the objectives of a class; only two classes are classes of objectives. -/
def sense : EntityClass → Sense
  | .maximize => .maximize
  | _ => .minimize

/-- Makes an entity of the values of its parameters. -/
def assemble (c : EntityClass) (f : Factory) (values : List Value) :
    Except Failure (Entity Value) :=
  match c, f, values with
  | .single, .constructor, [id, domain] => .single <$> Variable.make id domain
  | .grid, .constructor, [id, size, domains, fallback] =>
    .grid <$> Grid.make id size domains fallback
  | .cell, .constructor, [array, indices] => .cell <$> Cell.make array indices
  | .intension, .constructor, [id, expression] | .intension, .element, [id, expression] =>
    (.constraint <| .intension ·) <$> Intension.make id expression
  | .table, .constructor, [id, scope, supports, conflicts]
  | .table, .element, [id, scope, supports, conflicts] =>
    (.constraint <| .table ·) <$> Table.make id scope supports conflicts
  | .regular, .constructor, [id, scope, transitions, start, finals]
  | .regular, .element, [id, scope, transitions, start, finals] =>
    (.constraint <| .regular ·) <$> Regular.make id scope transitions start finals
  | .mdd, .constructor, [id, scope, transitions, root, terminal]
  | .mdd, .element, [id, scope, transitions, root, terminal] =>
    (.constraint <| .mdd ·) <$> Mdd.make id scope transitions root terminal
  | .whole, .constructor, [format, framework, vars, constraints, objectives, annotations] =>
    .whole <$> Instance.make format framework vars constraints objectives annotations
  | .whole, .withVariables, [format, framework, vars] =>
    .whole <$> Instance.withVariables format framework vars
  | c, .constructor, [id, kind, terms, coefficients, expression] =>
    .objective <$> Objective.make c.sense id kind terms coefficients expression
  | c, .element, [id, kind, terms, coefficients, expression] =>
    .objective <$> Objective.ofElement c.sense id kind terms coefficients expression
  | c, .expression, [id, expression] =>
    .objective <$> Objective.ofExpression c.sense id expression
  | c, .terms, [id, kind, terms, coefficients] =>
    .objective <$> Objective.ofTerms c.sense id kind terms coefficients
  | _, _, _ => .error .badArguments

/-- The parameters of a factory, which the class has to have. -/
def signature (c : EntityClass) (f : Factory) : Except Failure Signature :=
  match c.signature? f with
  | some s => .ok s
  | none => .error .noAttribute

/-- Makes an entity as requested. -/
def request (c : EntityClass) (f : Factory) (args : List Value) (named : List (String × Value)) :
    Except Failure (Entity Value) := do
  c.assemble f (← (← c.signature f).bind args named)

end EntityClass
end Csp
