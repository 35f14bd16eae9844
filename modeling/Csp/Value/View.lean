import Csp.Value.Shape

/-!
# The shape of a value

Every entity is a record of its declared fields, in the order in which its
constructor takes them. What an entity derives from its fields, such as the
levels of a diagram, is not part of the record; so equality, hashing and the
written form are those of the declared fields alone.
-/
namespace Csp

/-- The class of an entity, which names its record. -/
inductive EntityClass where
  | single
  | grid
  | cell
  | minimize
  | maximize
  | intension
  | table
  | regular
  | mdd
  | whole
deriving DecidableEq

namespace EntityClass

/-- All classes. -/
def all : List EntityClass :=
  [.single, .grid, .cell, .minimize, .maximize, .intension, .table, .regular, .mdd, .whole]

/-- The name of a class. -/
def name : EntityClass → String
  | .single => "IntegerVariable"
  | .grid => "VariableArray"
  | .cell => "VariableRef"
  | .minimize => "MinimizeObjective"
  | .maximize => "MaximizeObjective"
  | .intension => "IntensionConstraint"
  | .table => "ExtensionConstraint"
  | .regular => "RegularConstraint"
  | .mdd => "MDDConstraint"
  | .whole => "Instance"

/-- The class of the objectives of one direction. -/
def ofSense : Sense → EntityClass
  | .minimize => .minimize
  | .maximize => .maximize

end EntityClass

/-- The class of a constraint. -/
def Constraint.entityClass {V : Type} : Constraint V → EntityClass
  | .intension _ => .intension
  | .table _ => .table
  | .regular _ => .regular
  | .mdd _ => .mdd

/-- The class of an entity. -/
def Entity.entityClass {V : Type} : Entity V → EntityClass
  | .single _ => .single
  | .grid _ => .grid
  | .cell _ => .cell
  | .objective x => .ofSense x.sense
  | .constraint c => c.entityClass
  | .whole _ => .whole

namespace Shape

/-- The shape of an integer. -/
def ofInt (n : Int) : Shape := .number (.int n)

/-- The shape of a label. -/
def ofLabel : Label → Shape
  | .int n => .number (.int n)
  | .bool b => .number (.bool b)

/-- The shape of a transition: a triple. -/
def ofTransition (t : Transition String Label) : Shape :=
  .tuple [.text t.source, ofLabel t.value, .text t.target]

/-- The shape of a kind. Its family keeps it apart from the reader's tag of the same name. -/
def ofKind (k : ObjectiveKind) : Shape :=
  .symbol "ObjectiveType" k.name ("<ObjectiveType." ++ k.name ++ ": '" ++ k.spelling ++ "'>")

/-- The shape of a reader's tag. -/
def ofTag (t : ReaderTag) : Shape :=
  .symbol "TypeObj" t.name ("<TypeObj." ++ t.name ++ ": " ++ toString t.number ++ ">")

/-- The record of an entity of a class. -/
def ofClass (c : EntityClass) (fields : List (String × Shape)) : Shape := .record c.name fields

/-- The shape of an automaton constraint, given that of its scope. -/
def ofRegular (id : String) (scope : List Shape) (a : Automaton) : Shape :=
  .ofClass .regular
    [("id", .text id), ("variables", .tuple scope),
     ("transitions", .tuple (a.transitions.map ofTransition)), ("start", .text a.start),
     ("final", .tuple (a.finals.map .text))]

/-- The shape of a diagram constraint, given that of its scope. -/
def ofMdd (id : String) (scope : List Shape) (d : Diagram) : Shape :=
  .ofClass .mdd
    [("id", .text id), ("variables", .tuple scope),
     ("transitions", .tuple (d.transitions.map ofTransition)), ("root", .text d.root),
     ("terminal", .text d.terminal)]

end Shape

namespace Value

mutual

/-- The shape of a value. Equality, hash and written form are read off it, so entities are treated
like any other value. -/
def shape : Value → Shape
  | .null => .null
  | .bool b => .number (.bool b)
  | .int n => .number (.int n)
  | .double x => .number (.double x)
  | .text s => .text s
  | .list items => .list (shapes items)
  | .tuple items => .tuple (shapes items)
  | .progression r => .progression r
  | .dict entries => .mapping false (entryShapes entries)
  | .kind k => .ofKind k
  | .tag t => .ofTag t
  | .handle number id => .handle number (shape id)
  | .tree number form => .tree number form
  | .entity e => entityShape e

/-- The shapes of the items of a list. -/
def shapes : List Value → List Shape
  | [] => []
  | item :: rest => shape item :: shapes rest

/-- The shapes of the entries of a mapping. -/
def entryShapes : List (Value × Value) → List (Shape × Shape)
  | [] => []
  | entry :: rest => entryShape entry :: entryShapes rest

/-- The shapes of a key and its value. -/
def entryShape : Value × Value → Shape × Shape
  | (key, value) => (shape key, shape value)

/-- The shape of a tuple that may be missing. -/
def optionalShape : Option (List Value) → Shape
  | none => .null
  | some items => .tuple (shapes items)

/-- The shape of a frozen mapping that may be missing. -/
def optionalMapping : Option (List (Value × Value)) → Shape
  | none => .null
  | some entries => .mapping true (entryShapes entries)

/-- The record of an entity. -/
def entityShape : Entity Value → Shape
  | .single x => singleShape x
  | .grid x => gridShape x
  | .cell x => cellShape x
  | .objective x => objectiveShape x
  | .constraint c => constraintShape c
  | .whole x => wholeShape x

/-- The record of a variable. -/
def singleShape : Variable Value → Shape
  | ⟨id, domain⟩ => .ofClass .single [("id", shape id), ("domain", .tuple (shapes domain))]

/-- The record of an array of variables. -/
def gridShape : Grid Value → Shape
  | ⟨id, size, domains, fallback⟩ =>
    .ofClass .grid
      [("id", shape id), ("size", .tuple (size.map .ofInt)),
       ("domains", .mapping true (entryShapes domains)),
       ("default_domain", optionalShape fallback)]

/-- The record of a cell. -/
def cellShape : Cell Value → Shape
  | ⟨array, indices⟩ =>
    .ofClass .cell [("array_id", shape array), ("indices", .tuple (indices.map .ofInt))]

/-- The record of an objective. -/
def objectiveShape : Objective Value → Shape
  | ⟨sense, id, k, terms, coefficients, expression⟩ =>
    .ofClass (.ofSense sense)
      [("id", .text id), ("type", .ofKind k), ("variables", .tuple (shapes terms)),
       ("coefficients", .tuple (coefficients.map .ofInt)), ("expression", shape expression)]

/-- The record of a constraint. -/
def constraintShape : Constraint Value → Shape
  | .intension c => intensionShape c
  | .table c => tableShape c
  | .regular c => regularShape c
  | .mdd c => mddShape c

/-- The record of an expression constraint. -/
def intensionShape : Intension Value → Shape
  | ⟨id, expression⟩ =>
    .ofClass .intension [("id", .text id), ("expression", shape expression)]

/-- The record of a table constraint. -/
def tableShape : Table Value → Shape
  | ⟨id, scope, supports, conflicts⟩ =>
    .ofClass .table
      [("id", .text id), ("list", .tuple (shapes scope)), ("supports", .tuple (shapes supports)),
       ("conflicts", .tuple (shapes conflicts))]

/-- The record of an automaton constraint. -/
def regularShape : Regular Value → Shape
  | ⟨id, scope, automaton⟩ => .ofRegular id (shapes scope) automaton

/-- The record of a diagram constraint. -/
def mddShape : Mdd Value → Shape
  | ⟨id, scope, diagram⟩ => .ofMdd id (shapes scope) diagram

/-- The record of an instance. -/
def wholeShape : Instance Value → Shape
  | ⟨format, framework, vars, constraints, objectives, annotations⟩ =>
    .ofClass .whole
      [("format", shape format), ("type", shape framework), ("variables", .tuple (shapes vars)),
       ("constraints", .tuple (shapes constraints)), ("objectives", optionalShape objectives),
       ("annotations", optionalMapping annotations)]

end

/-- Two values are the same when their shapes are. -/
def same (a b : Value) : Bool := a.shape.same b.shape

/-- Two values are one key when their shapes are. They need one hash as well as equality. -/
def sameKey (a b : Value) : Bool := a.shape.sameKey b.shape

/-- Collections hold values as keys. -/
instance : BEq Value := ⟨sameKey⟩

/-- The hash of a value that can be a key. -/
def hash? (v : Value) : Option Int := v.shape.hash?

/-- Whether a value can be a key. -/
def isHashable (v : Value) : Bool := v.shape.isHashable

/-- The written form of a value, with quotes around texts. -/
def written (v : Value) : Except Failure String := v.shape.written

/-- The shapes of a list are those of its items. The recursion over values needs a function of its
own for lists. -/
@[simp] theorem shapes_eq_map (items : List Value) : shapes items = items.map shape := by
  induction items with
  | nil => rfl
  | cons item rest inductionHypothesis => simp [shapes, inductionHypothesis]

/-- The same holds of the entries of a mapping. -/
@[simp] theorem entryShapes_eq_map (entries : List (Value × Value)) :
    entryShapes entries = entries.map fun entry => (entry.1.shape, entry.2.shape) := by
  induction entries with
  | nil => rfl
  | cons entry rest inductionHypothesis =>
    obtain ⟨key, value⟩ := entry
    simp [entryShapes, entryShape, inductionHypothesis]

end Value
end Csp
