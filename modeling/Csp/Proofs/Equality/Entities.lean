import Csp.Proofs.NormalForm
import Csp.Proofs.Rebuilding

/-!
# Equal entities

Two entities are equal when they are of one class and their declared fields are
equal. For the classes that derive something from their fields it is said here
what that means for the parts: what is kept as a text or as a number has to be the
same, labels have to stand for the same numbers, and what is kept as it was given
has to be equal as a value.
-/
namespace Csp

/-- Classes are told apart by their names, so records of different classes are never alike. -/
theorem EntityClass.name_inj {c d : EntityClass} : c.name = d.name ↔ c = d := by
  constructor
  · cases c <;> cases d <;> simp [name]
  · exact congrArg name

/-- Each direction of objectives has a class of its own. -/
theorem EntityClass.ofSense_inj {s t : Sense} : ofSense s = ofSense t ↔ s = t := by
  cases s <;> cases t <;> simp [ofSense]

/-- Objectives belong to one of two classes. -/
theorem EntityClass.ofSense_eq (s : Sense) : ofSense s = .minimize ∨ ofSense s = .maximize := by
  cases s <;> simp [ofSense]

/-- Constraints belong to one of four classes. -/
theorem Constraint.entityClass_eq (c : Constraint Value) :
    c.entityClass = .intension ∨ c.entityClass = .table ∨ c.entityClass = .regular ∨
      c.entityClass = .mdd := by
  cases c <;> simp [entityClass]

/-- Kinds are told apart by their member names. -/
theorem ObjectiveKind.name_inj {k l : ObjectiveKind} : k.name = l.name ↔ k = l := by
  constructor
  · cases k <;> cases l <;> simp [name]
  · exact congrArg name

namespace Shape

/-- Entities are alike exactly if they have the same class and fields that are alike one by one. -/
@[simp] theorem alike_ofClass {c d : EntityClass} {fields others : List (String × Shape)} :
    (ofClass c fields).alike (ofClass d others) = true ↔
      c = d ∧ alikeFields fields others = true := by
  rw [ofClass, ofClass, alike, Bool.and_eq_true, beq_iff_eq, EntityClass.name_inj]

/-- No fields are left to differ. -/
@[simp] theorem alikeFields_nil : alikeFields [] [] = true := by
  rw [alikeFields]

/-- Fields are compared by their places. Their names are those of the class and are not compared
again. -/
@[simp] theorem alikeFields_cons {name other : String} {a b : Shape}
    {fields others : List (String × Shape)} :
    alikeFields ((name, a) :: fields) ((other, b) :: others) = true ↔
      a.alike b = true ∧ alikeFields fields others = true := by
  rw [alikeFields, Bool.and_eq_true]

/-- Texts are alike only if they are the same. No text is alike to a value of another type. -/
@[simp] theorem alike_text {s t : String} : (text s).alike (.text t) = true ↔ s = t := by
  rw [alike, beq_iff_eq]

/-- Kinds are alike only if they are the same. -/
@[simp] theorem alike_ofKind {k l : ObjectiveKind} :
    (ofKind k).alike (ofKind l) = true ↔ k = l := by
  simp only [ofKind, alike, beq_self_eq_true, Bool.true_and, beq_iff_eq,
    ObjectiveKind.name_inj]

/-- Tuples are alike when they are so item by item. The two forms are those of the same kind of
part, so it is enough to compare the parts. -/
theorem alike_tuples {β : Type} {form : β → Shape} {items others : List β} :
    (tuple (items.map form)).alike (.tuple (others.map form)) = true ↔
      List.Forall₂ (fun item other => (form item).alike (form other) = true) items
        others := by
  rw [alike, alikeItems_iff, List.forall₂_map_left_iff, List.forall₂_map_right_iff]

/-- Tuples of values are alike exactly if their items are equal one by one, which also makes them
equally long. -/
@[simp] theorem alike_values {items others : List Value} :
    (tuple (items.map Value.shape)).alike (.tuple (others.map Value.shape)) = true ↔
      SameItems items others :=
  alike_tuples

/-- Tuples of integers are alike only if they are the same. -/
@[simp] theorem alike_numbers {numbers others : List Int} :
    (tuple (numbers.map .ofInt)).alike (.tuple (others.map .ofInt)) = true ↔
      numbers = others := by
  simp only [alike_tuples, alike_ofInt, List.forall₂_eq_eq_eq]

/-- Tuples of texts are alike only if they are the same. -/
@[simp] theorem alike_texts {texts others : List String} :
    (tuple (texts.map .text)).alike (.tuple (others.map .text)) = true ↔ texts = others := by
  simp only [alike_tuples, alike_text, List.forall₂_eq_eq_eq]

/-- Tuples of transitions are alike exactly if the transitions are equal up to the way in which a
label is given. -/
@[simp] theorem alike_transitions {transitions others : List (Transition String Label)} :
    (tuple (transitions.map ofTransition)).alike (.tuple (others.map ofTransition)) = true ↔
      List.Forall₂ Transition.Equal transitions others := by
  simp only [alike_tuples, ← Value.shape_ofTransition]
  rfl

end Shape

/-- Equal entities are of the same class. An objective to minimise never equals one to maximise. -/
theorem Entity.entityClass_of_same {e f : Entity Value}
    (equal : (Value.entity e).same (.entity f) = true) : e.entityClass = f.entityClass := by
  obtain ⟨_, record, _⟩ := e.record_declared
  obtain ⟨_, recordToo, _⟩ := f.record_declared
  rw [Value.same, Shape.same, record, recordToo] at equal
  exact (Shape.alike_ofClass.mp equal).1

/-- Objectives are equal exactly if all that was declared is. The direction is the class and counts
too. -/
theorem Objective.same_iff {x y : Objective Value} :
    (Value.entity (.objective x)).same (.entity (.objective y)) = true ↔
      x.sense = y.sense ∧ x.id = y.id ∧ x.kind = y.kind ∧ SameItems x.terms y.terms ∧
        x.coefficients = y.coefficients ∧ x.expression.same y.expression = true := by
  obtain ⟨sense, id, kind, terms, coefficients, expression⟩ := x
  obtain ⟨senseToo, idToo, kindToo, termsToo, coefficientsToo, expressionToo⟩ := y
  simp only [Value.same, Value.shape, Value.entityShape, Shape.same]
  simp [Value.objectiveShape, EntityClass.ofSense_inj]

/-- Arrays of variables can only be equal if they have the same size, whatever their domains are. -/
theorem Grid.size_of_same {x y : Grid Value}
    (equal : (Value.entity (.grid x)).same (.entity (.grid y)) = true) : x.size = y.size := by
  obtain ⟨id, size, domains, fallback⟩ := x
  obtain ⟨idToo, sizeToo, domainsToo, fallbackToo⟩ := y
  simp only [Value.same, Value.shape, Value.entityShape, Shape.same] at equal
  simp only [Value.gridShape, Shape.alike_ofClass, Shape.alikeFields_cons,
    Shape.alike_numbers] at equal
  exact equal.2.2.1

/-- Tables are equal exactly if both their sides are, so a table of supports never equals one of
conflicts with rows in it. -/
theorem Table.same_iff {c d : Table Value} :
    (Value.entity (.constraint (.table c))).same (.entity (.constraint (.table d))) = true ↔
      c.id = d.id ∧ SameItems c.scope d.scope ∧ SameItems c.supports d.supports ∧
        SameItems c.conflicts d.conflicts := by
  obtain ⟨id, scope, supports, conflicts⟩ := c
  obtain ⟨idToo, scopeToo, supportsToo, conflictsToo⟩ := d
  simp only [Value.same, Value.shape, Value.entityShape, Value.constraintShape, Shape.same]
  simp [Value.tableShape]

/-- Automaton constraints are equal exactly if they have the same texts, equal terms and equal
transitions in the same order. -/
theorem Regular.same_iff {c d : Regular Value} :
    (Value.entity (.constraint (.regular c))).same (.entity (.constraint (.regular d))) = true ↔
      c.id = d.id ∧ SameItems c.scope d.scope ∧
        List.Forall₂ Transition.Equal c.automaton.transitions d.automaton.transitions ∧
        c.automaton.start = d.automaton.start ∧ c.automaton.finals = d.automaton.finals := by
  rw [Value.same, Regular.shape_eq, Regular.shape_eq]
  simp [Shape.same, Shape.ofRegular]

/-- Diagram constraints are equal exactly if they have the same ends, equal terms and equal
transitions. The levels are not compared. -/
theorem Mdd.same_iff {c d : Mdd Value} :
    (Value.entity (.constraint (.mdd c))).same (.entity (.constraint (.mdd d))) = true ↔
      c.id = d.id ∧ SameItems c.scope d.scope ∧
        List.Forall₂ Transition.Equal c.diagram.transitions d.diagram.transitions ∧
        c.diagram.root = d.diagram.root ∧ c.diagram.terminal = d.diagram.terminal := by
  rw [Value.same, Mdd.shape_eq, Mdd.shape_eq]
  simp [Shape.same, Shape.ofMdd]

/-- Objectives are missing in both of two equal instances, or they are equal one by one. An empty
list of objectives is not the same as none. -/
theorem Instance.objectives_of_same {x y : Instance Value}
    (equal : (Value.entity (.whole x)).same (.entity (.whole y)) = true) :
    Option.Rel SameItems x.objectives y.objectives := by
  obtain ⟨format, framework, vars, constraints, objectives, annotations⟩ := x
  obtain ⟨formatToo, frameworkToo, varsToo, constraintsToo, objectivesToo, annotationsToo⟩ := y
  simp only [Value.same, Value.shape, Value.entityShape, Shape.same] at equal
  simp only [Value.wholeShape, Shape.alike_ofClass, Shape.alikeFields_cons] at equal
  obtain ⟨_, _, _, _, _, optional, _⟩ := equal
  cases objectives with
  | none =>
    cases objectivesToo with
    | none => exact .none
    | some others => simp [Value.optionalShape, Shape.alike] at optional
  | some items =>
    cases objectivesToo with
    | none => simp [Value.optionalShape, Shape.alike] at optional
    | some others =>
      rw [Value.optionalShape, Value.optionalShape, Value.shapes_eq_map, Value.shapes_eq_map,
        Shape.alike_values] at optional
      exact .some optional

end Csp
