import Csp.Proofs.Equality.Entities

/-!
# Derived views of equal entities

Equality looks at the declared fields alone, and whatever is derived from them is
left out of account: the levels and the nodes of a diagram, the states and the
alphabet of an automaton, the meaning of a table. Nothing is lost by that, because
entities that are equal have the same derived views.

Equality identifies numbers of different types, so the rows of equal tables can
consist of different objects, and the labels of equal automata can be an integer in
one and a truth value in the other. A view is therefore a function of what equality
keeps: the number of items, the place of a star, whether something counts as true,
and the exact value of a label.
-/
namespace Csp

/-- Lists of one length are both empty, or neither of them is. Emptiness is all that the views of a
table ask of its sides. -/
theorem isEmpty_of_length {β γ : Type} {items : List β} {others : List γ}
    (length : items.length = others.length) : items.isEmpty = others.isEmpty := by
  rw [Bool.eq_iff_iff, List.isEmpty_iff_length_eq_zero, List.isEmpty_iff_length_eq_zero, length]

/-- What is found or missed in two items together is found in both lists or in neither. The items
are compared at the same places. -/
theorem any_of_forall₂ {β : Type} {agree : β → β → Prop} {found : β → Bool} {items others : List β}
    (together : ∀ a b, agree a b → found a = found b) (agrees : List.Forall₂ agree items others) :
    items.any found = others.any found := by
  induction agrees with
  | nil => rfl
  | cons first _ inductionHypothesis =>
    rw [List.any_cons, List.any_cons, together _ _ first, inductionHypothesis]

namespace Shape

variable {a b : Shape} {s : String}

/-- What is alike to a text is this text. -/
theorem eq_text_of_alike (alike : a.alike (.text s) = true) : a = .text s := by
  cases a with
  | text t => rw [alike_text.mp alike]
  | _ => simp [Shape.alike] at alike

/-- The same from the other side. Symmetry of the comparison is not needed for it. -/
theorem eq_text_of_text_alike (alike : (text s).alike a = true) : a = .text s := by
  cases a with
  | text t => rw [alike_text.mp alike]
  | _ => simp [Shape.alike] at alike

/-- Of two shapes that are alike, both are alike a text or neither is. A text is alike to nothing
but itself, so being alike can be passed on without transitivity. -/
theorem alike_text_congr (alike : a.alike b = true) :
    a.alike (.text s) = b.alike (.text s) := by
  rw [Bool.eq_iff_iff]
  constructor
  · intro text
    rw [eq_text_of_alike text] at alike
    rw [eq_text_of_text_alike alike, alike_text]
  · intro text
    rwa [eq_text_of_alike text] at alike

/-- Whether values of a shape count as true. -/
def isTrue : Shape → Bool
  | .null => false
  | .number n => n.exact != .finite 0
  | .text s => !s.isEmpty
  | .list items | .tuple items => !items.isEmpty
  | .progression r => r.length != 0
  | .mapping _ entries => !entries.isEmpty
  | _ => true

/-- Shapes that are alike count as true together. Numbers of different types are zero together. -/
theorem isTrue_of_alike (alike : a.alike b = true) : a.isTrue = b.isTrue := by
  -- The cases are the equations of `alike` in their order; shapes of the last one are not alike.
  unfold Shape.alike at alike
  split at alike
  case h_2 => rw [isTrue, isTrue, of_decide_eq_true alike]
  case h_3 => rw [beq_iff_eq.mp alike]
  case h_4 =>
    rw [Progression.same, Bool.and_eq_true, beq_iff_eq] at alike
    rw [isTrue, isTrue, alike.1]
  case h_8 | h_9 =>
    rw [alikeItems_iff] at alike
    exact congrArg not (isEmpty_of_length alike.length_eq)
  case h_10 =>
    rw [Bool.and_eq_true, beq_iff_eq] at alike
    exact congrArg not (isEmpty_of_length alike.1)
  case h_12 => cases alike
  all_goals rfl

/-- Whether a shape is a tuple with a star among its items. -/
def hasStar : Shape → Bool
  | .tuple items => items.any (·.alike star.shape)
  | _ => false

/-- Rows that are alike both hold a star or neither does, since a star is a text. -/
theorem hasStar_of_alike (alike : a.alike b = true) : a.hasStar = b.hasStar := by
  unfold Shape.alike at alike
  split at alike
  case h_9 =>
    exact any_of_forall₂ (fun _ _ => alike_text_congr) ((alikeItems_iff _ _).mp alike)
  case h_12 => cases alike
  all_goals rfl

end Shape

namespace Value

/-- Whether a value counts as true is seen from its shape. -/
theorem isTrue_shape (v : Value) : v.shape.isTrue = v.isTrue := by
  cases v with
  | bool b => cases b <;> rfl
  | int n =>
    have zero : (Double.finite (n : Dyadic) = .finite 0) ↔ n = 0 := finite_intCast_inj n 0
    rw [shape, Shape.isTrue, isTrue, Number.exact, Bool.eq_iff_iff, bne_iff_ne, bne_iff_ne, ne_eq,
      zero]
  | list items | tuple items =>
    rw [shape, shapes_eq_map]
    exact congrArg not List.isEmpty_map
  | dict entries =>
    rw [shape, entryShapes_eq_map]
    exact congrArg not List.isEmpty_map
  | entity e =>
    obtain ⟨_, record, _⟩ := e.record_declared
    rw [record]
    rfl
  | _ => rfl

/-- Equal values are both true or both false. Zero and the truth value of falsehood are equal, and
both are false. -/
theorem isTrue_of_same {v w : Value} (equal : v.same w = true) : v.isTrue = w.isTrue := by
  rw [← isTrue_shape, ← isTrue_shape, Shape.isTrue_of_alike equal]

/-- Whether a row has a star is seen from its shape. -/
theorem hasStar_shape (row : Value) : row.shape.hasStar = hasStar row := by
  cases row with
  | tuple items =>
    rw [shape, shapes_eq_map, Shape.hasStar, List.any_map]
    rfl
  | entity e =>
    obtain ⟨_, record, _⟩ := e.record_declared
    rw [record]
    rfl
  | _ => rfl

/-- So equal rows are short or not together. -/
theorem hasStar_of_same {row other : Value} (equal : row.same other = true) :
    hasStar row = hasStar other := by
  rw [← hasStar_shape, ← hasStar_shape, Shape.hasStar_of_alike equal]

end Value

/-! ## The views of each class -/

/-- All that is read off a table is determined by its terms and its two sides up to equality. -/
theorem Table.views_of_parts {c d : Table Value} (scope : SameItems c.scope d.scope)
    (supports : SameItems c.supports d.supports) (conflicts : SameItems c.conflicts d.conflicts) :
    c.positive = d.positive ∧ SameItems c.rows d.rows ∧ c.isUnary = d.isUnary ∧
      c.isShort = d.isShort := by
  have positive : c.positive = d.positive := by
    rw [Table.positive, Table.positive, isEmpty_of_length supports.length_eq,
      isEmpty_of_length conflicts.length_eq]
  refine ⟨positive, ?_, ?_, ?_⟩
  · rw [rows, rows, positive]
    split
    · exact supports
    · exact conflicts
  · rw [isUnary, isUnary, scope.length_eq]
  · have together : ∀ row other : Value, row.same other = true → hasStar row = hasStar other :=
      fun _ _ => Value.hasStar_of_same
    rw [isShort, isShort, any_of_forall₂ together supports, any_of_forall₂ together conflicts]

/-- Equal objectives are both expressions or neither is. -/
theorem Objective.isExpression_of_same {x y : Objective Value}
    (equal : (Value.entity (.objective x)).same (.entity (.objective y)) = true) :
    x.isExpression = y.isExpression := by
  obtain ⟨_, _, kind, _, _, expression⟩ := same_iff.mp equal
  rw [isExpression, isExpression, kind, Value.isTrue_of_same expression]

/-- Equal instances have objectives together. -/
theorem Instance.isOptimization_of_same {x y : Instance Value}
    (equal : (Value.entity (.whole x)).same (.entity (.whole y)) = true) :
    x.isOptimization = y.isOptimization := by
  obtain ⟨_, _, _, _, objectives, _⟩ := x
  obtain ⟨_, _, _, _, objectivesToo, _⟩ := y
  cases objectives_of_same equal with
  | none => rfl
  | some objectives => exact congrArg not (isEmpty_of_length objectives.length_eq)

/-- The views of two entities of one class agree. What a view keeps as it was given, which is the
rows of a table, is equal item by item, and the labels of two alphabets are the same numbers. -/
inductive Entity.SameViews : Entity Value → Entity Value → Prop where
  | single (x y : Variable Value) : SameViews (.single x) (.single y)
  | grid {x y : Grid Value} (dimensions : x.dimensions = y.dimensions) :
      SameViews (.grid x) (.grid y)
  | cell (x y : Cell Value) : SameViews (.cell x) (.cell y)
  | objective {x y : Objective Value} (isExpression : x.isExpression = y.isExpression) :
      SameViews (.objective x) (.objective y)
  | intension (c d : Intension Value) :
      SameViews (.constraint (.intension c)) (.constraint (.intension d))
  | table {c d : Table Value} (positive : c.positive = d.positive) (rows : SameItems c.rows d.rows)
      (isUnary : c.isUnary = d.isUnary) (isShort : c.isShort = d.isShort) :
      SameViews (.constraint (.table c)) (.constraint (.table d))
  | regular {c d : Regular Value} (states : c.automaton.states = d.automaton.states)
      (alphabet : c.automaton.alphabet.map Label.value = d.automaton.alphabet.map Label.value) :
      SameViews (.constraint (.regular c)) (.constraint (.regular d))
  | mdd {c d : Mdd Value} (levels : c.diagram.levels = d.diagram.levels)
      (nodes : c.diagram.nodes = d.diagram.nodes) :
      SameViews (.constraint (.mdd c)) (.constraint (.mdd d))
  | whole {x y : Instance Value} (isOptimization : x.isOptimization = y.isOptimization) :
      SameViews (.whole x) (.whole y)

/-- Equal constraints agree in all that is read off them, in each of their four classes. That they
have the same class comes first. -/
theorem Constraint.sameViews_of_same {c d : Constraint Value}
    (equal : (Value.entity (.constraint c)).same (.entity (.constraint d)) = true) :
    (Entity.constraint c).SameViews (.constraint d) := by
  have sameClass := Entity.entityClass_of_same equal
  cases c <;> cases d
  case intension.intension c d => exact .intension c d
  case table.table c d =>
    obtain ⟨_, scope, supports, conflicts⟩ := Table.same_iff.mp equal
    obtain ⟨positive, rows, isUnary, isShort⟩ := Table.views_of_parts scope supports conflicts
    exact .table positive rows isUnary isShort
  case regular.regular c d =>
    obtain ⟨id, scope, transitions, start, finals⟩ := Regular.same_iff.mp equal
    have alike := Regular.alike_of_parts id scope transitions start finals
    exact .regular alike.states alike.alphabet
  case mdd.mdd c d =>
    obtain ⟨id, scope, transitions, root, terminal⟩ := Mdd.same_iff.mp equal
    have alike := Mdd.alike_of_parts id scope transitions root terminal
    exact .mdd alike.levels alike.nodes
  all_goals cases sameClass

/-- Equality determines every derived view. The proof goes by class: each view is read off fields
that equality compares. -/
theorem Entity.equality_determines_views {e f : Entity Value}
    (equal : (Value.entity e).same (.entity f) = true) : e.SameViews f := by
  have sameClass := entityClass_of_same equal
  cases e <;> cases f
  case single.single x y => exact .single x y
  case grid.grid x y => exact .grid (congrArg List.length (Grid.size_of_same equal))
  case cell.cell x y => exact .cell x y
  case objective.objective x y => exact .objective (Objective.isExpression_of_same equal)
  case constraint.constraint c d => exact Constraint.sameViews_of_same equal
  case whole.whole x y => exact .whole (Instance.isOptimization_of_same equal)
  -- Entities of any other two constructors are of different classes.
  all_goals grind [entityClass, EntityClass.ofSense_eq, Constraint.entityClass_eq]

/-- A diagram constraint over one variable, with one edge. -/
def oneEdge (label : Value) : Except Failure (Mdd Value) :=
  Mdd.make (.text "m") (.list [.text "x"]) (.list [.list [.text "root", label, .text "end"]])
    (.text "root") (.text "end")

/-- A label that is a truth value is equal to the integer that it stands for. -/
theorem equality_determines_views_of_label :
    ∃ c d, oneEdge (.bool true) = .ok c ∧ oneEdge (.int 1) = .ok d ∧
      (Value.entity (.constraint (.mdd c))).same (.entity (.constraint (.mdd d))) = true ∧
        (Entity.constraint (.mdd c)).SameViews (.constraint (.mdd d)) := by
  refine ⟨_, _, rfl, rfl, (and_iff_left_of_imp Entity.equality_determines_views).mpr ?_⟩
  decide +kernel

end Csp
