import Csp.Proofs.Making

/-!
# What a callback contributes

A callback that contributes an entity has passed through the steps of its kind:
it has read its arguments, made the entity and put a notice beside it. These
laws name the results of the steps, so that whatever holds of an entity that is
collected is derived from the maker that it came from. The callbacks on tables
share their steps, and so do the two pairs on objectives.
-/
namespace Csp

namespace Contribution

variable {contributed : Contribution}

/-- A variable is contributed after its identifier has been read and its domain made. The notice is
made last and can still fail, so it is part of the contribution as it is. -/
theorem ofVariable_ok {x domain : Value} {notice : Value → Except Failure Notice}
    (accepted : ofVariable x domain notice = .ok contributed) :
    ∃ id v, x.identifier = .ok id ∧ Variable.make id domain = .ok v ∧
      contributed = ⟨.single v, notice id⟩ := by
  obtain ⟨id, named, accepted⟩ := bind_eq_ok.mp accepted
  obtain ⟨v, made, accepted⟩ := bind_eq_ok.mp accepted
  cases accepted
  exact ⟨id, v, named, made, rfl⟩

/-- A table is contributed if its scope has terms and its rows can be frozen. The notice shows what
was given and not what is stored. -/
theorem ofTable_ok {scope rows positive : Value}
    (accepted : ofTable scope rows positive = .ok contributed) :
    ∃ terms t, scope.terms = .ok terms ∧ tableOf terms rows positive.isTrue = .ok t ∧
      contributed = ⟨.constraint (.table t), Notice.table positive.isTrue scope rows⟩ := by
  obtain ⟨terms, mentioned, accepted⟩ := bind_eq_ok.mp accepted
  obtain ⟨t, made, accepted⟩ := bind_eq_ok.mp accepted
  cases accepted
  exact ⟨terms, t, mentioned, made, rfl⟩

/-- An objective that is an expression is contributed once the expression has a text and a direction
is known. -/
theorem ofExpression_ok {sense : Except Failure Sense} {term : Value}
    (accepted : ofExpression sense term = .ok contributed) :
    ∃ expression direction x, objectiveExpression term = .ok expression ∧
      Objective.ofExpression direction .null expression = .ok x ∧
        contributed = ⟨.objective x, .ok (Notice.expression direction)⟩ := by
  obtain ⟨expression, written, accepted⟩ := bind_eq_ok.mp accepted
  obtain ⟨direction, _, accepted⟩ := bind_eq_ok.mp accepted
  obtain ⟨x, made, accepted⟩ := bind_eq_ok.mp accepted
  cases accepted
  exact ⟨expression, direction, x, written, made, rfl⟩

/-- An objective over terms is contributed if its tag stands for a kind. The tag is read first, so
an unsupported one is reported before anything else. -/
theorem ofAggregate_ok {sense : Except Failure Sense} {tag terms coefficients : Value}
    (accepted : ofAggregate sense tag terms coefficients = .ok contributed) :
    ∃ kind listed factors direction x, tag.kindOfTag = .ok kind ∧
      Objective.ofTerms direction .null (.kind kind) (.list listed) factors = .ok x ∧
        contributed = ⟨.objective x, .ok (Notice.aggregate kind direction)⟩ := by
  obtain ⟨kind, known, accepted⟩ := bind_eq_ok.mp accepted
  obtain ⟨listed, _, accepted⟩ := bind_eq_ok.mp accepted
  obtain ⟨direction, _, accepted⟩ := bind_eq_ok.mp accepted
  obtain ⟨x, made, accepted⟩ := bind_eq_ok.mp accepted
  cases accepted
  exact ⟨kind, listed, _, direction, x, known, made, rfl⟩

end Contribution

/-- The families of what is collected. -/
inductive Family where
  | variables
  | constraints
  | objectives
deriving DecidableEq

/-- The family that an entity belongs to, which decides in which list it is collected. -/
def Addition.family : Addition → Family
  | .single _ => .variables
  | .constraint _ => .constraints
  | .objective _ => .objectives

namespace Callback

variable {room : Nat} {contributed : Contribution}

/-- An intensional constraint is contributed if the text of its tree is not empty. Its scope is only
counted for the notice. -/
theorem contribution_intension_ok {scope tree : Value}
    (accepted : (intension scope tree).contribution room = .ok contributed) :
    ∃ text c, tree.plain = .ok text ∧ Intension.make .null (.text text) = .ok c ∧
      contributed = ⟨.constraint (.intension c), Notice.intension scope⟩ := by
  obtain ⟨text, written, accepted⟩ := bind_eq_ok.mp accepted
  obtain ⟨c, made, accepted⟩ := bind_eq_ok.mp accepted
  cases accepted
  exact ⟨text, c, written, made, rfl⟩

/-- A unary table is that of its expanded values. The expansion comes first, so a failure of it
precedes all that concerns the scope. -/
theorem contribution_unaryTable_ok {x listed positive : Value}
    (accepted : (unaryTable x listed positive).contribution room = .ok contributed) :
    ∃ rows, expandValues room listed = .ok rows ∧
      Contribution.ofTable (.list [x]) (.list rows) positive = .ok contributed :=
  bind_eq_ok.mp accepted

/-- An automaton constraint is contributed if its scope has terms and its maker accepts the rest. It
is given no identifier. -/
theorem contribution_regular_ok {scope transitions start finals : Value}
    (accepted : (regular scope transitions start finals).contribution room = .ok contributed) :
    ∃ terms c, scope.terms = .ok terms ∧
      Regular.make .null (.list terms) transitions start finals = .ok c ∧
        contributed = ⟨.constraint (.regular c), .ok (Notice.regular c.automaton)⟩ := by
  obtain ⟨terms, mentioned, accepted⟩ := bind_eq_ok.mp accepted
  obtain ⟨c, made, accepted⟩ := bind_eq_ok.mp accepted
  cases accepted
  exact ⟨terms, c, mentioned, made, rfl⟩

/-- A diagram constraint is contributed if its ends are found in the transitions as they were given
and if its maker accepts them. -/
theorem contribution_mdd_made {scope transitions : Value}
    (accepted : (mdd scope transitions).contribution room = .ok contributed) :
    ∃ root terminal terms c, Diagram.givenEnds transitions = .ok (root, terminal) ∧
      scope.terms = .ok terms ∧
        Mdd.make .null (.list terms) transitions (.text root) (.text terminal) = .ok c ∧
          contributed = ⟨.constraint (.mdd c), .ok (Notice.mdd c.diagram)⟩ := by
  obtain ⟨⟨root, terminal⟩, found, accepted⟩ := bind_eq_ok.mp accepted
  obtain ⟨terms, mentioned, accepted⟩ := bind_eq_ok.mp accepted
  obtain ⟨c, made, accepted⟩ := bind_eq_ok.mp accepted
  cases accepted
  exact ⟨root, terminal, terms, c, found, mentioned, made, rfl⟩

/-- The family of the entities that a callback contributes. -/
def family : Callback → Family
  | .interval .. | .values .. => .variables
  | .intension .. | .unaryTable .. | .table .. | .regular .. | .mdd .. => .constraints
  | .expression .. | .aggregate .. | .expressionLike .. | .aggregateLike .. => .objectives

/-- The entity that a callback contributes, if it contributes any. It depends on the arguments of
the callback and on the room for its rows, but not on what has been collected before. -/
def entity? (room : Nat) (call : Callback) : Option Addition :=
  match call.contribution room with
  | .ok contributed => some contributed.addition
  | .error _ => none

/-- The entity of a callback that is accepted is what it contributes. Whether the notice can be
printed does not matter. -/
theorem entity?_of_ok {call : Callback}
    (accepted : call.contribution room = .ok contributed) :
    call.entity? room = some contributed.addition := by
  rw [entity?, accepted]

/-- A callback that is refused has no entity. -/
theorem entity?_of_error {call : Callback} {failure : Failure}
    (refused : call.contribution room = .error failure) : call.entity? room = none := by
  rw [entity?, refused]

/-- The entity of a callback is known exactly where its contribution is, notice aside. -/
theorem entity?_eq_some {call : Callback} {a : Addition} :
    call.entity? room = some a ↔ ∃ notice, call.contribution room = .ok ⟨a, notice⟩ := by
  rw [entity?]
  constructor
  · intro found
    split at found
    · rename_i contributed accepted
      cases found
      exact ⟨contributed.notice, accepted⟩
    · cases found
  · rintro ⟨notice, accepted⟩
    rw [accepted]

end Callback
end Csp
