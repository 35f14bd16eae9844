import Csp.Proofs.Collector.Sound
import Csp.Proofs.Equality.Entities

/-!
# Objectives with one representation

The constructor of objectives admits an expression and terms side by side. What
is made of the parts of a document element has one of the two only: the expression
counts where it is not empty and the kind is that of expressions, and the terms
count otherwise.

So an objective that is passed through an element loses the representation that
does not count. It loses nothing exactly when there was nothing to lose, and
nothing is left to lose the second time.
-/
namespace Csp

/-- Parameters that go by name only are filled with the values that are given for their names, in
any order. -/
theorem Signature.bind_of_named {parameters : List Parameter} {values : List Value}
    {named : List (String × Value)} (distinct : (parameters.map (·.name)).Nodup)
    (complete : values.length = parameters.length)
    (given : named.Perm ((parameters.map (·.name)).zip values)) :
    (byName parameters).bind [] named = .ok values := by
  simp only [bind, byName, List.length_nil, List.drop_zero, all_known given,
    mapM_fill distinct complete given]
  rfl

namespace Objective

/-- An objective without the representation that does not count. Which of the two does not count is
decided by the kind and by whether there is an expression. -/
def resolved (x : Objective Value) : Objective Value :=
  if x.isExpression then { x with terms := [], coefficients := [] }
  else { x with expression := .text "" }

/-- An objective counts as an expression if its kind says so and its expression is not empty. -/
theorem isExpression_iff (x : Objective Value) :
    x.isExpression = true ↔ x.kind = .expression ∧ x.expression.isTrue = true := by
  rw [isExpression, Bool.and_eq_true, beq_iff_eq]

/-- Of a text as the expression, only an empty one does not count with the kind of expressions. -/
theorem isExpression_of_text {x : Objective Value} {text : String}
    (written : x.expression = .text text) :
    x.isExpression = true ↔ x.kind = .expression ∧ x.expression ≠ .text "" := by
  rw [isExpression_iff, written]
  simp [Value.isTrue]

/-- The element of an objective's parts is made into the objective without the representation that
does not count. -/
theorem ofElement_parts (x : Objective Value) :
    ofElement x.sense (.text x.id) (.kind x.kind) (.tuple x.terms)
      (.tuple (x.coefficients.map .int)) x.expression = .ok x.resolved := by
  simp only [ofElement, Value.objectiveKind, bind, Except.bind]
  by_cases counts : x.kind = .expression ∧ x.expression.isTrue = true
  · rw [if_pos counts, resolved, if_pos ((isExpression_iff x).mpr counts), ofExpression,
      ← counts.1]
    exact make_again { x with terms := [], coefficients := [] }
  · rw [if_neg counts, resolved, if_neg (mt (isExpression_iff x).mp counts)]
    exact make_again { x with expression := .text "" }

/-- What is left has one representation only, whichever of the two it is. -/
theorem resolved_unambiguous (x : Objective Value) : x.resolved.Unambiguous := by
  unfold resolved
  split
  · rename_i counts
    exact fun _ => ⟨((isExpression_iff x).mp counts).1, rfl, rfl⟩
  · exact fun filled => absurd rfl filled

/-- A text as the expression stays a text. -/
theorem resolved_text {x : Objective Value} {text : String} (written : x.expression = .text text) :
    ∃ left, x.resolved.expression = .text left := by
  unfold resolved
  split
  · exact ⟨text, written⟩
  · exact ⟨"", rfl⟩

/-- Where there is one representation only, nothing is lost. What is removed was not there. -/
theorem Unambiguous.resolved_eq {x : Objective Value} {text : String}
    (unambiguous : x.Unambiguous) (written : x.expression = .text text) : x.resolved = x := by
  unfold resolved
  split
  · rename_i counts
    obtain ⟨_, terms, coefficients⟩ := unambiguous ((isExpression_of_text written).mp counts).2
    rw [← terms, ← coefficients]
  · rename_i discounted
    have empty : x.expression = .text "" := by
      by_contra filled
      exact discounted ((isExpression_of_text written).mpr ⟨(unambiguous filled).1, filled⟩)
    rw [← empty]

/-- Only where nothing was lost is the objective still equal to what it was. Equality of objectives
compares both representations. -/
theorem unambiguous_of_same {x : Objective Value} {text : String}
    (written : x.expression = .text text)
    (equal : (Value.entity (.objective x.resolved)).same (.entity (.objective x)) = true) :
    x.Unambiguous := by
  obtain ⟨_, _, _, terms, coefficients, expression⟩ := same_iff.mp equal
  by_cases counts : x.isExpression = true
  · rw [resolved, if_pos counts] at terms coefficients
    have noTerms : x.terms = [] := List.forall₂_nil_left_iff.mp terms
    exact fun _ => ⟨((isExpression_iff x).mp counts).1, noTerms, coefficients.symm⟩
  · rw [resolved, if_neg counts, written] at expression
    have empty : "" = text := Shape.alike_text.mp expression
    intro filled
    rw [written, ← empty] at filled
    exact absurd rfl filled

/-- An objective equals what is left of it exactly if there was one representation from the
start. -/
theorem resolved_same_iff {x : Objective Value} {text : String}
    (written : x.expression = .text text) :
    (Value.entity (.objective x.resolved)).same (.entity (.objective x)) = true ↔
      x.Unambiguous := by
  constructor
  · exact unambiguous_of_same written
  · intro unambiguous
    rw [unambiguous.resolved_eq written]
    exact Value.same_self _

/-- The element of an objective's parts, in the class of its direction. -/
theorem request_element_parts (x : Objective Value) {named : List (String × Value)}
    (given : named.Perm (Entity.objective x).namedFields) :
    (EntityClass.ofSense x.sense).request .element [] named = .ok (.objective x.resolved) := by
  have fields : (EntityClass.ofSense x.sense).signature .element =
      .ok (.byName (EntityClass.ofSense x.sense).fields) := by
    cases x.sense <;> rfl
  have bound := Signature.bind_of_named (EntityClass.distinct_fields _)
    (Entity.objective x).length_declared given
  have made := ofElement_parts x
  have assembled : (EntityClass.ofSense x.sense).assemble .element (Entity.objective x).declared =
      .ok (.objective x.resolved) := by
    obtain ⟨sense, id, kind, terms, coefficients, expression⟩ := x
    cases sense <;> exact functor_map_eq_ok.mpr ⟨_, made, rfl⟩
  exact bind_eq_ok.mpr ⟨_, fields, bind_eq_ok.mpr ⟨_, bound, assembled⟩⟩

/-- Every factory but the constructor itself makes objectives with one representation. They pass one
of the two representations only. -/
theorem MadeBy.unambiguous {f : Factory} {x : Objective Value} (madeBy : x.MadeBy f)
    (factory : f ≠ .constructor) : x.Unambiguous := by
  induction madeBy with
  | constructor _ => exact absurd rfl factory
  | expression made => exact unambiguous_of_expression made
  | terms made => exact unambiguous_of_terms made
  | elementByExpression _ unambiguous | elementByTerms _ unambiguous =>
    exact unambiguous Factory.noConfusion

end Objective

/-- What a callback adds to the objectives of a collector has one representation. Callbacks use no
other factories. -/
theorem Collector.unambiguous_of_step {c : Collector} {call : Callback} {x : Objective Value}
    (held : x ∈ (c.step (.callback call)).collector.objectives) :
    x ∈ c.objectives ∨ x.Unambiguous := by
  rw [step_collector] at held
  simp only [Command.entity?] at held
  cases entity : call.entity? c.host.room with
  | none =>
    rw [entity] at held
    exact .inl held
  | some a =>
    rw [entity] at held
    obtain ⟨notice, accepted⟩ := Callback.entity?_eq_some.mp entity
    have sound : a.Sound := Callback.sound_of_contribution accepted
    cases a with
    | single y | constraint y => exact .inl held
    | objective y =>
      rcases List.mem_append.mp held with before | added
      · exact .inl before
      · rw [List.mem_singleton.mp added]
        exact .inr sound.2

/-- The parts of an objective whose expression is a text, given as those of a document element in
any order, are made into an objective with one representation. Its parts are made into the same
objective again, and it equals the one at the start exactly when that had one representation
already. All factories and callbacks return such objectives. -/
theorem element_projects :
    (∀ (x : Objective Value) (text : String), x.expression = .text text →
      ∀ named, named.Perm (Entity.objective x).namedFields →
        ∃ y : Objective Value,
          (EntityClass.ofSense x.sense).request .element [] named = .ok (.objective y) ∧
          y.Unambiguous ∧
          (∀ again, again.Perm (Entity.objective y).namedFields →
            (EntityClass.ofSense y.sense).request .element [] again = .ok (.objective y)) ∧
          ((Value.entity (.objective y)).same (.entity (.objective x)) = true ↔
            x.Unambiguous)) ∧
      (∀ (c : EntityClass) (f : Factory) args named (x : Objective Value), f ≠ .constructor →
        c.request f args named = .ok (.objective x) → x.Unambiguous) ∧
      ∀ (c : Collector) (call : Callback) (x : Objective Value),
        x ∈ (c.step (.callback call)).collector.objectives → x ∈ c.objectives ∨ x.Unambiguous := by
  refine ⟨?_, ?_, fun _ _ _ => Collector.unambiguous_of_step⟩
  · intro x text written named given
    obtain ⟨left, writtenToo⟩ := Objective.resolved_text written
    have settled : x.resolved.resolved = x.resolved :=
      x.resolved_unambiguous.resolved_eq writtenToo
    refine ⟨x.resolved, x.request_element_parts given, x.resolved_unambiguous, ?_,
      Objective.resolved_same_iff written⟩
    intro again givenToo
    have made := x.resolved.request_element_parts givenToo
    rwa [settled] at made
  · intro c f args named x factory requested
    obtain ⟨signature, _, requested⟩ := bind_eq_ok.mp requested
    obtain ⟨values, _, assembled⟩ := bind_eq_ok.mp requested
    exact ((EntityClass.origin_of_assemble assembled).2 x rfl).unambiguous factory

/-- An objective with an expression beside its weighted terms. -/
def expressedTerms : Objective Value :=
  ⟨.maximize, "o", .sum, [.text "x", cellValue "y" [0]], [2, -1], .text "mul(x,y[0])"⟩

/-- Its terms are left of it, so it is not what it was. -/
theorem element_projects_twofold :
    expressedTerms.expression = .text "mul(x,y[0])" ∧
      EntityClass.maximize.request .element []
          (Entity.objective expressedTerms).namedFields.reverse =
        .ok (.objective { expressedTerms with expression := .text "" }) ∧
      (Value.entity (.objective { expressedTerms with expression := .text "" })).same
        (.entity (.objective expressedTerms)) = false := by
  have twofold : ¬ expressedTerms.Unambiguous := by
    intro unambiguous
    obtain ⟨kind, _⟩ := unambiguous (by simp [expressedTerms])
    cases kind
  have requested : EntityClass.maximize.request .element []
      (Entity.objective expressedTerms).namedFields.reverse =
        .ok (.objective { expressedTerms with expression := .text "" }) := rfl
  obtain ⟨y, made, _, _, equal⟩ := element_projects.1 expressedTerms "mul(x,y[0])" rfl
    (Entity.objective expressedTerms).namedFields.reverse (List.reverse_perm _)
  cases requested.symm.trans made
  exact ⟨rfl, requested, Bool.eq_false_iff.mpr (mt equal.mp twofold)⟩

end Csp
