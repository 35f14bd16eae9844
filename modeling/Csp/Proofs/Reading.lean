import Csp.Given
import Csp.Proofs.Outcome
import Csp.Proofs.Walk

/-!
# Reading transitions

A value is read as a transition in two ways that do not know of each other: by
the plain texts of its ends alone, when the ends of a diagram are inferred, and
in its normal form, when a constraint is made. Both ways see the same ends, so
whatever they succeed on has the same sources and the same targets.
-/
namespace Csp

open Transition

namespace Value

/-- A value has three items, of which the first and the last have these plain texts and the second
is this value. -/
def Describes (v : Value) (t : Transition String Value) : Prop :=
  ∃ source target, v.items = .ok [source, t.value, target] ∧ source.plain = .ok t.source ∧
    target.plain = .ok t.target

/-- What can be listed as three items is a transition of these items. A progression of three numbers
is one as well. -/
theorem rawTransition_of_items {v source value target : Value}
    (listed : v.items = .ok [source, value, target]) :
    v.rawTransition = .ok ⟨source, value, target⟩ := by
  unfold rawTransition
  split
  · rename_i r
    simp only [items] at listed
    split at listed
    · have terms : r.toList.map Value.int = [source, value, target] := Except.ok.inj listed
      have three : r.length = 3 := by simpa using congrArg List.length terms
      simp only [Progression.toList, three, List.range_succ, List.range_zero] at terms
      simp only [List.nil_append, List.cons_append, List.map_cons, List.map_nil, List.cons.injEq,
        and_true] at terms
      obtain ⟨rfl, rfl, rfl⟩ := terms
      simp [three]
    · cases listed
  · rw [listed]
    rfl

/-- What describes a transition is read by the search for the ends as this transition, with the
value left as it was given. -/
theorem Describes.namedTransition {v : Value} {t : Transition String Value}
    (described : v.Describes t) : v.namedTransition = .ok t := by
  obtain ⟨source, target, listed, sourceText, targetText⟩ := described
  simp only [Value.namedTransition, rawTransition_of_items listed, sourceText, targetText, bind,
    Except.bind]
  rfl

/-- A transition that is read by its ends is that of the items, with the texts of its ends. Its
value is left as it was given. -/
theorem namedTransition_ok {v : Value} {named : Transition String Value}
    (read : v.namedTransition = .ok named) :
    ∃ t, v.rawTransition = .ok t ∧ t.source.plain = .ok named.source ∧ t.value = named.value ∧
      t.target.plain = .ok named.target := by
  obtain ⟨t, raw, read⟩ := bind_eq_ok.mp read
  obtain ⟨source, sourceText, read⟩ := bind_eq_ok.mp read
  obtain ⟨target, targetText, read⟩ := bind_eq_ok.mp read
  cases read
  exact ⟨t, raw, sourceText, rfl, targetText⟩

/-- A transition in its normal form is that of three items, with the texts of its ends and with
the label that its value stands for. -/
theorem normalTransition_ok {word : String} {v : Value} {normal : Transition String Label}
    (read : v.normalTransition word = .ok normal) :
    ∃ t, v.rawTransition = .ok t ∧ t.source.plain = .ok normal.source ∧
      t.value.label = .ok normal.value ∧ t.target.plain = .ok normal.target := by
  obtain ⟨size, _, read⟩ := bind_eq_ok.mp read
  split at read
  · obtain ⟨given, _, read⟩ := bind_eq_ok.mp read
    cases read
  · obtain ⟨t, raw, read⟩ := bind_eq_ok.mp read
    obtain ⟨value, labelled, read⟩ := bind_eq_ok.mp read
    obtain ⟨source, sourceText, read⟩ := bind_eq_ok.mp read
    obtain ⟨target, targetText, read⟩ := bind_eq_ok.mp read
    cases read
    exact ⟨t, raw, sourceText, labelled, targetText⟩

/-- Both readings of a value give the same ends. The one reads them as they are given and the other
one after the value has been coerced. -/
theorem ends_agree {v : Value} {word : String} {named : Transition String Value}
    {normal : Transition String Label} (readNamed : v.namedTransition = .ok named)
    (readNormal : v.normalTransition word = .ok normal) :
    named.source = normal.source ∧ named.target = normal.target := by
  obtain ⟨t, raw, sourceText, _, targetText⟩ := namedTransition_ok readNamed
  obtain ⟨u, rawToo, sourceTextToo, _, targetTextToo⟩ := normalTransition_ok readNormal
  have same : t = u := Except.ok.inj (raw.symm.trans rawToo)
  subst same
  exact ⟨Except.ok.inj (sourceText.symm.trans sourceTextToo),
    Except.ok.inj (targetText.symm.trans targetTextToo)⟩

/-- Both readings of a list give the same sources and the same targets, in the same order. So the
ends that are found in the one are those of the other. -/
theorem lists_agree {items : List Value} {word : String}
    {named : List (Transition String Value)} {normal : List (Transition String Label)}
    (readNamed : items.mapM namedTransition = .ok named)
    (readNormal : items.mapM (normalTransition word) = .ok normal) :
    named.map source = normal.map source ∧ named.map target = normal.map target := by
  rw [mapM_eq_ok] at readNamed readNormal
  induction readNamed generalizing normal with
  | nil =>
    cases readNormal
    exact ⟨rfl, rfl⟩
  | cons first _ inductionHypothesis =>
    cases readNormal with
    | cons firstToo restToo =>
      obtain ⟨sameSource, sameTarget⟩ := ends_agree first firstToo
      obtain ⟨sameSources, sameTargets⟩ := inductionHypothesis restToo
      simp only [List.map_cons, sameSource, sameSources, sameTarget, sameTargets, and_self]

end Value
end Csp
