import Csp.Proofs.Automaton.Acceptance

/-!
# Runs of a deterministic automaton

A run is a walk from the start state, and the numbers on its transitions are the
word that it reads. Where no two transitions share state and value, the state
and the next number tell the next transition, so a word tells the whole run.
-/
namespace Csp.Automaton

open Transition

variable {ν : Type} {transitions : List (Transition ν Label)}

/-- A deterministic list holds one transition at most for a state and a number. Two of them would
stand at different places and compete, or be one and the same. -/
theorem Deterministic.eq_of_samePair (distinct : Deterministic transitions)
    {t u : Transition ν Label} (listed : t ∈ transitions) (listedToo : u ∈ transitions)
    (source : t.source = u.source) (number : t.value.value = u.value.value) : t = u := by
  have symmetric : Std.Symm fun t u : Transition ν Label => ¬ SamePair t u :=
    ⟨fun _ _ apart same => apart ⟨same.1.symm, BEq.symm same.2⟩⟩
  by_contra other
  have apart : ¬ SamePair t u := List.Pairwise.forall distinct listed listedToo other
  exact apart ⟨source, (Label.beq_iff _ _).mpr number⟩

/-- A word is read along one run at most. The induction is on the word: its first value decides the
first transition, and with it the state from which the rest is read. -/
theorem Deterministic.run_unique (distinct : Deterministic transitions) {first last other : ν}
    {path next : List (Transition ν Label)} (walk : Walk transitions first path last)
    (walkToo : Walk transitions first next other) (sameWord : word path = word next) :
    path = next ∧ last = other := by
  induction walk generalizing next with
  | here node =>
    have none : next = [] := List.map_eq_nil_iff.mp sameWord.symm
    subst none
    exact ⟨rfl, walk_nil.mp walkToo⟩
  | step t path last listed _ inductionHypothesis =>
    cases next with
    | nil => cases sameWord
    | cons u next =>
      -- Both runs leave the same state on the same number, so they take the same transition.
      obtain ⟨number, sameRest⟩ := List.cons.inj sameWord
      obtain ⟨listedToo, source, onward⟩ := walk_cons.mp walkToo
      have same : u = t := distinct.eq_of_samePair listedToo listed source number.symm
      subst same
      obtain ⟨rest, ends⟩ := inductionHypothesis onward sameRest
      exact ⟨congrArg (u :: ·) rest, ends⟩

end Csp.Automaton

namespace Csp

open Transition

/-- The start state and the final states of an automaton are endpoints of its transitions, and the
transitions are deterministic. -/
theorem Automaton.deterministic (a : Automaton) :
    IsEnd a.transitions a.start ∧ (∀ state ∈ a.finals, IsEnd a.transitions state) ∧
      Deterministic a.transitions := by
  have accepted := a.accepted
  rcases check_cases a.transitions a.start a.finals with
    ⟨_, outcome⟩ | ⟨_, _, _, outcome⟩ | ⟨_, _, _, _, outcome⟩ | ⟨known, allKnown, distinct, _⟩
  · rw [outcome] at accepted
    cases accepted
  · rw [outcome] at accepted
    cases accepted
  · rw [outcome] at accepted
    cases accepted
  · exact ⟨known, allKnown, distinct⟩

end Csp
