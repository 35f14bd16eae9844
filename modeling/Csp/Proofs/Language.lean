import Csp.Proofs.Walk
import Csp.Automaton.Basic
import Csp.Diagram.Basic

/-!
# The words that are read from a node

A constraint on a row of cells means a set of words: those that a walk reads on
its way to a final state of an automaton, or to the terminal of a diagram. Every
node has such a set of its own, and the transitions relate these sets by one
equation for each node: a word can be read from a node when its first number is
on a transition that leaves the node and the rest can be read from the target.

The equations have only one solution. Whoever names a set of words for every
node and checks the equations has named the sets of words that are read.
-/
namespace Csp

namespace Transition

variable {ν : Type} {transitions : List (Transition ν Label)} {IsLast : ν → Prop}

/-- A word that some walk reads from a node to one of the nodes at which a word may end. The walk
need not be the only one. -/
def Reads (transitions : List (Transition ν Label)) (IsLast : ν → Prop) (node : ν)
    (numbers : List Int) : Prop :=
  ∃ path last, Walk transitions node path last ∧ IsLast last ∧ word path = numbers

/-- The walk without a step reads the empty word. -/
theorem reads_nil {node : ν} : Reads transitions IsLast node [] ↔ IsLast node := by
  constructor
  · rintro ⟨path, last, walk, ends, silent⟩
    have none : path = [] := List.map_eq_nil_iff.mp silent
    subst none
    exact walk_nil.mp walk ▸ ends
  · intro ends
    exact ⟨[], node, .here node, ends, rfl⟩

/-- The first step of a walk reads the first number, and the walk goes on from its target. -/
theorem reads_cons {node : ν} {number : Int} {rest : List Int} :
    Reads transitions IsLast node (number :: rest) ↔
      ∃ t ∈ transitions, t.source = node ∧ t.value.value = number ∧
        Reads transitions IsLast t.target rest := by
  constructor
  · rintro ⟨path, last, walk, ends, spelled⟩
    cases walk with
    | here node => cases spelled
    | step t path last listed onward =>
      obtain ⟨first, others⟩ := List.cons.inj spelled
      exact ⟨t, listed, rfl, first, path, last, onward, ends, others⟩
  · rintro ⟨t, listed, rfl, rfl, path, last, onward, ends, rfl⟩
    exact ⟨t :: path, last, .step t path last listed onward, ends, rfl⟩

/-- A set of words for each node, related as the transitions relate the words that are read. -/
structure Solves (transitions : List (Transition ν Label)) (IsLast : ν → Prop)
    (language : ν → List Int → Prop) : Prop where
  ends : ∀ node, language node [] ↔ IsLast node
  reads : ∀ node number rest, language node (number :: rest) ↔
    ∃ t ∈ transitions, t.source = node ∧ t.value.value = number ∧ language t.target rest

/-- The words that are read are the only solution. The induction is on the word, so the sets may be
infinite and the walks may turn in circles. -/
theorem Solves.reads_iff {language : ν → List Int → Prop}
    (solves : Solves transitions IsLast language) (node : ν) (numbers : List Int) :
    Reads transitions IsLast node numbers ↔ language node numbers := by
  induction numbers generalizing node with
  | nil => rw [reads_nil, solves.ends]
  | cons number rest inductionHypothesis =>
    rw [reads_cons, solves.reads]
    simp only [inductionHypothesis]

end Transition

/-- A word that a run of an automaton reads from the start state to a final state. -/
def Automaton.Accepts (a : Automaton) (numbers : List Int) : Prop :=
  Transition.Reads a.transitions (· ∈ a.finals) a.start numbers

/-- A word that a walk through a diagram reads from the root to the terminal. -/
def Diagram.Accepts (d : Diagram) (numbers : List Int) : Prop :=
  Transition.Reads d.transitions (· = d.terminal) d.root numbers

end Csp
