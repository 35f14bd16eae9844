/-!
# Labelled transitions

An automaton and a decision diagram are both given by a list of transitions:
a source, the value that is read, and a target. The order of the list and the
repetitions in it are kept. Nodes and values are arbitrary; all that the graph
checks ask of them is whether two are equal.
-/
namespace Csp

/-- The value on a transition: an integer, or a truth value, which is kept as it was given
and counts as zero or one. -/
inductive Label where
  | int (n : Int)
  | bool (b : Bool)

namespace Label

/-- The number that a label stands for. -/
def value : Label → Int
  | .int n => n
  | .bool b => if b then 1 else 0

/-- Labels are compared by number, so the truth value `true` is the same label as the integer
one. -/
instance : BEq Label := ⟨fun a b => a.value == b.value⟩

/-- Equality of labels, spelled out. -/
theorem beq_iff (a b : Label) : (a == b) = true ↔ a.value = b.value := by
  change (a.value == b.value) = true ↔ a.value = b.value
  exact beq_iff_eq

instance : EquivBEq Label where
  rfl := (beq_iff _ _).2 rfl
  symm equal := (beq_iff _ _).2 ((beq_iff _ _).1 equal).symm
  trans first second := (beq_iff _ _).2 (((beq_iff _ _).1 first).trans ((beq_iff _ _).1 second))

end Label

/-- One transition. -/
structure Transition (ν α : Type) where
  source : ν
  value : α
  target : ν

namespace Transition

variable {ν α : Type}

/-- Both ends of a transition, the source first. -/
def ends (t : Transition ν α) : List ν := [t.source, t.target]

variable [BEq ν]

/-- Everything that is the source or the target of a transition, each once, in the order
of first mention. -/
def nodes (transitions : List (Transition ν α)) : List ν := (transitions.flatMap ends).eraseDups

/-- The sources, each once, in the order of first mention. The equality is that of nodes, so nodes
are compared as texts or as values. -/
def sources (transitions : List (Transition ν α)) : List ν := (transitions.map source).eraseDups

/-- The targets, each once, in the order of first mention. -/
def targets (transitions : List (Transition ν α)) : List ν := (transitions.map target).eraseDups

/-- The values, each once, in the order of first mention. -/
def values [BEq α] (transitions : List (Transition ν α)) : List α :=
  (transitions.map value).eraseDups

variable [LawfulBEq ν]

/-- A node is an end of some transition. -/
theorem mem_nodes {transitions : List (Transition ν α)} {node : ν} :
    node ∈ nodes transitions ↔ ∃ t ∈ transitions, node = t.source ∨ node = t.target := by
  simp [nodes, ends]

/-- A node is listed as a source exactly if some transition leaves it, however many do. -/
theorem mem_sources {transitions : List (Transition ν α)} {node : ν} :
    node ∈ sources transitions ↔ ∃ t ∈ transitions, t.source = node := by
  simp [sources]

/-- A node is listed as a target exactly if some transition leads to it. -/
theorem mem_targets {transitions : List (Transition ν α)} {node : ν} :
    node ∈ targets transitions ↔ ∃ t ∈ transitions, t.target = node := by
  simp [targets]

end Transition
end Csp
