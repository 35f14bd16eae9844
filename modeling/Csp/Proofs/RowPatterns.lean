import Csp.Example.RowPatterns
import Csp.Proofs.Language
import Mathlib.Algebra.Group.Nat.Even

/-!
# What the row patterns mean

The automaton for the clue "2 1" accepts the rows with a block of two ones, a
gap of zeros, and a single one, with any number of zeros at both ends. The
diagram for the parity accepts the rows of three cells, each zero or one, with
an even number of ones.

Both are shown by naming what remains to be read from each state or node: for
the clue, what is left of the pattern, and for the parity, how many cells are
left and whether they must have an odd number of ones. The dead end of the
diagram has no cell left and would need an odd number of ones in it.
-/
namespace Csp.RowPatterns

open Transition

/-- Transitions with integers for their values. -/
def labelled (transitions : List (String × Int × String)) : List (Transition String Label) :=
  transitions.map fun (source, value, target) => ⟨source, .int value, target⟩

/-- The equations of the transitions, read off the list of triples. A set that satisfies them for
every first number is a solution. -/
theorem solves_labelled {transitions : List (String × Int × String)} {IsLast : String → Prop}
    {language : String → List Int → Prop} (ends : ∀ node, language node [] ↔ IsLast node)
    (reads : ∀ node number rest, language node (number :: rest) ↔
      ∃ target, (node, number, target) ∈ transitions ∧ language target rest) :
    Solves (labelled transitions) IsLast language where
  ends := ends
  reads node number rest := by
    rw [reads]
    simp only [labelled, List.mem_map, Prod.exists]
    constructor
    · rintro ⟨target, listed, holds⟩
      exact ⟨_, ⟨node, number, target, listed, rfl⟩, rfl, rfl, holds⟩
    · rintro ⟨_, ⟨source, value, target, listed, rfl⟩, rfl, rfl, holds⟩
      exact ⟨target, listed, holds⟩

/-- The targets of a node and a number are found triple by triple. This turns the equations into one
case for each triple. -/
theorem exists_target_cons {transitions : List (String × Int × String)}
    {node source target : String} {number value : Int} {property : String → Prop} :
    (∃ next, (node, number, next) ∈ (source, value, target) :: transitions ∧ property next) ↔
      node = source ∧ number = value ∧ property target ∨
        ∃ next, (node, number, next) ∈ transitions ∧ property next := by
  simp only [List.mem_cons, Prod.mk.injEq, or_and_right, exists_or, and_assoc, exists_and_left,
    exists_eq_left]

/-- The clue is accepted by its maker, and the automaton has the transitions that were listed. -/
theorem clueConstraint_ok :
    ∃ c, clueConstraint = .ok c ∧ c.automaton.transitions = labelled clueTransitions ∧
      c.automaton.start = "a" ∧ c.automaton.finals = ["e"] :=
  ⟨_, rfl, rfl, rfl, rfl⟩

/-- The parity check is accepted by its maker. The check of its levels passes although one of its
nodes is a dead end. -/
theorem parityConstraint_ok :
    ∃ c, parityConstraint = .ok c ∧ c.diagram.transitions = labelled parityTransitions ∧
      c.diagram.root = "r" ∧ c.diagram.terminal = "t" :=
  ⟨_, rfl, rfl, rfl, rfl⟩

/-! ## The clue -/

/-- One number, and then a row with a property. -/
def Led (number : Int) (property : List Int → Prop) (row : List Int) : Prop :=
  ∃ rest, row = number :: rest ∧ property rest

/-- Any number of zeros, and then a row with a property. -/
def Padded (property : List Int → Prop) (row : List Int) : Prop :=
  ∃ zeros rest, row = List.replicate zeros 0 ++ rest ∧ property rest

section

variable {property : List Int → Prop} {number first : Int} {rest : List Int}

/-- A row without cells is led by no number. -/
@[simp] theorem not_led_nil : ¬ Led number property [] := by
  rintro ⟨_, impossible, _⟩
  cases impossible

/-- The first cell has to be the number, and what is left has to have the property. -/
@[simp] theorem led_cons :
    Led number property (first :: rest) ↔ first = number ∧ property rest := by
  constructor
  · rintro ⟨_, spelled, holds⟩
    obtain ⟨rfl, rfl⟩ := List.cons.inj spelled
    exact ⟨rfl, holds⟩
  · rintro ⟨rfl, holds⟩
    exact ⟨rest, rfl, holds⟩

/-- Of a row without cells, no zeros can be left out. -/
@[simp] theorem padded_nil : Padded property [] ↔ property [] := by
  constructor
  · rintro ⟨zeros, rest, spelled, holds⟩
    have none : rest = [] := (List.append_eq_nil_iff.mp spelled.symm).2
    exact none ▸ holds
  · intro holds
    exact ⟨0, [], rfl, holds⟩

/-- A row that begins with padding begins with a zero, unless the padding is empty. -/
theorem padded_cons :
    Padded property (first :: rest) ↔
      first = 0 ∧ Padded property rest ∨ property (first :: rest) := by
  constructor
  · rintro ⟨zeros, others, spelled, holds⟩
    cases zeros with
    | zero => exact .inr (spelled ▸ holds)
    | succ zeros =>
      obtain ⟨zero, padding⟩ := List.cons.inj spelled
      exact .inl ⟨zero, zeros, others, padding, holds⟩
  · rintro (⟨rfl, zeros, others, rfl, holds⟩ | holds)
    · exact ⟨zeros + 1, others, rfl, holds⟩
    · exact ⟨0, first :: rest, rfl, holds⟩

end

/-- Zeros up to the end. -/
def Blank : List Int → Prop := Padded (· = [])

/-- Zeros, the single one, and zeros up to the end. -/
def SingleOne : List Int → Prop := Padded (Led 1 Blank)

/-- The rows that the clue describes. -/
def Clue : List Int → Prop := Padded (Led 1 (Led 1 (Led 0 SingleOne)))

/-- What is left of the clue in each state. -/
def clueLeft : String → List Int → Prop
  | "a" => Clue
  | "b" => Led 1 (Led 0 SingleOne)
  | "c" => Led 0 SingleOne
  | "d" => SingleOne
  | "e" => Blank
  | _ => fun _ => False

/-- What is claimed to be left over at each state satisfies the equations of the automaton. Each
state reads zeros or ones only, so the cases are those of the first cell. -/
theorem clueLeft_solves : Solves (labelled clueTransitions) (· ∈ ["e"]) clueLeft := by
  apply solves_labelled
  · intro node
    unfold clueLeft
    split
    -- A name that no transition mentions belongs to no state.
    case h_6 => simp_all
    all_goals simp [Clue, SingleOne, Blank]
  · intro node number rest
    simp only [clueTransitions, exists_target_cons, List.not_mem_nil, false_and,
      exists_false, or_false]
    unfold clueLeft
    split
    case h_6 => simp_all
    all_goals simp [Clue, SingleOne, Blank, padded_cons]

/-- The clue in one piece. It is the form in which a reader of the clue would write it. -/
theorem clue_iff (row : List Int) :
    Clue row ↔ ∃ before gap after, 1 ≤ gap ∧
      row = List.replicate before 0 ++ [1, 1] ++ List.replicate gap 0 ++ [1] ++
        List.replicate after 0 := by
  constructor
  · rintro ⟨before, _, rfl, _, rfl, _, rfl, _, rfl, gap, _, rfl, _, rfl, after, _, rfl, rfl⟩
    refine ⟨before, gap + 1, after, by omega, ?_⟩
    simp [List.replicate_succ]
  · rintro ⟨before, gap, after, some, rfl⟩
    obtain ⟨gap, rfl⟩ := Nat.exists_eq_add_of_le' some
    refine ⟨before, _, ?_, _, rfl, _, rfl, _, rfl, gap, _, rfl, _, rfl, after, [], rfl, rfl⟩
    simp [List.replicate_succ]

/-! ## The parity -/

/-- A row of so many cells, each zero or one, with an even number of ones, or else an odd one. -/
def Parity (cells : Nat) (even : Bool) (row : List Int) : Prop :=
  row.length = cells ∧ (∀ number ∈ row, number = 0 ∨ number = 1) ∧
    (Even (row.count 1) ↔ even = true)

section

variable {cells : Nat} {even : Bool} {first : Int} {rest : List Int}

/-- Without cells, no cell is left to be read, and the number of ones is even. -/
@[simp] theorem parity_nil : Parity cells even [] ↔ cells = 0 ∧ even = true := by
  simp [Parity, eq_comm]

/-- A row with cells is longer than no cells at all. -/
@[simp] theorem not_parity_zero_cons : ¬ Parity 0 even (first :: rest) := by
  simp [Parity]

/-- A zero leaves the parity as it is, and a one turns it. Other numbers cannot come first. -/
theorem parity_succ_cons :
    Parity (cells + 1) even (first :: rest) ↔
      first = 0 ∧ Parity cells even rest ∨ first = 1 ∧ Parity cells (!even) rest := by
  have turned : (Even ((1 :: rest).count (1 : Int)) ↔ even = true) ↔
      (Even (rest.count 1) ↔ (!even) = true) := by
    rw [List.count_cons_self, Nat.even_add_one]
    cases even <;> simp
  simp only [Parity, List.length_cons, Nat.add_right_cancel_iff, List.forall_mem_cons]
  constructor
  · rintro ⟨count, ⟨rfl | rfl, binary⟩, parity⟩
    · exact .inl ⟨rfl, count, binary, by simpa using parity⟩
    · exact .inr ⟨rfl, count, binary, turned.mp parity⟩
  · rintro (⟨rfl, count, binary, parity⟩ | ⟨rfl, count, binary, parity⟩)
    · exact ⟨count, ⟨.inl rfl, binary⟩, by simpa using parity⟩
    · exact ⟨count, ⟨.inr rfl, binary⟩, turned.mpr parity⟩

end

/-- The rows that are left to be read from each node. -/
def parityLeft : String → List Int → Prop
  | "r" => Parity 3 true
  | "e1" => Parity 2 true
  | "o1" => Parity 2 false
  | "e2" => Parity 1 true
  | "o2" => Parity 1 false
  | "t" => Parity 0 true
  | "f" => Parity 0 false
  | _ => fun _ => False

/-- What is claimed to be left over at each node satisfies the equations of the diagram. From the
node without transitions no row is left to be read, since it has an odd number of ones behind it. -/
theorem parityLeft_solves : Solves (labelled parityTransitions) (· = "t") parityLeft := by
  apply solves_labelled
  · intro node
    unfold parityLeft
    split
    case h_8 => simp_all
    all_goals simp
  · intro node number rest
    simp only [parityTransitions, exists_target_cons, List.not_mem_nil, false_and,
      exists_false, or_false]
    unfold parityLeft
    split
    case h_8 => simp_all
    all_goals simp [parity_succ_cons]

/-- The automaton accepts the rows of the clue "2 1" and no others, and the diagram the rows of
three cells with an even number of ones and no others. -/
theorem patterns_exact :
    (∃ c, clueConstraint = .ok c ∧ ∀ row : List Int,
      c.automaton.Accepts row ↔
        ∃ before gap after, 1 ≤ gap ∧
          row = List.replicate before 0 ++ [1, 1] ++ List.replicate gap 0 ++ [1] ++
            List.replicate after 0) ∧
      ∃ c, parityConstraint = .ok c ∧ ∀ row : List Int,
        c.diagram.Accepts row ↔
          row.length = 3 ∧ (∀ number ∈ row, number = 0 ∨ number = 1) ∧ Even (row.count 1) := by
  constructor
  · obtain ⟨c, made, transitions, start, finals⟩ := clueConstraint_ok
    refine ⟨c, made, fun row => ?_⟩
    rw [Automaton.Accepts, transitions, start, finals, clueLeft_solves.reads_iff]
    exact clue_iff row
  · obtain ⟨c, made, transitions, root, terminal⟩ := parityConstraint_ok
    refine ⟨c, made, fun row => ?_⟩
    rw [Diagram.Accepts, transitions, root, terminal, parityLeft_solves.reads_iff]
    simp only [parityLeft, Parity, iff_true]

end Csp.RowPatterns
