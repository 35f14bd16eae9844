import Csp.Transition

/-!
# Walks along transitions

A walk takes transitions of a list one after the other, each from where the one
before it ended. It is recorded as the list of the transitions taken, so it has
a number of steps and may take a transition more than once.

A node that a walk leads back to is on a cycle. The two directions in which the
checks on graphs use cycles meet here: a walk of more steps than there are
sources leaves some source twice and so passes through a cycle, and from a cycle
there are walks of any number of steps.
-/
namespace Csp.Transition

variable {ν α : Type}

/-- A node that some transition leaves. -/
def IsSource (transitions : List (Transition ν α)) (node : ν) : Prop :=
  ∃ t ∈ transitions, t.source = node

/-- A node to which some transition leads. -/
def IsTarget (transitions : List (Transition ν α)) (node : ν) : Prop :=
  ∃ t ∈ transitions, t.target = node

/-- An endpoint of some transition. -/
def IsEnd (transitions : List (Transition ν α)) (node : ν) : Prop :=
  IsSource transitions node ∨ IsTarget transitions node

/-- The endpoints are the nodes that the checks collect. -/
theorem mem_nodes_iff_isEnd [BEq ν] [LawfulBEq ν] {transitions : List (Transition ν α)} {node : ν} :
    node ∈ nodes transitions ↔ IsEnd transitions node := by
  rw [mem_nodes]
  constructor
  · rintro ⟨t, listed, rfl | rfl⟩
    · exact .inl ⟨t, listed, rfl⟩
    · exact .inr ⟨t, listed, rfl⟩
  · rintro (⟨t, listed, rfl⟩ | ⟨t, listed, rfl⟩)
    · exact ⟨t, listed, .inl rfl⟩
    · exact ⟨t, listed, .inr rfl⟩

/-- A value is on some transition that leaves a node. Values are compared as the checks compare
them, so that a truth value is on a transition exactly when its number is. -/
def Offers [BEq α] (transitions : List (Transition ν α)) (node : ν) (value : α) : Prop :=
  ∃ t ∈ transitions, t.source = node ∧ (t.value == value) = true

/-- Two nodes have the same set of outgoing values. How many transitions carry a value does not
matter. -/
def SameOffers [BEq α] (transitions : List (Transition ν α)) (node other : ν) : Prop :=
  ∀ value, Offers transitions node value ↔ Offers transitions other value

/-- A walk from a node to a node, with the transitions that it takes. Transitions may be taken any
number of times. -/
inductive Walk (transitions : List (Transition ν α)) : ν → List (Transition ν α) → ν → Prop where
  | here (node : ν) : Walk transitions node [] node
  | step (t : Transition ν α) (path : List (Transition ν α)) (last : ν)
      (listed : t ∈ transitions) (onward : Walk transitions t.target path last) :
      Walk transitions t.source (t :: path) last

/-- Some walk of exactly so many steps leads from a node to a node. Which transitions it takes is
left open. -/
def WalkOf (transitions : List (Transition ν α)) (steps : Nat) (first last : ν) : Prop :=
  ∃ path, path.length = steps ∧ Walk transitions first path last

/-- Some walk leads from a node to a node; the walk without a step leads from a node to itself. -/
def Reachable (transitions : List (Transition ν α)) (first last : ν) : Prop :=
  ∃ steps, WalkOf transitions steps first last

/-- Some walk with a step leads from a node back to it. The cycle may pass through other nodes more
than once. -/
def OnCycle (transitions : List (Transition ν α)) (node : ν) : Prop :=
  ∃ steps, 0 < steps ∧ WalkOf transitions steps node node

/-- The numbers that are read along a path. -/
def word (path : List (Transition ν Label)) : List Int := path.map fun t => t.value.value

variable {transitions : List (Transition ν α)}

/-- Being a source is being listed as one. Repetitions do not matter. -/
theorem isSource_iff_mem {node : ν} :
    IsSource transitions node ↔ node ∈ transitions.map source :=
  List.mem_map.symm

/-- The same holds of targets. -/
theorem isTarget_iff_mem {node : ν} :
    IsTarget transitions node ↔ node ∈ transitions.map target :=
  List.mem_map.symm

/-- A node that offers a value has a transition. -/
theorem Offers.isSource [BEq α] {node : ν} {value : α} (has : Offers transitions node value) :
    IsSource transitions node := by
  obtain ⟨t, listed, left, _⟩ := has
  exact ⟨t, listed, left⟩

/-- A walk without transitions stays where it is. -/
@[simp] theorem walk_nil {first last : ν} : Walk transitions first [] last ↔ first = last := by
  constructor
  · intro walk
    cases walk
    rfl
  · rintro rfl
    exact .here first

/-- The first transition of a walk leaves its first node, and the rest goes on from where it
leads. -/
@[simp] theorem walk_cons {first last : ν} {t : Transition ν α} {path : List (Transition ν α)} :
    Walk transitions first (t :: path) last ↔
      t ∈ transitions ∧ t.source = first ∧ Walk transitions t.target path last := by
  constructor
  · intro walk
    cases walk with
    | step _ _ _ listed onward => exact ⟨listed, rfl, onward⟩
  · rintro ⟨listed, rfl, onward⟩
    exact .step t path last listed onward

/-- Walks can be put together where one ends and the other begins. -/
theorem Walk.append {first middle last : ν} {path next : List (Transition ν α)}
    (walk : Walk transitions first path middle) (onward : Walk transitions middle next last) :
    Walk transitions first (path ++ next) last := by
  induction walk with
  | here node => exact onward
  | step t path middle listed _ inductionHypothesis =>
    exact .step t (path ++ next) last listed (inductionHypothesis onward)

/-- A walk can be taken apart after any of its steps. -/
theorem Walk.split {first last : ν} {path next : List (Transition ν α)}
    (walk : Walk transitions first (path ++ next) last) :
    ∃ middle, Walk transitions first path middle ∧ Walk transitions middle next last := by
  induction path generalizing first with
  | nil => exact ⟨first, .here first, walk⟩
  | cons t path inductionHypothesis =>
    obtain ⟨listed, left, onward⟩ := walk_cons.mp walk
    obtain ⟨middle, front, back⟩ := inductionHypothesis onward
    exact ⟨middle, walk_cons.mpr ⟨listed, left, front⟩, back⟩

/-- In no steps, a walk comes nowhere. -/
theorem walkOf_zero {first last : ν} : WalkOf transitions 0 first last ↔ first = last := by
  constructor
  · rintro ⟨path, none, walk⟩
    rw [List.length_eq_zero_iff] at none
    subst none
    exact walk_nil.mp walk
  · rintro rfl
    exact ⟨[], rfl, .here first⟩

/-- Each transition is a walk of one step. -/
theorem walkOf_one {t : Transition ν α} (listed : t ∈ transitions) :
    WalkOf transitions 1 t.source t.target :=
  ⟨[t], rfl, .step t [] t.target listed (.here t.target)⟩

/-- A walk of a sum of steps is a walk of the one number and then one of the other. The node where
the two meet is not determined. -/
theorem walkOf_add {first last : ν} (steps more : Nat) :
    WalkOf transitions (steps + more) first last ↔
      ∃ middle, WalkOf transitions steps first middle ∧ WalkOf transitions more middle last := by
  constructor
  · rintro ⟨path, length, walk⟩
    rw [← List.take_append_drop steps path] at walk
    obtain ⟨middle, front, back⟩ := walk.split
    exact ⟨middle, ⟨path.take steps, by simp [length], front⟩,
      ⟨path.drop steps, by simp [length], back⟩⟩
  · rintro ⟨middle, ⟨path, length, front⟩, ⟨next, nextLength, back⟩⟩
    exact ⟨path ++ next, by simp [length, nextLength], front.append back⟩

/-- The last step of a walk is a transition that leaves the node before it. Inductions that follow
the levels take walks apart at this end. -/
theorem walkOf_succ {first last : ν} {steps : Nat} :
    WalkOf transitions (steps + 1) first last ↔
      ∃ t ∈ transitions, WalkOf transitions steps first t.source ∧ t.target = last := by
  rw [walkOf_add]
  constructor
  · rintro ⟨middle, front, path, length, back⟩
    obtain ⟨t, rfl⟩ := List.length_eq_one_iff.mp length
    obtain ⟨listed, rfl, onward⟩ := walk_cons.mp back
    exact ⟨t, listed, front, walk_nil.mp onward⟩
  · rintro ⟨t, listed, front, rfl⟩
    exact ⟨t.source, front, walkOf_one listed⟩

/-- Every node can be reached from itself, in no steps. -/
theorem Reachable.refl (node : ν) : Reachable transitions node node :=
  ⟨0, walkOf_zero.mpr rfl⟩

/-- What can be reached can be reached with one more transition. -/
theorem Reachable.step {first : ν} {t : Transition ν α}
    (reached : Reachable transitions first t.source) (listed : t ∈ transitions) :
    Reachable transitions first t.target := by
  obtain ⟨steps, walk⟩ := reached
  exact ⟨steps + 1, walkOf_succ.mpr ⟨t, listed, walk, rfl⟩⟩

/-- A node other than the first can be reached only if some transition leads to it. -/
theorem Reachable.isTarget {first last : ν} (reached : Reachable transitions first last)
    (other : last ≠ first) : IsTarget transitions last := by
  obtain ⟨steps, walk⟩ := reached
  cases steps with
  | zero => exact absurd (walkOf_zero.mp walk).symm other
  | succ steps =>
    obtain ⟨t, listed, _, arrived⟩ := walkOf_succ.mp walk
    exact ⟨t, listed, arrived⟩

/-- The nodes that a walk leaves are sources. The last node need not be one. -/
theorem Walk.isSource {first last : ν} {path : List (Transition ν α)}
    (walk : Walk transitions first path last) :
    ∀ node ∈ path.map source, IsSource transitions node := by
  induction walk with
  | here node => simp
  | step t path last listed _ inductionHypothesis =>
    intro node left
    rcases List.mem_cons.mp left with rfl | later
    · exact ⟨t, listed, rfl⟩
    · exact inductionHypothesis node later

/-- A walk that leaves a node twice passes through a cycle. The first node that the walk leaves
either comes back later on, or the rest of the walk leaves a node twice. -/
theorem Walk.passes_cycle {first last : ν} {path : List (Transition ν α)}
    (walk : Walk transitions first path last) (twice : ¬ (path.map source).Nodup) :
    ∃ node, Reachable transitions first node ∧ OnCycle transitions node := by
  induction walk with
  | here node => exact absurd List.nodup_nil twice
  | step t path last listed onward inductionHypothesis =>
    by_cases back : t.source ∈ path.map source
    · obtain ⟨u, member, same⟩ := List.mem_map.mp back
      obtain ⟨before, after, rfl⟩ := List.append_of_mem member
      obtain ⟨middle, front, rest⟩ := onward.split
      obtain ⟨_, returned, _⟩ := walk_cons.mp rest
      rw [← returned, same] at front
      refine ⟨t.source, ⟨0, walkOf_zero.mpr rfl⟩, before.length + 1, Nat.succ_pos _, ?_⟩
      exact ⟨t :: before, rfl, .step t before t.source listed front⟩
    · have later : ¬ (path.map source).Nodup := fun unique =>
        twice (List.nodup_cons.mpr ⟨back, unique⟩)
      obtain ⟨node, ⟨steps, reached⟩, cycle⟩ := inductionHypothesis later
      refine ⟨node, ⟨1 + steps, ?_⟩, cycle⟩
      exact (walkOf_add 1 steps).mpr ⟨t.target, walkOf_one listed, reached⟩

/-- Among more steps than there are sources, two leave the same source. Between these two, the walk
goes in a circle. -/
theorem cycle_of_long_walk [BEq ν] [LawfulBEq ν] {first last : ν} {steps : Nat}
    (walk : WalkOf transitions steps first last) (long : (sources transitions).length < steps) :
    ∃ node, Reachable transitions first node ∧ OnCycle transitions node := by
  obtain ⟨path, length, walk⟩ := walk
  apply walk.passes_cycle
  intro unique
  have covered : path.map source ⊆ sources transitions := fun node left =>
    mem_sources.mpr (walk.isSource node left)
  have bound := unique.length_le_of_subset covered
  rw [List.length_map, length] at bound
  omega

/-- A node on a cycle is left by the first step of it. -/
theorem OnCycle.isSource {node : ν} (cycle : OnCycle transitions node) :
    IsSource transitions node := by
  obtain ⟨length, positive, path, count, walk⟩ := cycle
  cases path with
  | nil =>
    rw [← count] at positive
    exact absurd positive (Nat.lt_irrefl 0)
  | cons t rest =>
    obtain ⟨listed, left, _⟩ := walk_cons.mp walk
    exact ⟨t, listed, left⟩

/-- A cycle can be gone through any number of times. So there are walks of any length from it. -/
theorem OnCycle.repeated {node : ν} (cycle : OnCycle transitions node) (rounds : Nat) :
    ∃ steps, rounds ≤ steps ∧ WalkOf transitions steps node node := by
  obtain ⟨length, positive, round⟩ := cycle
  induction rounds with
  | zero => exact ⟨0, Nat.le_refl 0, walkOf_zero.mpr rfl⟩
  | succ rounds inductionHypothesis =>
    obtain ⟨steps, enough, walk⟩ := inductionHypothesis
    exact ⟨steps + length, by omega, (walkOf_add steps length).mpr ⟨node, walk, round⟩⟩

/-- A node from which a cycle is reachable begins walks of any number of steps. The bound on the
number of levels is exceeded by one of them. -/
theorem long_walk_of_cycle {first node : ν} (reached : Reachable transitions first node)
    (cycle : OnCycle transitions node) (steps : Nat) :
    ∃ last, WalkOf transitions steps first last := by
  obtain ⟨approach, walk⟩ := reached
  obtain ⟨rounds, enough, round⟩ := cycle.repeated steps
  have whole : WalkOf transitions (steps + (approach + rounds - steps)) first node := by
    rw [Nat.add_sub_of_le (by omega)]
    exact (walkOf_add approach rounds).mpr ⟨node, walk, round⟩
  obtain ⟨last, front, _⟩ := (walkOf_add steps _).mp whole
  exact ⟨last, front⟩

end Csp.Transition
