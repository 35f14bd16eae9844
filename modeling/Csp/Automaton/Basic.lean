import Csp.Transition

/-!
# Deterministic automata

A transition list with a start state and final states is well formed when all
these states occur in it and no two of its positions carry the same state and
value. States that cannot be reached, and states from which no final state can
be reached, are admitted.

Three checks run one after the other, each naming the first offender in the
order of the list it reads: the start state, the final states, determinism.
-/
namespace Csp.Automaton

variable {ν α : Type}

/-- Why a transition list is not a deterministic automaton. Each names its offender, which a report
has to write. -/
inductive Fault (ν α : Type) where
  | unknownStart (state : ν)
  | unknownFinal (state : ν)
  | nonDeterministic (state : ν) (value : α)

/-- Two transitions that leave the same state on the same value. Where they lead does not matter, so
an exact duplicate competes with the first one. -/
def competes [BEq ν] [BEq α] (t u : Transition ν α) : Bool :=
  t.source == u.source && t.value == u.value

/-- The first transition that competes with an earlier one. The transitions that have been passed
are kept aside, the last one in front. -/
def firstCompeting [BEq ν] [BEq α] (earlier : List (Transition ν α)) :
    List (Transition ν α) → Option (Transition ν α)
  | [] => none
  | t :: later => if earlier.any (competes t) then some t else firstCompeting (t :: earlier) later

/-- The states of a transition list, provided that start and final states are among them. The start
state is looked up before the final states are. -/
def checkStates [BEq ν] (transitions : List (Transition ν α)) (start : ν) (finals : List ν) :
    Except (Fault ν α) (List ν) :=
  let states := Transition.nodes transitions
  if !states.contains start then .error (.unknownStart start)
  else match finals.find? (!states.contains ·) with
    | some state => .error (.unknownFinal state)
    | none => .ok states

/-- The states of a deterministic automaton, or the first fault. -/
def check [BEq ν] [BEq α] (transitions : List (Transition ν α)) (start : ν) (finals : List ν) :
    Except (Fault ν α) (List ν) :=
  match checkStates transitions start finals with
  | .error fault => .error fault
  | .ok states => match firstCompeting [] transitions with
    | some t => .error (.nonDeterministic t.source t.value)
    | none => .ok states

/-- The states of an automaton are the ends of its transitions. -/
theorem checkStates_ok [BEq ν] {transitions : List (Transition ν α)} {start : ν}
    {finals states : List ν} (known : checkStates transitions start finals = .ok states) :
    states = Transition.nodes transitions := by
  unfold checkStates at known
  simp only at known
  split at known
  · cases known
  · split at known
    · cases known
    · exact (Except.ok.inj known).symm

/-- An accepted automaton has no state beyond the ends of its transitions. -/
theorem check_ok [BEq ν] [BEq α] {transitions : List (Transition ν α)} {start : ν}
    {finals states : List ν} (accepted : check transitions start finals = .ok states) :
    states = Transition.nodes transitions := by
  unfold check at accepted
  split at accepted
  · cases accepted
  · rename_i known
    split at accepted
    · cases accepted
    · cases accepted
      exact checkStates_ok known

end Csp.Automaton

namespace Csp

/-- A deterministic automaton: its transitions have passed the check. The states are not stored,
since they are the ends of the transitions. -/
structure Automaton where
  transitions : List (Transition String Label)
  start : String
  finals : List String
  accepted : Automaton.check transitions start finals = .ok (Transition.nodes transitions)

namespace Automaton

/-- The states of an automaton. -/
def states (a : Automaton) : List String := Transition.nodes a.transitions

/-- The values that some transition reads. Truth values and integers of one number are one value. -/
def alphabet (a : Automaton) : List Label := Transition.values a.transitions

/-- The automaton that a transition list describes, or the first fault of the list. -/
def ofTransitions (transitions : List (Transition String Label)) (start : String)
    (finals : List String) : Except (Fault String Label) Automaton :=
  match outcome : check transitions start finals with
  | .error fault => .error fault
  | .ok _ => .ok ⟨transitions, start, finals, check_ok outcome ▸ outcome⟩

end Automaton
end Csp
