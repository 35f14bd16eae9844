import Csp.Transition

/-!
# Decision diagrams

The root of a diagram is only ever a source and its terminal only ever a
target. Level zero holds the root; the next level holds the targets of the
transitions that leave a level, without the terminal. All nodes of a level that
are sources must offer the same values. A node without transitions is a dead
end and is not compared, and whether the terminal can be reached is not asked.

A walk of more steps than there are sources passes through some source twice,
so the expansion stops as soon as a level beyond that depth is not empty and
reports a cycle.

A document need not name the root and the terminal: the root is the one node to
which no transition leads and the terminal the one node that no transition
leaves. Both are found by counting. Zero or several candidates leave the choice
open and are refused, the root before the terminal.
-/
namespace Csp.Diagram

variable {ν α : Type}

/-- Why a transition list is not a decision diagram. -/
inductive Fault (ν : Type) where
  | unknownRoot (node : ν)
  | rootIsTarget (node : ν)
  | unknownTerminal (node : ν)
  | terminalIsSource (node : ν)
  | cyclic
  | inconsistentLevel (node : ν)

/-- The values on the transitions that leave a node. -/
def offered [BEq ν] (transitions : List (Transition ν α)) (node : ν) : List α :=
  (transitions.filter (·.source == node)).map (·.value)

/-- The nodes other than the terminal to which a transition leads from a node. A node that can be
reached by several transitions is listed several times. -/
def successors [BEq ν] (transitions : List (Transition ν α)) (terminal node : ν) : List ν :=
  (transitions.filter fun t => t.source == node && t.target != terminal).map (·.target)

/-- The level after a level. Each node stands on it once, in the order in which the transitions
mention it. -/
def nextLevel [BEq ν] (transitions : List (Transition ν α)) (terminal : ν) (level : List ν) :
    List ν :=
  (level.flatMap (successors transitions terminal)).eraseDups

/-- The values that some node of a level offers, each once. -/
def levelValues [BEq ν] [BEq α] (transitions : List (Transition ν α)) (level : List ν) : List α :=
  (level.flatMap (offered transitions)).eraseDups

/-- Whether a node is a source and does not offer all of the given values. Nodes without transitions
lack nothing. -/
def lacksValue [BEq ν] [BEq α] (transitions : List (Transition ν α)) (values : List α)
    (node : ν) : Bool :=
  let own := offered transitions node
  !own.isEmpty && values.any (!own.contains ·)

/-- Expands a level and those after it, as long as the bound on their number allows. The bound
counts the levels that may still come, and running out of it means a cycle. -/
def expand [BEq ν] [BEq α] (transitions : List (Transition ν α)) (terminal : ν) :
    (bound : Nat) → (level : List ν) → Except (Fault ν) (List (List ν))
  | _, [] => .ok []
  | 0, _ :: _ => .error .cyclic
  | bound + 1, node :: others =>
    let level := node :: others
    let values := levelValues transitions level
    match level.find? (lacksValue transitions values) with
    | some node => .error (.inconsistentLevel node)
    | none => (expand transitions terminal bound (nextLevel transitions terminal level)).map
        (level :: ·)

/-- The four conditions on the ends of a diagram, in the order in which they are reported. The first
of them that does not hold is the fault. -/
def checkEnds [BEq ν] (transitions : List (Transition ν α)) (root terminal : ν) :
    Except (Fault ν) Unit :=
  let sources := Transition.sources transitions
  let targets := Transition.targets transitions
  if !sources.contains root then .error (.unknownRoot root)
  else if targets.contains root then .error (.rootIsTarget root)
  else if !targets.contains terminal then .error (.unknownTerminal terminal)
  else if sources.contains terminal then .error (.terminalIsSource terminal)
  else .ok ()

/-- The levels of a decision diagram, or the first fault. The bound leaves room for one level more
than there are sources, which a level of dead ends can take. -/
def check [BEq ν] [BEq α] (transitions : List (Transition ν α)) (root terminal : ν) :
    Except (Fault ν) (List (List ν)) :=
  match checkEnds transitions root terminal with
  | .error fault => .error fault
  | .ok () =>
    expand transitions terminal ((Transition.sources transitions).length + 1) [root]

/-- The empty level ends the expansion whatever the bound. -/
@[simp] theorem expand_nil [BEq ν] [BEq α] (transitions : List (Transition ν α)) (terminal : ν)
    (bound : Nat) : expand transitions terminal bound [] = .ok [] := by
  cases bound <;> rfl

/-- Why a transition list does not determine the ends of a diagram. -/
inductive Ambiguity where
  | root (candidates : Nat)
  | terminal (candidates : Nat)
deriving DecidableEq

/-- Adds to the count of a node. A node without a count is entered, even if nothing is added. So the
list of counts also is the list of the nodes that were mentioned. -/
def raise [BEq ν] (node : ν) (amount : Nat) : List (ν × Nat) → List (ν × Nat)
  | [] => [(node, amount)]
  | entry :: rest =>
    if entry.1 == node then (entry.1, entry.2 + amount) :: rest else entry :: raise node amount rest

/-- How many transitions lead to each node, and how many leave it. -/
structure Degrees (ν : Type) where
  incoming : List (ν × Nat)
  outgoing : List (ν × Nat)

/-- Counts a transition. Each of its two ends also gets a count on the other side, where nothing is
added to it, so that every node has both counts. -/
def Degrees.count [BEq ν] (d : Degrees ν) (t : Transition ν α) : Degrees ν :=
  ⟨raise t.source 0 (raise t.target 1 d.incoming), raise t.target 0 (raise t.source 1 d.outgoing)⟩

/-- The counts over all transitions. The counts come in the order in which nodes are entered, which
is not that of first mention. -/
def degrees [BEq ν] (transitions : List (Transition ν α)) : Degrees ν :=
  transitions.foldl .count ⟨[], []⟩

/-- The nodes whose count is zero. -/
def uncounted (counts : List (ν × Nat)) : List ν := (counts.filter (·.2 == 0)).map (·.1)

/-- The nodes to which no transition leads. -/
def rootCandidates [BEq ν] (transitions : List (Transition ν α)) : List ν :=
  uncounted (degrees transitions).incoming

/-- The nodes that no transition leaves. -/
def terminalCandidates [BEq ν] (transitions : List (Transition ν α)) : List ν :=
  uncounted (degrees transitions).outgoing

/-- The root and the terminal of a diagram, where each is the only candidate. The root is looked for
first, so two roots are reported even if there are two terminals too. -/
def findEnds [BEq ν] (transitions : List (Transition ν α)) : Except Ambiguity (ν × ν) :=
  match rootCandidates transitions with
  | [root] => match terminalCandidates transitions with
    | [terminal] => .ok (root, terminal)
    | candidates => .error (.terminal candidates.length)
  | candidates => .error (.root candidates.length)

end Csp.Diagram

namespace Csp

/-- A decision diagram with its levels. The levels are those that the check has returned, which the
last field remembers. -/
structure Diagram where
  transitions : List (Transition String Label)
  root : String
  terminal : String
  levels : List (List String)
  accepted : Diagram.check transitions root terminal = .ok levels

namespace Diagram

/-- Every node of a diagram, reachable or not. -/
def nodes (d : Diagram) : List String := Transition.nodes d.transitions

/-- The diagram that a transition list describes, or the first fault of the list. -/
def ofTransitions (transitions : List (Transition String Label)) (root terminal : String) :
    Except (Fault String) Diagram :=
  match outcome : check transitions root terminal with
  | .error fault => .error fault
  | .ok levels => .ok ⟨transitions, root, terminal, levels, outcome⟩

end Diagram
end Csp
