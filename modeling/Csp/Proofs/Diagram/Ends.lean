import Csp.Diagram.Basic
import Csp.Proofs.Distinct
import Csp.Proofs.Walk

/-!
# The ends of a diagram

A transition list has two kinds of ends: nodes that are only ever a source and
nodes that are only ever a target. The check of a diagram asks one thing of its
root and its terminal, namely that they are ends of these two kinds, and the
search for the ends of a diagram lists all that there are. So the search
succeeds exactly when one pair of nodes passes the check, and returns that pair.
-/
namespace Csp.Diagram

open Transition

variable {ν α : Type}

/-- Only ever a source. The node has to be a source at least, so what no transition mentions is no
root. -/
def IsRoot (transitions : List (Transition ν α)) (node : ν) : Prop :=
  IsSource transitions node ∧ ¬ IsTarget transitions node

/-- Only ever a target. The node has to be a target at least. -/
def IsTerminal (transitions : List (Transition ν α)) (node : ν) : Prop :=
  IsTarget transitions node ∧ ¬ IsSource transitions node

/-- Which of its three outcomes the search has is told by the two lists of candidates. The
candidates for the terminal are not looked at before there is one root. -/
theorem findEnds_eq [BEq ν] (transitions : List (Transition ν α)) :
    (∃ root terminal, rootCandidates transitions = [root] ∧
        terminalCandidates transitions = [terminal] ∧
        findEnds transitions = .ok (root, terminal)) ∨
      ((rootCandidates transitions).length ≠ 1 ∧
        findEnds transitions = .error (.root (rootCandidates transitions).length)) ∨
      ((rootCandidates transitions).length = 1 ∧
        (terminalCandidates transitions).length ≠ 1 ∧
        findEnds transitions = .error (.terminal (terminalCandidates transitions).length)) := by
  unfold findEnds
  split
  · rename_i root roots
    split
    · rename_i terminal terminals
      exact .inl ⟨root, terminal, roots, terminals, rfl⟩
    · rename_i several
      refine .inr (.inr ⟨by rw [roots]; rfl, fun single => ?_, rfl⟩)
      obtain ⟨terminal, terminals⟩ := List.length_eq_one_iff.mp single
      exact several terminal terminals
  · rename_i several
    refine .inr (.inl ⟨fun single => ?_, rfl⟩)
    obtain ⟨root, roots⟩ := List.length_eq_one_iff.mp single
    exact several root roots

/-- The search finds a pair only where each of the two is the only candidate. -/
theorem findEnds_candidates [BEq ν] {transitions : List (Transition ν α)} {ends : ν × ν}
    (found : findEnds transitions = .ok ends) :
    rootCandidates transitions = [ends.1] ∧ terminalCandidates transitions = [ends.2] := by
  rcases findEnds_eq transitions with
    ⟨root, terminal, roots, terminals, outcome⟩ | ⟨_, outcome⟩ | ⟨_, _, outcome⟩
  · rw [outcome] at found
    cases found
    exact ⟨roots, terminals⟩
  · rw [outcome] at found
    cases found
  · rw [outcome] at found
    cases found

variable [BEq ν] [LawfulBEq ν] {transitions : List (Transition ν α)}

/-- The list of sources is searched with a lawful equality, so the search finds exactly the
sources. -/
theorem sources_contains {node : ν} :
    (sources transitions).contains node = true ↔ IsSource transitions node := by
  rw [List.contains_iff_mem, mem_sources]
  rfl

/-- The same holds of the targets. -/
theorem targets_contains {node : ν} :
    (targets transitions).contains node = true ↔ IsTarget transitions node := by
  rw [List.contains_iff_mem, mem_targets]
  rfl

/-- The four conditions on the ends hold exactly of a root and a terminal. The order in which they
are tested only decides which fault is named. -/
theorem checkEnds_ok_iff {root terminal : ν} :
    checkEnds transitions root terminal = .ok () ↔
      IsRoot transitions root ∧ IsTerminal transitions terminal := by
  unfold checkEnds IsRoot IsTerminal
  simp only [← sources_contains, ← targets_contains]
  cases (sources transitions).contains root <;> cases (targets transitions).contains root <;>
    cases (sources transitions).contains terminal <;>
    cases (targets transitions).contains terminal <;> simp

/-- The five outcomes of the check of the ends, each with the condition under which it is the
outcome. -/
theorem checkEnds_cases (transitions : List (Transition ν α)) (root terminal : ν) :
    (¬ IsSource transitions root ∧
        checkEnds transitions root terminal = .error (.unknownRoot root)) ∨
      (IsSource transitions root ∧ IsTarget transitions root ∧
        checkEnds transitions root terminal = .error (.rootIsTarget root)) ∨
      (IsRoot transitions root ∧ ¬ IsTarget transitions terminal ∧
        checkEnds transitions root terminal = .error (.unknownTerminal terminal)) ∨
      (IsRoot transitions root ∧ IsTarget transitions terminal ∧ IsSource transitions terminal ∧
        checkEnds transitions root terminal = .error (.terminalIsSource terminal)) ∨
      (IsRoot transitions root ∧ IsTerminal transitions terminal ∧
        checkEnds transitions root terminal = .ok ()) := by
  unfold checkEnds IsRoot IsTerminal
  simp only [← sources_contains, ← targets_contains]
  cases (sources transitions).contains root <;> cases (targets transitions).contains root <;>
    cases (sources transitions).contains terminal <;>
    cases (targets transitions).contains terminal <;> simp

/-! ## Counting

The two lists of counts are read by looking nodes up in them. No node has two counts, so the nodes
with the count zero are those for which zero is found.
-/

/-- The keys stay where they are, and a new one comes last. -/
theorem keys_raise (node : ν) (amount : Nat) (counts : List (ν × Nat)) :
    (raise node amount counts).map (·.1) =
      if node ∈ counts.map (·.1) then counts.map (·.1) else (counts.map (·.1)).concat node := by
  induction counts with
  | nil => simp [raise]
  | cons entry rest inductionHypothesis =>
    rw [raise]
    by_cases here : entry.1 = node
    · simp [here]
    · have elsewhere : node ≠ entry.1 := Ne.symm here
      by_cases later : node ∈ rest.map (·.1)
      · simp [here, inductionHypothesis, later]
      · simp [here, elsewhere, inductionHypothesis, later]

/-- Counting gives no node a second count. -/
theorem nodup_keys_raise {counts : List (ν × Nat)} (once : (counts.map (·.1)).Nodup) (node : ν)
    (amount : Nat) : ((raise node amount counts).map (·.1)).Nodup := by
  rw [keys_raise]
  split
  · exact once
  · rename_i fresh
    exact List.Nodup.concat fresh once

/-- Only the count of the node that is named changes. It starts from zero if there was none. -/
theorem lookup_raise (node other : ν) (amount : Nat) (counts : List (ν × Nat)) :
    (raise node amount counts).lookup other =
      if other == node then some ((counts.lookup other).getD 0 + amount)
      else counts.lookup other := by
  induction counts with
  | nil => cases same : other == node <;> simp [raise, List.lookup_cons, same]
  | cons entry rest inductionHypothesis =>
    obtain ⟨key, number⟩ := entry
    rw [raise]
    by_cases here : key = node
    · subst here
      cases same : other == key <;> simp [List.lookup_cons, same]
    · by_cases same : other = key
      · subst same
        simp [here]
      · have differs : (other == key) = false := beq_false_of_ne same
        simp [List.lookup_cons, here, differs, inductionHypothesis]

omit [BEq ν] [LawfulBEq ν] in
/-- Nodes are listed at most once if no node has two counts. -/
theorem nodup_uncounted {counts : List (ν × Nat)} (once : (counts.map (·.1)).Nodup) :
    (uncounted counts).Nodup :=
  once.sublist (List.filter_sublist.map _)

/-- A node is listed exactly if zero is found for it. -/
theorem mem_uncounted {counts : List (ν × Nat)} (once : (counts.map (·.1)).Nodup) {node : ν} :
    node ∈ uncounted counts ↔ counts.lookup node = some 0 := by
  induction counts with
  | nil => simp [uncounted]
  | cons entry rest inductionHypothesis =>
    obtain ⟨key, number⟩ := entry
    obtain ⟨fresh, onceLater⟩ := List.nodup_cons.mp once
    have later := inductionHypothesis onceLater
    rw [uncounted] at later ⊢
    by_cases same : node = key
    · subst same
      have absent : node ∉ (rest.filter (·.2 == 0)).map (·.1) := by
        intro listed
        exact fresh ((List.filter_sublist.map _).subset listed)
      by_cases zero : number = 0
      · simp [zero]
      · simp only [List.filter_cons, beq_iff_eq, zero, if_false, absent, List.lookup_cons,
          beq_self_eq_true, Option.some.injEq]
    · have differs : (node == key) = false := beq_false_of_ne same
      rw [List.lookup_cons, differs, ← later]
      by_cases zero : number = 0 <;> simp [zero, same]

/-- The counts over a list of transitions, of each of which one end is counted and the other one is
entered only: no node has two counts, every end has one, and it is the number of the transitions
whose counted end the node is. -/
structure Tallied (counted entered : Transition ν α → ν) (transitions : List (Transition ν α))
    (counts : List (ν × Nat)) : Prop where
  once : (counts.map (·.1)).Nodup
  exact (node : ν) : counts.lookup node =
    if transitions.any fun t => node == counted t || node == entered t
    then some (transitions.countP (node == counted ·)) else none

/-- One transition more is counted by adding one at its counted end and nothing at its other one. -/
theorem Tallied.step {counted entered : Transition ν α → ν} {counts : List (ν × Nat)}
    (tallied : Tallied counted entered transitions counts) (t : Transition ν α) :
    Tallied counted entered (transitions ++ [t])
      (raise (entered t) 0 (raise (counted t) 1 counts)) where
  once := nodup_keys_raise (nodup_keys_raise tallied.once _ _) _ _
  exact node := by
    have unmentioned : (transitions.any fun u => node == counted u || node == entered u) = false →
        transitions.countP (node == counted ·) = 0 := by
      intro absent
      rw [List.countP_eq_zero]
      intro u listed isCounted
      have present : (transitions.any fun u => node == counted u || node == entered u) = true :=
        List.any_eq_true.mpr ⟨u, listed, by rw [isCounted, Bool.true_or]⟩
      rw [absent] at present
      cases present
    rw [lookup_raise, lookup_raise, tallied.exact node, List.any_append, List.countP_append,
      List.countP_singleton]
    cases earlier : transitions.any fun u => node == counted u || node == entered u with
    | false =>
      rw [unmentioned earlier]
      cases atCounted : node == counted t <;> cases atEntered : node == entered t <;>
        simp [atCounted, atEntered]
    | true =>
      cases atCounted : node == counted t <;> cases atEntered : node == entered t <;>
        simp [atCounted, atEntered]

/-- Both sides are counted correctly. On the incoming side the targets are counted and the sources
are entered, and on the outgoing side it is the other way round. -/
theorem tallied_degrees (transitions : List (Transition ν α)) :
    Tallied target source transitions (degrees transitions).incoming ∧
      Tallied source target transitions (degrees transitions).outgoing := by
  induction transitions using List.reverseRecOn with
  | nil => exact ⟨⟨List.nodup_nil, fun _ => rfl⟩, ⟨List.nodup_nil, fun _ => rfl⟩⟩
  | append_singleton transitions t inductionHypothesis =>
    obtain ⟨incoming, outgoing⟩ := inductionHypothesis
    have counted : degrees (transitions ++ [t]) = (degrees transitions).count t := by
      rw [degrees, List.foldl_append]
      rfl
    rw [counted]
    exact ⟨incoming.step t, outgoing.step t⟩

/-- The nodes with the count zero are those that are entered and never counted. -/
theorem Tallied.mem_uncounted_iff {counted entered : Transition ν α → ν} {counts : List (ν × Nat)}
    (tallied : Tallied counted entered transitions counts) {node : ν} :
    node ∈ uncounted counts ↔
      (∃ t ∈ transitions, entered t = node) ∧ ¬ ∃ t ∈ transitions, counted t = node := by
  rw [mem_uncounted tallied.once, tallied.exact]
  constructor
  · intro zero
    split at zero
    · rename_i mentioned
      have never : transitions.countP (node == counted ·) = 0 := Option.some.inj zero
      rw [List.countP_eq_zero] at never
      obtain ⟨t, listed, isEnd⟩ := List.any_eq_true.mp mentioned
      have isEntered : (node == entered t) = true := by
        simpa only [never t listed, Bool.false_or] using isEnd
      refine ⟨⟨t, listed, (beq_iff_eq.mp isEntered).symm⟩, ?_⟩
      rintro ⟨u, listedToo, same⟩
      exact never u listedToo (beq_iff_eq.mpr same.symm)
    · cases zero
  · rintro ⟨⟨t, listed, rfl⟩, never⟩
    have mentioned : (transitions.any fun u => entered t == counted u || entered t == entered u) =
        true := List.any_eq_true.mpr ⟨t, listed, by rw [beq_self_eq_true, Bool.or_true]⟩
    have zero : transitions.countP (entered t == counted ·) = 0 := by
      rw [List.countP_eq_zero]
      intro u listedToo same
      exact never ⟨u, listedToo, (beq_iff_eq.mp same).symm⟩
    rw [if_pos mentioned, zero]

/-- The nodes with no transition counted into them are the roots: each has a count at all because it
is an end of some transition, which can then only be its source. -/
theorem mem_rootCandidates {node : ν} :
    node ∈ rootCandidates transitions ↔ IsRoot transitions node :=
  (tallied_degrees transitions).1.mem_uncounted_iff

/-- In the same way, the nodes with no transition counted out of them are the terminals. -/
theorem mem_terminalCandidates {node : ν} :
    node ∈ terminalCandidates transitions ↔ IsTerminal transitions node :=
  (tallied_degrees transitions).2.mem_uncounted_iff

/-- No root is listed twice, however many transitions leave it. So the number of candidates is that
of the roots. -/
theorem nodup_rootCandidates : (rootCandidates transitions).Nodup :=
  nodup_uncounted (tallied_degrees transitions).1.once

/-- Nor is a terminal listed twice, however many transitions lead to it. -/
theorem nodup_terminalCandidates : (terminalCandidates transitions).Nodup :=
  nodup_uncounted (tallied_degrees transitions).2.once

/-- Counting gives the nodes that are not among the targets, and those that are not among the
sources. The order may differ from that of first mention, in which the nodes are collected: on the
incoming side, the target of a transition is entered before its source. -/
theorem candidates_perm (transitions : List (Transition ν α)) :
    (rootCandidates transitions).Perm
        ((Transition.nodes transitions).filter (!(targets transitions).contains ·)) ∧
      (terminalCandidates transitions).Perm
        ((Transition.nodes transitions).filter (!(sources transitions).contains ·)) := by
  have nodes_once : (Transition.nodes transitions).Nodup := nodup_eraseDups _
  constructor
  · refine (List.perm_ext_iff_of_nodup nodup_rootCandidates
      (nodes_once.filter _)).mpr fun node => ?_
    rw [mem_rootCandidates, List.mem_filter, mem_nodes_iff_isEnd, Bool.not_eq_true',
      ← Bool.not_eq_true, targets_contains]
    exact (and_congr_left fun untargeted => or_iff_left untargeted).symm
  · refine (List.perm_ext_iff_of_nodup nodup_terminalCandidates
      (nodes_once.filter _)).mpr fun node => ?_
    rw [mem_terminalCandidates, List.mem_filter, mem_nodes_iff_isEnd, Bool.not_eq_true',
      ← Bool.not_eq_true, sources_contains]
    exact (and_congr_left fun unleft => or_iff_right unleft).symm

/-- The candidates are all the roots, each once, so their number is the number of roots. -/
theorem length_rootCandidates :
    (rootCandidates transitions).length = {node | IsRoot transitions node}.ncard :=
  length_eq_ncard nodup_rootCandidates fun _ => mem_rootCandidates

/-- The candidates are all the terminals, each once, so their number is the number of terminals. -/
theorem length_terminalCandidates :
    (terminalCandidates transitions).length = {node | IsTerminal transitions node}.ncard :=
  length_eq_ncard nodup_terminalCandidates fun _ => mem_terminalCandidates

/-- The search finds a pair exactly when the pair alone passes the check of the ends. So the search
and the check, which are written independently of each other, agree on what the ends are. -/
theorem findEnds_ok_iff {root terminal : ν} :
    findEnds transitions = .ok (root, terminal) ↔
      checkEnds transitions root terminal = .ok () ∧
        ∀ other last, checkEnds transitions other last = .ok () →
          other = root ∧ last = terminal := by
  simp only [checkEnds_ok_iff, ← mem_rootCandidates, ← mem_terminalCandidates]
  constructor
  · intro found
    obtain ⟨roots, terminals⟩ := findEnds_candidates found
    simp only [roots, terminals, List.mem_singleton, true_and]
    exact fun other last both => both
  · rintro ⟨⟨isRoot, isTerminal⟩, only⟩
    have roots : rootCandidates transitions = [root] :=
      eq_singleton_of_sole nodup_rootCandidates isRoot fun other member =>
        (only other terminal ⟨member, isTerminal⟩).1
    have terminals : terminalCandidates transitions = [terminal] :=
      eq_singleton_of_sole nodup_terminalCandidates isTerminal fun last member =>
        (only root last ⟨isRoot, member⟩).2
    simp only [findEnds, roots, terminals]

end Csp.Diagram
