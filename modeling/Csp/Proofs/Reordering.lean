import Csp.Proofs.Diagram.Inference
import Csp.Proofs.Rules

/-!
# Transitions in another order

The checks go through transition lists in their order, collect nodes in the
order of first mention and stop at the first offender. What they decide does not
depend on that order. A diagram is even a set of triples: repetitions, and a
truth value in the place of its number, change neither the verdict nor the
levels nor the ends that are found. For an automaton repetitions matter, since
each is a clash of its own, so there the lists are permutations of each other.

The verdicts are compared by the rules that decide them: these are conditions
on which triples are listed, and for determinism on pairs of positions. Which
node or which transition a message names depends on the order all the same. So
where a final state or a value cannot be written, the order decides whether a
report is about this one, and fails, or about another one.
-/
namespace Csp

open Transition

variable {ν α β : Type}

namespace Transition

/-- Some transition of the list has these ends, and a value that is equal to this one. The truth
value and the integer of one number are not told apart. -/
def HasTriple [BEq α] (transitions : List (Transition ν α)) (source : ν) (value : α) (target : ν) :
    Prop :=
  ∃ t ∈ transitions, t.source = source ∧ (t.value == value) = true ∧ t.target = target

/-- Two lists hold the same set of triples, in any order and with any repetitions. Neither list
needs to be a permutation of the other one. -/
def SameTriples [BEq α] (transitions others : List (Transition ν α)) : Prop :=
  ∀ source value target,
    HasTriple transitions source value target ↔ HasTriple others source value target

section Triples

variable [BEq α] {transitions others : List (Transition ν α)}

/-- What a node offers can be read off the triples. The label may be given in another way there,
which equality of labels does not see. -/
theorem offers_iff_hasTriple {node : ν} {value : α} :
    Offers transitions node value ↔ ∃ target, HasTriple transitions node value target := by
  constructor
  · rintro ⟨t, listed, left, equal⟩
    exact ⟨t.target, t, listed, left, equal, rfl⟩
  · rintro ⟨_, t, listed, left, equal, _⟩
    exact ⟨t, listed, left, equal⟩

section Read

variable [EquivBEq α]

/-- So can whether it is a source. -/
theorem isSource_iff_hasTriple {node : ν} :
    IsSource transitions node ↔ ∃ value target, HasTriple transitions node value target := by
  constructor
  · rintro ⟨t, listed, left⟩
    exact ⟨t.value, t.target, t, listed, left, BEq.rfl, rfl⟩
  · rintro ⟨_, _, t, listed, left, _⟩
    exact ⟨t, listed, left⟩

/-- And so can whether it is a target. -/
theorem isTarget_iff_hasTriple {node : ν} :
    IsTarget transitions node ↔ ∃ source value, HasTriple transitions source value node := by
  constructor
  · rintro ⟨t, listed, arrived⟩
    exact ⟨t.source, t.value, t, listed, rfl, BEq.rfl, arrived⟩
  · rintro ⟨_, _, t, listed, _, _, arrived⟩
    exact ⟨t, listed, arrived⟩

/-- A walk does not tell which of the transitions between two nodes it took last. So the steps of a
walk can be followed in any list with the same triples. -/
theorem walkOf_succ_iff_hasTriple {first last : ν} {steps : Nat} :
    WalkOf transitions (steps + 1) first last ↔
      ∃ node value, WalkOf transitions steps first node ∧
        HasTriple transitions node value last := by
  rw [walkOf_succ]
  constructor
  · rintro ⟨t, listed, walk, arrived⟩
    exact ⟨t.source, t.value, walk, t, listed, rfl, BEq.rfl, arrived⟩
  · rintro ⟨_, _, walk, t, listed, rfl, _, arrived⟩
    exact ⟨t, listed, walk, arrived⟩

end Read

namespace SameTriples

/-- Lists with the same triples offer the same values at each node. -/
theorem offers (same : SameTriples transitions others) (node : ν) (value : α) :
    Offers transitions node value ↔ Offers others node value := by
  rw [offers_iff_hasTriple, offers_iff_hasTriple]
  exact exists_congr fun target => same node value target

variable [EquivBEq α]

/-- They have the same sources. -/
theorem isSource (same : SameTriples transitions others) (node : ν) :
    IsSource transitions node ↔ IsSource others node := by
  rw [isSource_iff_hasTriple, isSource_iff_hasTriple]
  exact exists_congr fun value => exists_congr fun target => same node value target

/-- They have the same targets. -/
theorem isTarget (same : SameTriples transitions others) (node : ν) :
    IsTarget transitions node ↔ IsTarget others node := by
  rw [isTarget_iff_hasTriple, isTarget_iff_hasTriple]
  exact exists_congr fun source => exists_congr fun value => same source value node

/-- They have walks of the same lengths between the same nodes, although a walk takes different
transitions in each. -/
theorem walkOf (same : SameTriples transitions others) (steps : Nat) (first last : ν) :
    WalkOf transitions steps first last ↔ WalkOf others steps first last := by
  induction steps generalizing last with
  | zero => rw [walkOf_zero, walkOf_zero]
  | succ steps inductionHypothesis =>
    rw [walkOf_succ_iff_hasTriple, walkOf_succ_iff_hasTriple]
    simp only [inductionHypothesis, same _ _ _]

end SameTriples

end Triples

end Transition

namespace Diagram

/-- The rules of a diagram read nothing but its set of triples. Each rule is equivalent in both
lists, as a statement about sources, targets, values and walks. -/
theorem rules_of_sameTriples [BEq α] [EquivBEq α] {transitions others : List (Transition ν α)}
    (same : SameTriples transitions others) (root terminal : ν) :
    rules transitions root terminal = rules others root terminal := by
  unfold rules Uneven atDepth SameOffers Reachable OnCycle
  simp only [same.isSource, same.isTarget, same.offers, same.walkOf]

/-- Two lists with the same set of triples have the same verdict and the same levels. Which node a
fault names may depend on the order, and its rule does not. -/
theorem sameVerdict_of_sameTriples {transitions others : List (Transition String Label)}
    (same : SameTriples transitions others) (root terminal : String) :
    SameVerdict SameLevels (checkNamed transitions root terminal)
      (checkNamed others root terminal) := by
  have decided : DecidedBy (checkNamed transitions root terminal) (rules others root terminal) := by
    rw [← rules_of_sameTriples same]
    exact decidedBy_checkNamed transitions root terminal
  have decidedToo := decidedBy_checkNamed others root terminal
  apply decided.sameVerdict decidedToo (rules_named others root terminal)
  intro returned returnedToo accepted acceptedToo
  obtain ⟨levels, checked, rfl⟩ := checkNamed_eq_ok.mp accepted
  obtain ⟨levelsToo, checkedToo, rfl⟩ := checkNamed_eq_ok.mp acceptedToo
  have sameLevels : SameLevels levels levelsToo :=
    (layers_of_accepted checked).sameLevels (layers_of_accepted checkedToo)
      fun steps node => same.walkOf steps root node
  exact sameLevels.map Value.text

section Search

variable [BEq ν] [LawfulBEq ν] {transitions : List (Transition ν α)}
variable {others : List (Transition ν β)}

/-- The search for the ends of a diagram goes by its sources and its targets alone. The candidates
are found in another order, but a candidate is returned only where there is one, and a message
tells only how many there are. -/
theorem findEnds_congr (sources : ∀ node, IsSource transitions node ↔ IsSource others node)
    (targets : ∀ node, IsTarget transitions node ↔ IsTarget others node) :
    findEnds transitions = findEnds others := by
  have roots : (rootCandidates transitions).Perm (rootCandidates others) := by
    refine (List.perm_ext_iff_of_nodup nodup_rootCandidates nodup_rootCandidates).mpr fun node => ?_
    rw [mem_rootCandidates, mem_rootCandidates, IsRoot, IsRoot, sources, targets]
  have terminals : (terminalCandidates transitions).Perm (terminalCandidates others) := by
    refine (List.perm_ext_iff_of_nodup nodup_terminalCandidates
      nodup_terminalCandidates).mpr fun node => ?_
    rw [mem_terminalCandidates, mem_terminalCandidates, IsTerminal, IsTerminal, sources, targets]
  -- There are as many candidates of each kind, so both searches end in the same of three ways.
  have manyRoots := roots.length_eq
  have manyTerminals := terminals.length_eq
  rcases findEnds_eq transitions with
    ⟨root, terminal, onlyRoot, onlyTerminal, found⟩ | ⟨several, found⟩ | ⟨single, several, found⟩
  · rw [onlyRoot, List.singleton_perm] at roots
    rw [onlyTerminal, List.singleton_perm] at terminals
    rw [found, findEnds, ← roots, ← terminals]
  · rcases findEnds_eq others with
      ⟨root, _, onlyRoot, _⟩ | ⟨_, foundToo⟩ | ⟨singleToo, _⟩
    · rw [manyRoots, onlyRoot] at several
      exact absurd rfl several
    · rw [found, foundToo, manyRoots]
    · omega
  · rcases findEnds_eq others with
      ⟨_, terminal, _, onlyTerminal, _⟩ | ⟨severalToo, _⟩ | ⟨_, _, foundToo⟩
    · rw [manyTerminals, onlyTerminal] at several
      exact absurd rfl several
    · omega
    · rw [found, foundToo, manyTerminals]

end Search

/-- The ends of transitions given by name are searched for among the nodes that they name. Their
names are texts already, so nothing is merged. -/
theorem givenEnds_ofTransition (transitions : List (Transition String Label)) :
    givenEnds (.list (transitions.map .ofTransition)) =
      (findEnds transitions).mapError (.violation ·.violation) := by
  have described : List.Forall₂ Value.Describes (transitions.map .ofTransition)
      (transitions.map (.map id .ofLabel)) := by
    rw [List.forall₂_map_left_iff, List.forall₂_map_right_iff, List.forall₂_same]
    exact fun t _ => ⟨_, _, rfl, rfl, rfl⟩
  rw [givenEnds_of_described described]
  congr 1
  apply findEnds_congr
  · intro node
    rw [isSource_iff_mem, isSource_iff_mem, List.map_map]
    rfl
  · intro node
    rw [isTarget_iff_mem, isTarget_iff_mem, List.map_map]
    rfl

/-- Two lists with the same set of triples have the same ends, or the same message about them. The
message only counts the candidates. -/
theorem givenEnds_of_sameTriples {transitions others : List (Transition String Label)}
    (same : SameTriples transitions others) :
    givenEnds (.list (transitions.map .ofTransition)) =
      givenEnds (.list (others.map .ofTransition)) := by
  rw [givenEnds_ofTransition, givenEnds_ofTransition,
    findEnds_congr same.isSource same.isTarget]

end Diagram

namespace Automaton

variable {transitions others : List (Transition ν α)} {finals finalsToo : List ν}

/-- A permutation has the same transitions, so it has the same ends of transitions. -/
theorem isEnd_of_perm (permuted : transitions.Perm others) (state : ν) :
    IsEnd transitions state ↔ IsEnd others state := by
  simp only [IsEnd, IsSource, IsTarget, permuted.mem_iff]

/-- Of two transitions that compete, either may come first. -/
theorem deterministic_of_perm [BEq α] [EquivBEq α] (permuted : transitions.Perm others) :
    Deterministic transitions ↔ Deterministic others := by
  apply permuted.pairwise_iff
  intro t u apart compete
  obtain ⟨state, value⟩ := compete
  exact apart ⟨state.symm, BEq.symm value⟩

/-- So a value is known in both lists or in none. -/
theorem known_of_perm {transitions others : List (Transition String α)}
    (permuted : transitions.Perm others) (v : Value) :
    Known transitions v ↔ Known others v := by
  simp only [Known, isEnd_of_perm permuted]

/-- Two checks of an automaton with its lists in different orders end in the same way: both return
the same states, or both stop at the same check. What each of them reports is the first offender in
its own order, or what prevents the report about that one. -/
inductive SameCheck (transitions others : List (Transition String Label)) (start : Value)
    (finals finalsToo : List Value) (outcome other : Except Failure (List Value)) : Prop where
  | accepted (states statesToo : List Value) (returned : outcome = .ok states)
      (returnedToo : other = .ok statesToo) (same : states.Perm statesToo)
  | unknownStart (names : Names outcome (keyText start) .unknownStart)
      (namesToo : Names other (keyText start) .unknownStart)
  | unknownFinal (final finalToo : Value) (first : FirstUnknown (Known transitions) finals final)
      (firstToo : FirstUnknown (Known others) finalsToo finalToo)
      (names : Names outcome (keyText final) .unknownFinal)
      (namesToo : Names other (keyText finalToo) .unknownFinal)
  | nonDeterministic (t u : Transition String Label) (first : FirstRepeated transitions t)
      (firstToo : FirstRepeated others u)
      (names : Names outcome t.value.written (.nonDeterministic t.source))
      (namesToo : Names other u.value.written (.nonDeterministic u.source))

/-- Permutations of the transitions and of the final states end in the same way. Each check is
passed in both orders or in none, and the checks come in the same order. -/
theorem sameCheck_of_perm {transitions others : List (Transition String Label)}
    {finals finalsToo : List Value} (permuted : transitions.Perm others)
    (permutedFinals : finals.Perm finalsToo) (start : Value) :
    SameCheck transitions others start finals finalsToo (checkNamed transitions start finals)
      (checkNamed others start finalsToo) := by
  have sameKnown := known_of_perm permuted
  have sameFinals : (∀ final ∈ finals, Known transitions final) ↔
      ∀ final ∈ finalsToo, Known others final := by
    simp only [permutedFinals.mem_iff, sameKnown]
  have sameDeterminism := deterministic_of_perm permuted
  rcases checkNamed_cases transitions start finals with
    ⟨unknown, names⟩ | ⟨known, final, first, names⟩ | ⟨known, allKnown, t, first, names⟩ |
      ⟨known, allKnown, distinct, accepted⟩ <;>
  rcases checkNamed_cases others start finalsToo with
    ⟨unknownToo, namesToo⟩ | ⟨knownToo, finalToo, firstToo, namesToo⟩ |
      ⟨knownToo, allKnownToo, u, firstToo, namesToo⟩ |
        ⟨knownToo, allKnownToo, distinctToo, acceptedToo⟩
  -- Of the sixteen pairs of outcomes, only the four with the same check on both sides can occur.
  case inl.inl => exact .unknownStart names namesToo
  case inr.inl.inr.inl => exact .unknownFinal final finalToo first firstToo names namesToo
  case inr.inr.inl.inr.inr.inl => exact .nonDeterministic t u first firstToo names namesToo
  case inr.inr.inr.inr.inr.inr =>
    refine .accepted _ _ accepted acceptedToo (List.Perm.map _ ?_)
    refine (List.perm_ext_iff_of_nodup (nodup_eraseDups _) (nodup_eraseDups _)).mpr fun state => ?_
    rw [← nodes, ← nodes, mem_nodes_iff_isEnd, mem_nodes_iff_isEnd, isEnd_of_perm permuted]
  all_goals exfalso
  all_goals first
    | exact unknown ((sameKnown start).mpr knownToo)
    | exact unknownToo ((sameKnown start).mp known)
    | exact first.not_all (sameFinals.mpr allKnownToo)
    | exact firstToo.not_all (sameFinals.mp allKnown)
    | exact first.not_deterministic (sameDeterminism.mpr distinctToo)
    | exact firstToo.not_deterministic (sameDeterminism.mp distinct)

/-- Everything that a report on an automaton might name can be written. This is what it takes for
every fault to be reported by its rule. -/
def Nameable (transitions : List (Transition String Label)) (start : Value)
    (finals : List Value) : Prop :=
  (∀ state ∈ start :: finals, ∃ text, keyText state = .ok text) ∧
    ∀ t ∈ transitions, ∃ text, t.value.written = .ok text

/-- Where the offender can be written, naming it is reporting the rule. -/
theorem Names.violates {outcome : Except Failure β} {text : Except Failure String}
    {about : String → Violation} {rule : String} (names : Names outcome text about)
    (written : ∃ name, text = .ok name) (reports : ∀ name, (about name).rule = rule) :
    Violates outcome rule := by
  obtain ⟨name, rfl⟩ := written
  rcases names with ⟨other, _, reported⟩ | ⟨failure, impossible, _⟩
  · exact ⟨about other, reports other, reported⟩
  · cases impossible

/-- Where everything can be written, ending in the same way is having the same verdict. -/
theorem SameCheck.sameVerdict {transitions others : List (Transition String Label)} {start : Value}
    {finals finalsToo : List Value} {outcome other : Except Failure (List Value)}
    (same : SameCheck transitions others start finals finalsToo outcome other)
    (nameable : Nameable transitions start finals) (nameableToo : Nameable others start finalsToo) :
    SameVerdict List.Perm outcome other := by
  cases same with
  | accepted states statesToo returned returnedToo same =>
    exact .inl ⟨states, statesToo, returned, returnedToo, same⟩
  | unknownStart names namesToo =>
    have written := nameable.1 start List.mem_cons_self
    exact .inr ⟨"unknown_start", names.violates written fun _ => rfl,
      namesToo.violates written fun _ => rfl⟩
  | unknownFinal final finalToo first firstToo names namesToo =>
    have written := nameable.1 final (List.mem_cons_of_mem start first.mem)
    have writtenToo := nameableToo.1 finalToo (List.mem_cons_of_mem start firstToo.mem)
    exact .inr ⟨"unknown_final", names.violates written fun _ => rfl,
      namesToo.violates writtenToo fun _ => rfl⟩
  | nonDeterministic t u first firstToo names namesToo =>
    exact .inr ⟨"non_deterministic", names.violates (nameable.2 t first.mem) fun _ => rfl,
      namesToo.violates (nameableToo.2 u firstToo.mem) fun _ => rfl⟩

/-- What can be written does not depend on the order of the lists. -/
theorem Nameable.of_perm {transitions others : List (Transition String Label)} {start : Value}
    {finals finalsToo : List Value} (permuted : transitions.Perm others)
    (permutedFinals : finals.Perm finalsToo) (nameable : Nameable transitions start finals) :
    Nameable others start finalsToo := by
  constructor
  · intro state listed
    exact nameable.1 state ((permutedFinals.cons start).mem_iff.mpr listed)
  · intro t listed
    exact nameable.2 t (permuted.mem_iff.mpr listed)

end Automaton

/-- The order in which transitions are listed decides nothing. Lists with the same set of triples
are the same diagram, with the same levels or the same violated rule and with the same ends or the
same message about them. Permutations of transitions and of final states are the same automaton:
both have the same states, or both are stopped by the same check, and they violate the same rule if
all that a report might name can be written. -/
theorem order_irrelevant :
    (∀ transitions others : List (Transition String Label), SameTriples transitions others →
      (∀ root terminal, SameVerdict Diagram.SameLevels
        (Diagram.checkNamed transitions root terminal)
        (Diagram.checkNamed others root terminal)) ∧
      Diagram.givenEnds (.list (transitions.map .ofTransition)) =
        Diagram.givenEnds (.list (others.map .ofTransition))) ∧
    ∀ (transitions others : List (Transition String Label)) (start : Value)
      (finals finalsToo : List Value), transitions.Perm others → finals.Perm finalsToo →
        Automaton.SameCheck transitions others start finals finalsToo
          (Automaton.checkNamed transitions start finals)
          (Automaton.checkNamed others start finalsToo) ∧
        (Automaton.Nameable transitions start finals →
          SameVerdict List.Perm (Automaton.checkNamed transitions start finals)
            (Automaton.checkNamed others start finalsToo)) := by
  constructor
  · intro transitions others same
    constructor
    · exact fun root terminal => Diagram.sameVerdict_of_sameTriples same root terminal
    · exact Diagram.givenEnds_of_sameTriples same
  · intro transitions others start finals finalsToo permuted permutedFinals
    have same := Automaton.sameCheck_of_perm permuted permutedFinals start
    refine ⟨same, fun nameable => ?_⟩
    exact same.sameVerdict nameable (nameable.of_perm permuted permutedFinals)

/-- A diagram whose value 1 is given as an integer and as a truth value. -/
def twofold : List (Transition String Label) :=
  [⟨"r", .int 1, "a"⟩, ⟨"a", .int 0, "t"⟩, ⟨"r", .bool true, "a"⟩]

/-- Two transitions that clash in either order. -/
def clashing : List (Transition String Label) := [⟨"p", .int 1, "q"⟩, ⟨"p", .bool true, "p"⟩]

/-- A diagram with a repeated triple is turned around and keeps its levels and its ends. Two
clashing transitions still clash when they change places. -/
theorem order_irrelevant_reversed :
    SameTriples (twofold.take 2) twofold.reverse ∧
      (∃ levels, Diagram.checkNamed twofold.reverse "r" "t" = .ok levels ∧
        Diagram.SameLevels [[.text "r"], [.text "a"]] levels) ∧
      Diagram.givenEnds (.list (twofold.reverse.map .ofTransition)) = .ok ("r", "t") ∧
      clashing.Perm clashing.reverse ∧ [Value.text "q", .text "p"].Perm [.text "p", .text "q"] ∧
      Automaton.Nameable clashing (.text "p") [.text "q", .text "p"] ∧
      Violates (Automaton.checkNamed clashing.reverse (.text "p") [.text "p", .text "q"])
        "non_deterministic" := by
  have same : SameTriples (twofold.take 2) twofold.reverse := by
    intro source value target
    have equal : (Label.bool true == value) = (Label.int 1 == value) := rfl
    simp only [HasTriple, twofold, List.take_succ_cons, List.take_zero, List.reverse_cons,
      List.reverse_nil, List.nil_append, List.cons_append, List.exists_mem_cons_iff,
      List.not_mem_nil, false_and, exists_false, or_false, equal]
    tauto
  have permuted : clashing.Perm clashing.reverse := (List.reverse_perm clashing).symm
  have permutedFinals : [Value.text "q", .text "p"].Perm [.text "p", .text "q"] := .swap _ _ []
  have nameable : Automaton.Nameable clashing (.text "p") [.text "q", .text "p"] := by
    constructor
    · simp [Automaton.keyText, Value.asKey, Value.isHashable, Value.shape, Shape.isHashable,
        Shape.hash?, Value.plain, bind, Except.bind]
    · intro t listed
      have short : Text.hasNumeral t.value.value = true := by
        simp only [clashing, List.mem_cons, List.not_mem_nil, or_false] at listed
        rcases listed with rfl | rfl <;> decide +kernel
      rcases t.value.written_cases with ⟨_, written⟩ | ⟨long, _⟩
      · exact written
      · cases short.symm.trans long
  have accepted : Diagram.checkNamed (twofold.take 2) "r" "t" = .ok [[.text "r"], [.text "a"]] :=
    Diagram.checkNamed_eq_ok.mpr ⟨_, rfl, rfl⟩
  have refused : Violates (Automaton.checkNamed clashing (.text "p") [.text "q", .text "p"])
      "non_deterministic" := ⟨.nonDeterministic "p" "True", rfl, rfl⟩
  obtain ⟨diagrams, automata⟩ := order_irrelevant
  obtain ⟨sameVerdict, sameEnds⟩ := diagrams _ _ same
  refine ⟨same, (sameVerdict "r" "t").ok accepted, ?_, permuted, permutedFinals, nameable, ?_⟩
  · rw [← sameEnds]
    rfl
  · exact ((automata _ _ _ _ _ permuted permutedFinals).2 nameable).violates refused

/-- Two transitions that clash on a value of one digit. -/
def shortPair : List (Transition String Label) := [⟨"a", .int 1, "b"⟩, ⟨"a", .int 1, "c"⟩]

/-- Which of two pairs comes first decides whether the clash can be reported, and which of two
unknown states comes first decides whether it can be named. -/
theorem reported_by_order :
    ((shortPair ++ Automaton.longPair).Perm (Automaton.longPair ++ shortPair) ∧
        Violates (Automaton.checkNamed (shortPair ++ Automaton.longPair) (.text "a") [.text "b"])
          "non_deterministic" ∧
        Automaton.checkNamed (Automaton.longPair ++ shortPair) (.text "a") [.text "b"] =
          .error .badNumeral) ∧
      [Value.text "z", Automaton.namelessCell].Perm [Automaton.namelessCell, .text "z"] ∧
        Violates (Automaton.checkNamed shortPair (.text "a") [.text "z", Automaton.namelessCell])
          "unknown_final" ∧
        Automaton.checkNamed shortPair (.text "a") [Automaton.namelessCell, .text "z"] =
          .error .notText := by
  have long : Automaton.firstCompeting [] (Automaton.longPair ++ shortPair) =
      some ⟨"a", .int unwritable, "c"⟩ := by
    simp [Automaton.longPair, Automaton.firstCompeting, Automaton.competes]
  have short : Automaton.firstCompeting [] (shortPair ++ Automaton.longPair) =
      some ⟨"a", .int 1, "c"⟩ := rfl
  refine ⟨⟨List.perm_append_comm, ?_, ?_⟩, .swap _ _ [], ⟨.unknownFinal "z", rfl, rfl⟩, rfl⟩
  · rw [Automaton.checkNamed_eq, short]
    exact ⟨.nonDeterministic "a" "1", rfl, rfl⟩
  · rw [Automaton.checkNamed_eq, long]
    exact congrArg Except.error Automaton.failure_longPair

end Csp
