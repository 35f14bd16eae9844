import Csp.Proofs.Diagram.Depth
import Csp.Proofs.Refusal

/-!
# Which fault the levels of a diagram have

Between a root and a terminal, a diagram is refused for its levels only, and
there are two faults that these can have. The expansion looks at each level
before it goes on to the next, so an uneven level is reported wherever there is
one that the expansion comes to, also in a diagram with a cycle. It comes to the
levels of all depths up to the number of sources. What is refused without an
uneven level among these has a cycle, and every cycle that can be reached is
refused in one of the two ways.

The expansion is written as a recursion on the number of levels that it may
still keep. Here it is compared with the loop that has no such number, and only
tests before it keeps a level whether there are already more than sources. The
loop comes to an end on every transition list, with the same outcome.
-/
namespace Csp

/-- An outcome is the violation of the rule of this name. -/
def Violates {β : Type} (outcome : Except Failure β) (rule : String) : Prop :=
  ∃ violation : Violation, violation.rule = rule ∧ outcome = .error (.violation violation)

namespace Diagram

open Transition

variable {ν α : Type}

/-- Two of the nodes are sources with different outgoing values. Nodes without transitions are not
compared. -/
def Uneven [BEq α] (transitions : List (Transition ν α)) (nodes : Set ν) : Prop :=
  ∃ node ∈ nodes, ∃ other ∈ nodes, IsSource transitions node ∧ IsSource transitions other ∧
    ¬ SameOffers transitions node other

section Loop

variable [BEq ν] [BEq α]

/-- The loop that expands levels, from the levels kept so far and the one that is up next to the
levels kept in the end and the outcome. A level is kept before its nodes are compared. -/
inductive Loop (transitions : List (Transition ν α)) (terminal : ν) (limit : Nat) :
    List (List ν) → List ν → List (List ν) → Except (Fault ν) (List (List ν)) → Prop where
  | exhausted (kept : List (List ν)) : Loop transitions terminal limit kept [] kept (.ok kept)
  | exceeded (kept : List (List ν)) (level : List ν) (filled : level ≠ [])
      (many : limit < kept.length) :
      Loop transitions terminal limit kept level kept (.error .cyclic)
  | refused (kept : List (List ν)) (level : List ν) (node : ν) (few : kept.length ≤ limit)
      (lacking : level.find? (lacksValue transitions (levelValues transitions level)) = some node) :
      Loop transitions terminal limit kept level (kept ++ [level])
        (.error (.inconsistentLevel node))
  | continued (kept : List (List ν)) (level : List ν) (final : List (List ν))
      (outcome : Except (Fault ν) (List (List ν))) (filled : level ≠ [])
      (few : kept.length ≤ limit)
      (even : level.find? (lacksValue transitions (levelValues transitions level)) = none)
      (onward : Loop transitions terminal limit (kept ++ [level])
        (nextLevel transitions terminal level) final outcome) :
      Loop transitions terminal limit kept level final outcome

variable {transitions : List (Transition ν α)} {terminal : ν} {limit : Nat}

/-- The loop has one way to go at most: its tests exclude each other. So it has one outcome at most,
and one list of levels that it has kept. -/
theorem Loop.unique {kept final finalToo : List (List ν)} {level : List ν}
    {outcome outcomeToo : Except (Fault ν) (List (List ν))}
    (run : Loop transitions terminal limit kept level final outcome)
    (runToo : Loop transitions terminal limit kept level finalToo outcomeToo) :
    final = finalToo ∧ outcome = outcomeToo := by
  induction run with
  | exhausted kept =>
    cases runToo with
    | exhausted => exact ⟨rfl, rfl⟩
    | exceeded _ _ filled _ => exact absurd rfl filled
    | refused _ _ _ _ lacking => cases lacking
    | continued _ _ _ _ filled _ _ _ => exact absurd rfl filled
  | exceeded kept level filled many =>
    cases runToo with
    | exhausted => exact absurd rfl filled
    | exceeded => exact ⟨rfl, rfl⟩
    | refused _ _ _ few _ => omega
    | continued _ _ _ _ _ few _ _ => omega
  | refused kept level node few lacking =>
    cases runToo with
    | exhausted => cases lacking
    | exceeded _ _ _ many => omega
    | refused _ _ other _ lackingToo =>
      rw [lacking] at lackingToo
      cases lackingToo
      exact ⟨rfl, rfl⟩
    | continued _ _ _ _ _ _ even _ =>
      rw [lacking] at even
      cases even
  | continued kept level final outcome filled few even onward inductionHypothesis =>
    cases runToo with
    | exhausted => exact absurd rfl filled
    | exceeded _ _ _ many => omega
    | refused _ _ _ _ lacking =>
      rw [lacking] at even
      cases even
    | continued _ _ _ _ _ _ _ onwardToo => exact inductionHypothesis onwardToo

/-- An empty level ends the loop and the expansion alike. -/
theorem loop_nil (kept : List (List ν)) (bound : Nat) :
    Loop transitions terminal limit kept [] kept
      ((expand transitions terminal bound []).map (kept ++ ·)) := by
  rw [expand_nil, Except.map, List.append_nil]
  exact .exhausted kept

/-- The loop ends as the expansion does, if that may keep as many levels as there is room for. What
the expansion returns then comes after the levels that were kept before. -/
theorem loop_of_room (kept : List (List ν)) (level : List ν) {bound : Nat}
    (room : kept.length + bound = limit + 1) :
    ∃ final, final.length ≤ limit + 1 ∧ Loop transitions terminal limit kept level final
      ((expand transitions terminal bound level).map (kept ++ ·)) := by
  induction bound generalizing kept level with
  | zero =>
    cases level with
    | nil => exact ⟨kept, by omega, loop_nil kept 0⟩
    | cons node others =>
      exact ⟨kept, by omega, .exceeded kept _ (List.cons_ne_nil node others) (by omega)⟩
  | succ bound inductionHypothesis =>
    cases level with
    | nil => exact ⟨kept, by omega, loop_nil kept (bound + 1)⟩
    | cons node others =>
      have longer : (kept ++ [node :: others]).length = kept.length + 1 := List.length_append
      cases found : (node :: others).find?
          (lacksValue transitions (levelValues transitions (node :: others))) with
      | some lacking =>
        refine ⟨kept ++ [node :: others], by omega, ?_⟩
        simp only [expand, found]
        exact .refused kept (node :: others) lacking (by omega) found
      | none =>
        obtain ⟨final, short, onward⟩ := inductionHypothesis (kept ++ [node :: others])
          (nextLevel transitions terminal (node :: others)) (by omega)
        refine ⟨final, short, ?_⟩
        have outcome : (expand transitions terminal (bound + 1) (node :: others)).map (kept ++ ·) =
            (expand transitions terminal bound (nextLevel transitions terminal
              (node :: others))).map (kept ++ [node :: others] ++ ·) := by
          simp only [expand, found]
          cases expand transitions terminal bound (nextLevel transitions terminal (node :: others))
            <;> simp [Except.map]
        rw [outcome]
        exact .continued kept (node :: others) final _ (List.cons_ne_nil node others) (by omega)
          found onward

/-- From any level the loop always comes to an end, in one way only. It has then kept one level more
than its limit at most, and its outcome is that of the expansion. -/
theorem loop_ends (transitions : List (Transition ν α)) (terminal : ν) (limit : Nat)
    (level : List ν) :
    ∃ kept, kept.length ≤ limit + 1 ∧ ∀ final outcome,
      Loop transitions terminal limit [] level final outcome ↔
        final = kept ∧ outcome = expand transitions terminal (limit + 1) level := by
  have ended : ∃ kept, kept.length ≤ limit + 1 ∧ Loop transitions terminal limit [] level kept
      ((expand transitions terminal (limit + 1) level).map ([] ++ ·)) :=
    loop_of_room [] level (Nat.zero_add (limit + 1))
  obtain ⟨kept, short, run⟩ := ended
  have same : (expand transitions terminal (limit + 1) level).map ([] ++ ·) =
      expand transitions terminal (limit + 1) level := by
    cases expand transitions terminal (limit + 1) level <;> rfl
  rw [same] at run
  refine ⟨kept, short, fun final outcome => ?_⟩
  constructor
  · exact fun other => other.unique run
  · rintro ⟨rfl, rfl⟩
    exact run

end Loop

section Levels

variable [BEq ν] {transitions : List (Transition ν α)} {root terminal : ν}

/-- Once a level is empty, all those after it are. An expansion of nothing is nothing. -/
theorem levelAfter_eq_nil {level : List ν} {bound steps : Nat}
    (empty : levelAfter transitions terminal bound level = []) (later : bound ≤ steps) :
    levelAfter transitions terminal steps level = [] := by
  induction steps, later using Nat.le_induction with
  | base => exact empty
  | succ steps _ inductionHypothesis =>
    rw [levelAfter_succ, inductionHypothesis, nextLevel_nil]

variable [BEq α]

/-- Between a root and a terminal, the check is the expansion. The four tests on the ends have
passed already. -/
theorem check_of_ends (ends : checkEnds transitions root terminal = .ok ()) :
    check transitions root terminal =
      expand transitions terminal ((sources transitions).length + 1) [root] := by
  rw [check, ends]

variable [LawfulBEq ν]

/-- The level of a depth is inconsistent when the nodes at that depth are uneven. Both compare the
values of sources only. -/
theorem not_consistent_iff_uneven (isRoot : IsRoot transitions root)
    (isTerminal : IsTerminal transitions terminal) (depth : Nat) :
    ¬ Consistent transitions (levelAfter transitions terminal depth [root]) ↔
      Uneven transitions (atDepth transitions root terminal depth) := by
  have member (node : ν) : node ∈ levelAfter transitions terminal depth [root] ↔
      node ∈ atDepth transitions root terminal depth :=
    mem_levelAfter isTerminal.2 (isRoot.ne_terminal isTerminal) depth
  simp only [Consistent, Uneven, member, not_forall, exists_prop]

variable [EquivBEq α]

/-- The expansion reports an inconsistent level when one of those that the bound lets it keep is.
Each level is compared before the bound is asked for the next one. -/
theorem expand_inconsistent_iff (bound : Nat) (level : List ν) :
    (∃ node, expand transitions terminal bound level = .error (.inconsistentLevel node)) ↔
      ∃ steps < bound, ¬ Consistent transitions (levelAfter transitions terminal steps level) := by
  induction bound generalizing level with
  | zero => cases level <;> simp [expand]
  | succ bound inductionHypothesis =>
    by_cases filled : level = []
    · subst filled
      simp [levelAfter_nil, consistent_nil]
    · by_cases consistent : Consistent transitions level
      · simp only [expand_consistent bound filled consistent, map_eq_error, inductionHypothesis]
        constructor
        · rintro ⟨steps, inside, inconsistent⟩
          exact ⟨steps + 1, by omega, inconsistent⟩
        · rintro ⟨steps, inside, inconsistent⟩
          cases steps with
          | zero => exact absurd consistent inconsistent
          | succ steps => exact ⟨steps, by omega, inconsistent⟩
      · obtain ⟨node, _, refused⟩ := expand_inconsistent terminal bound consistent
        constructor
        · intro _
          exact ⟨0, Nat.succ_pos bound, consistent⟩
        · intro _
          exact ⟨node, refused⟩

/-- It reports a cycle when all of them are consistent and the one after them is not empty. The
bound is exhausted then, and it would not be if walks did not repeat a node. -/
theorem expand_cyclic_iff (bound : Nat) (level : List ν) :
    expand transitions terminal bound level = .error .cyclic ↔
      (¬ ∃ steps < bound, ¬ Consistent transitions (levelAfter transitions terminal steps level)) ∧
        levelAfter transitions terminal bound level ≠ [] := by
  rw [← expand_inconsistent_iff]
  constructor
  · intro cyclic
    refine ⟨?_, ?_⟩
    · rintro ⟨node, inconsistent⟩
      rw [cyclic] at inconsistent
      cases inconsistent
    · intro empty
      have consistent : ∀ steps,
          Consistent transitions (levelAfter transitions terminal steps level) := by
        intro steps
        by_contra inconsistent
        by_cases inside : steps < bound
        · obtain ⟨node, refused⟩ :=
            (expand_inconsistent_iff bound level).mpr ⟨steps, inside, inconsistent⟩
          rw [cyclic] at refused
          cases refused
        · rw [levelAfter_eq_nil empty (Nat.le_of_not_lt inside)] at inconsistent
          exact inconsistent consistent_nil
      obtain ⟨levels, expanded⟩ := (expand_ok_iff bound level).mpr ⟨empty, consistent⟩
      rw [cyclic] at expanded
      cases expanded
  · rintro ⟨even, filled⟩
    cases outcome : expand transitions terminal bound level with
    | ok levels => exact absurd ((expand_ok_iff bound level).mp ⟨levels, outcome⟩).1 filled
    | error fault =>
      rcases expand_error outcome with rfl | ⟨node, rfl⟩
      · rfl
      · exact absurd ⟨node, outcome⟩ even

/-- An inconsistent level is reported when the nodes at a depth up to the number of sources are
uneven. -/
theorem check_inconsistent_iff (ends : checkEnds transitions root terminal = .ok ()) :
    (∃ node, check transitions root terminal = .error (.inconsistentLevel node)) ↔
      ∃ depth ≤ (sources transitions).length,
        Uneven transitions (atDepth transitions root terminal depth) := by
  obtain ⟨isRoot, isTerminal⟩ := checkEnds_ok_iff.mp ends
  rw [check_of_ends ends, expand_inconsistent_iff]
  simp only [not_consistent_iff_uneven isRoot isTerminal, Nat.lt_succ_iff]

/-- A cycle is reported when it can be reached and no nodes at these depths are uneven. A cycle that
cannot be reached is not reported. -/
theorem check_cyclic_iff (ends : checkEnds transitions root terminal = .ok ()) :
    check transitions root terminal = .error .cyclic ↔
      (¬ ∃ depth ≤ (sources transitions).length,
        Uneven transitions (atDepth transitions root terminal depth)) ∧
        ∃ node, Reachable transitions root node ∧ OnCycle transitions node := by
  obtain ⟨isRoot, isTerminal⟩ := checkEnds_ok_iff.mp ends
  rw [check_of_ends ends, expand_cyclic_iff, ne_eq, levelAfter_bound_iff isRoot isTerminal]
  simp only [not_consistent_iff_uneven isRoot isTerminal, Nat.lt_succ_iff, not_forall, not_not,
    exists_prop]

end Levels

/-- The check of a named diagram violates the rules that report its faults. Its names are texts and
its labels numbers, so no report fails on the way. -/
theorem checkNamed_violates {transitions : List (Transition String Label)} {root terminal : String}
    {rule : String} :
    Violates (checkNamed transitions root terminal) rule ↔
      ∃ fault, check transitions root terminal = .error fault ∧ fault.violation.rule = rule := by
  rw [checkNamed, checkGiven_ofTransition]
  cases check transitions root terminal with
  | ok levels => simp [Violates, Except.map, Except.mapError]
  | error fault =>
    constructor
    · rintro ⟨violation, rfl, same⟩
      refine ⟨fault, rfl, ?_⟩
      by_contra different
      exact violation_ne different (Except.error.inj same)
    · rintro ⟨_, same, rfl⟩
      cases same
      exact ⟨fault.violation, rfl, rfl⟩

/-- Only the fault of a cycle is reported under its rule, so the rule tells the fault. -/
theorem Fault.rule_eq_cyclic {fault : Fault String} :
    fault.violation.rule = "cyclic" ↔ fault = .cyclic := by
  cases fault <;> simp [violation, Violation.rule]

/-- Only faults of levels are reported as inconsistent. Which node is named is left open, since it
may depend on the order of the level. -/
theorem Fault.rule_eq_inconsistent {fault : Fault String} :
    fault.violation.rule = "inconsistent_level" ↔ ∃ node, fault = .inconsistentLevel node := by
  cases fault <;> simp [violation, Violation.rule]

/-- A cycle is reported exactly where the check on names finds one. -/
theorem checkNamed_violates_cyclic {transitions : List (Transition String Label)}
    {root terminal : String} :
    Violates (checkNamed transitions root terminal) "cyclic" ↔
      check transitions root terminal = .error .cyclic := by
  simp only [checkNamed_violates, Fault.rule_eq_cyclic, exists_eq_right]

/-- An inconsistent level is reported exactly where the check on names finds one, whichever node it
names. -/
theorem checkNamed_violates_inconsistent {transitions : List (Transition String Label)}
    {root terminal : String} :
    Violates (checkNamed transitions root terminal) "inconsistent_level" ↔
      ∃ node, check transitions root terminal = .error (.inconsistentLevel node) := by
  rw [checkNamed_violates]
  simp only [Fault.rule_eq_inconsistent]
  constructor
  · rintro ⟨_, refused, node, rfl⟩
    exact ⟨node, refused⟩
  · rintro ⟨node, refused⟩
    exact ⟨_, refused, node, rfl⟩

/-- The sources are counted once each. -/
theorem length_sources (transitions : List (Transition String Label)) :
    (sources transitions).length = {node | IsSource transitions node}.ncard :=
  length_eq_ncard (nodup_eraseDups _) fun _ => mem_sources

/-- Between a root and a terminal, the two faults of levels are told apart by the nodes at the
depths up to the number of sources: uneven nodes at one of them are reported as such, and otherwise
a cycle that can be reached is. So a cycle is never reported without one, and the loop that keeps
the levels always comes to an end, with the outcome of the check and no more than one level above
the number of sources. -/
theorem level_faults_exact (transitions : List (Transition String Label)) (root terminal : String)
    (ends : checkEnds transitions root terminal = .ok ()) :
    (Violates (checkNamed transitions root terminal) "inconsistent_level" ↔
        ∃ depth ≤ {node | IsSource transitions node}.ncard,
          Uneven transitions (atDepth transitions root terminal depth)) ∧
      (Violates (checkNamed transitions root terminal) "cyclic" ↔
        (¬ ∃ depth ≤ {node | IsSource transitions node}.ncard,
          Uneven transitions (atDepth transitions root terminal depth)) ∧
          ∃ node, Reachable transitions root node ∧ OnCycle transitions node) ∧
      ((∀ node, Reachable transitions root node → ¬ OnCycle transitions node) →
        ¬ Violates (checkNamed transitions root terminal) "cyclic") ∧
      ∃ kept, kept.length ≤ {node | IsSource transitions node}.ncard + 1 ∧ ∀ final outcome,
        Loop transitions terminal {node | IsSource transitions node}.ncard [] [root] final outcome ↔
          final = kept ∧ outcome = check transitions root terminal := by
  simp only [← length_sources, checkNamed_violates_cyclic, checkNamed_violates_inconsistent]
  refine ⟨check_inconsistent_iff ends, check_cyclic_iff ends, ?_, ?_⟩
  · intro acyclic reported
    obtain ⟨_, node, reached, cycle⟩ := (check_cyclic_iff ends).mp reported
    exact acyclic node reached cycle
  · rw [check_of_ends ends]
    exact loop_ends transitions terminal (sources transitions).length [root]

/-- Two nodes below the root that lead to each other, with the same values at every depth. -/
def turning : List (Transition String Label) :=
  [⟨"r", .int 0, "a"⟩, ⟨"a", .int 0, "b"⟩, ⟨"b", .int 0, "a"⟩, ⟨"b", .int 1, "t"⟩,
    ⟨"a", .int 1, "t"⟩]

/-- The two nodes offer the same values at every depth, so that the loop goes on until it is stopped
by its bound, and it reports the cycle that is really there. -/
theorem level_faults_turning :
    checkEnds turning "r" "t" = .ok () ∧ Violates (checkNamed turning "r" "t") "cyclic" ∧
      ∃ node, Reachable turning "r" node ∧ OnCycle turning node := by
  have ends : checkEnds turning "r" "t" = .ok () := rfl
  have reported : Violates (checkNamed turning "r" "t") "cyclic" :=
    checkNamed_violates_cyclic.mpr rfl
  obtain ⟨_, cycle⟩ := (level_faults_exact turning "r" "t" ends).2.1.mp reported
  exact ⟨ends, reported, cycle⟩

end Diagram
end Csp
