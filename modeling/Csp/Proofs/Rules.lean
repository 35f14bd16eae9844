import Csp.Proofs.Automaton.Acceptance
import Csp.Proofs.Diagram.Faults

/-!
# Rules in a fixed order

A check goes through its rules one after the other and stops at the first one
that is violated, so of several defects always the same one is reported. Here an
outcome is compared with such a list of rules, each of which says by itself when
it is violated: the outcome is the violation of the first rule of the list that
is violated, and a result when there is none.

The list decides the outcome up to the wording of the message. So two checks
that are decided by the same list have the same verdict.

An integer that is too long to be written stands in the way of a rule whenever
it has to be written before the rule can be checked or reported. Such a case is
a member of the list like any other, with a failure in the place of a name.
-/
namespace Csp

/-- What comes of arguments that are refused: the report of a rule by its name, or the failure to
write an integer that is too long. -/
inductive Verdict where
  | violates (name : String)
  | unwritable

/-- The outcome is a refusal with this verdict. -/
def Refused {β : Type} (outcome : Except Failure β) : Verdict → Prop
  | .violates name => Violates outcome name
  | .unwritable => outcome = .error .badNumeral

/-- A rule by the verdict on what violates it, with the condition under which it is violated. -/
structure Rule where
  verdict : Verdict
  violated : Prop

/-- The first of the rules that is violated has this verdict. It does not matter which of the rules
behind it are violated. -/
def FirstViolated (rules : List Rule) (verdict : Verdict) : Prop :=
  ∃ before rule after, rules = before ++ rule :: after ∧
    (∀ earlier ∈ before, ¬ earlier.violated) ∧ rule.violated ∧ rule.verdict = verdict

/-- The outcome is refused with the verdict of the first rule that is violated, and it is a result
when none of them is. -/
structure DecidedBy {β : Type} (outcome : Except Failure β) (rules : List Rule) : Prop where
  refused_iff : ∀ verdict, Refused outcome verdict ↔ FirstViolated rules verdict
  ok_iff : (∃ result, outcome = .ok result) ↔ ∀ rule ∈ rules, ¬ rule.violated

/-- A rule that is reported by its name. -/
def Rule.named (name : String) (violated : Prop) : Rule := ⟨.violates name, violated⟩

/-- A case in which an integer that is too long would have to be written. -/
def Rule.unwritable (violated : Prop) : Rule := ⟨.unwritable, violated⟩

/-- Two outcomes are results that agree, or they violate the same rule. Two failures without a rule
do not have the same verdict. -/
def SameVerdict {β : Type} (agree : β → β → Prop) (outcome other : Except Failure β) : Prop :=
  (∃ result resultToo, outcome = .ok result ∧ other = .ok resultToo ∧ agree result resultToo) ∨
    ∃ name, Violates outcome name ∧ Violates other name

variable {β : Type} {outcome other : Except Failure β}

/-- A failure reports one rule only, so an outcome does not violate two. -/
theorem Violates.unique {name nameToo : String} (violates : Violates outcome name)
    (violatesToo : Violates outcome nameToo) : name = nameToo := by
  obtain ⟨violation, rfl, reported⟩ := violates
  obtain ⟨violationToo, rfl, reportedToo⟩ := violatesToo
  by_contra different
  rw [reported] at reportedToo
  exact violation_ne different (Except.error.inj reportedToo)

/-- What violates a rule is no result. -/
theorem Violates.not_ok {name : String} (violates : Violates outcome name) :
    ¬ ∃ result, outcome = .ok result := by
  obtain ⟨violation, _, rfl⟩ := violates
  rintro ⟨result, impossible⟩
  cases impossible

/-- Nor is anything that is refused, by a rule or without one. -/
theorem Refused.not_ok {verdict : Verdict} (refused : Refused outcome verdict) :
    ¬ ∃ result, outcome = .ok result := by
  cases verdict with
  | violates name => exact Violates.not_ok refused
  | unwritable =>
    rintro ⟨result, accepted⟩
    cases refused.symm.trans accepted

/-- An outcome is refused with one verdict only. A report and the failure to write an integer are
different failures. -/
theorem Refused.unique {verdict verdictToo : Verdict} (refused : Refused outcome verdict)
    (refusedToo : Refused outcome verdictToo) : verdict = verdictToo := by
  cases verdict with
  | violates name =>
    cases verdictToo with
    | violates nameToo => exact congrArg Verdict.violates (Violates.unique refused refusedToo)
    | unwritable =>
      obtain ⟨violation, _, reported⟩ := refused
      cases reported.symm.trans refusedToo
  | unwritable =>
    cases verdictToo with
    | violates nameToo =>
      obtain ⟨violation, _, reported⟩ := refusedToo
      cases reported.symm.trans refused
    | unwritable => rfl

/-- If one of two outcomes with the same verdict is a result, then the other one is a result too,
and the two agree. -/
theorem SameVerdict.ok {agree : β → β → Prop} (same : SameVerdict agree outcome other) {result : β}
    (accepted : outcome = .ok result) :
    ∃ resultToo, other = .ok resultToo ∧ agree result resultToo := by
  rcases same with ⟨found, resultToo, acceptedFound, acceptedToo, agrees⟩ | ⟨name, refused, _⟩
  · rw [accepted] at acceptedFound
    cases acceptedFound
    exact ⟨resultToo, acceptedToo, agrees⟩
  · exact absurd ⟨result, accepted⟩ refused.not_ok

/-- If one of them violates a rule, then the other one violates the same rule. -/
theorem SameVerdict.violates {agree : β → β → Prop} (same : SameVerdict agree outcome other)
    {name : String} (violates : Violates outcome name) : Violates other name := by
  rcases same with ⟨result, _, accepted, _⟩ | ⟨reported, refused, refusedToo⟩
  · exact absurd ⟨result, accepted⟩ violates.not_ok
  · rw [violates.unique refused]
    exact refusedToo

/-- An outcome violates the first of the rules that is violated. This is the form for verdicts that
are reports. -/
theorem DecidedBy.violates_iff {rules : List Rule} (decided : DecidedBy outcome rules)
    (name : String) : Violates outcome name ↔ FirstViolated rules (.violates name) :=
  decided.refused_iff (.violates name)

section Order

variable {rule : Rule} {rules : List Rule}

/-- Of no rules, none is the first to be violated. -/
@[simp] theorem not_firstViolated_nil (verdict : Verdict) : ¬ FirstViolated [] verdict := by
  rintro ⟨before, rule, after, impossible, _⟩
  simp at impossible

/-- A list of rules is gone through from its front. The rule in front is decided before all
others. -/
theorem firstViolated_cons {verdict : Verdict} :
    FirstViolated (rule :: rules) verdict ↔
      (rule.violated ∧ rule.verdict = verdict) ∨
        (¬ rule.violated ∧ FirstViolated rules verdict) := by
  constructor
  · rintro ⟨before, found, after, split, none, violated, same⟩
    cases before with
    | nil =>
      cases split
      exact .inl ⟨violated, same⟩
    | cons first before =>
      cases split
      obtain ⟨kept, later⟩ := List.forall_mem_cons.mp none
      exact .inr ⟨kept, before, found, after, rfl, later, violated, same⟩
  · rintro (⟨violated, same⟩ | ⟨kept, before, found, after, rfl, none, violated, same⟩)
    · exact ⟨[], rule, rules, rfl, List.forall_mem_nil _, violated, same⟩
    · exact ⟨rule :: before, found, after, rfl, List.forall_mem_cons.mpr ⟨kept, none⟩, violated,
        same⟩

namespace DecidedBy

/-- Without rules there is a result. -/
theorem accepted (result : β) : DecidedBy (.ok result) [] := by
  constructor
  · intro verdict
    exact iff_of_false (fun refused => refused.not_ok ⟨result, rfl⟩)
      (not_firstViolated_nil verdict)
  · exact iff_of_true ⟨result, rfl⟩ (List.forall_mem_nil _)

/-- A rule that is violated decides. Whatever the other rules are, they are not looked at. -/
theorem refused (violated : rule.violated) (reported : Refused outcome rule.verdict) :
    DecidedBy outcome (rule :: rules) := by
  constructor
  · intro verdict
    rw [firstViolated_cons]
    constructor
    · exact fun refused => .inl ⟨violated, reported.unique refused⟩
    · rintro (⟨_, rfl⟩ | ⟨kept, _⟩)
      · exact reported
      · exact absurd violated kept
  · exact iff_of_false reported.not_ok fun none => none rule List.mem_cons_self violated

/-- A rule that is not violated leaves the decision to the rules after it. -/
theorem passed (kept : ¬ rule.violated) (later : DecidedBy outcome rules) :
    DecidedBy outcome (rule :: rules) := by
  constructor
  · intro verdict
    rw [firstViolated_cons, later.refused_iff]
    simp only [kept, false_and, false_or, not_false_eq_true, true_and]
  · rw [later.ok_iff, List.forall_mem_cons, and_iff_right kept]

/-- What is decided by the same rules has the same verdict, if each rule has a name and the results
agree where there are two of them. -/
theorem sameVerdict {agree : β → β → Prop} (decided : DecidedBy outcome rules)
    (decidedToo : DecidedBy other rules)
    (named : ∀ rule ∈ rules, ∃ name, rule.verdict = .violates name)
    (results : ∀ result resultToo, outcome = .ok result → other = .ok resultToo →
      agree result resultToo) : SameVerdict agree outcome other := by
  by_cases none : ∀ rule ∈ rules, ¬ rule.violated
  · obtain ⟨result, found⟩ := decided.ok_iff.mpr none
    obtain ⟨resultToo, foundToo⟩ := decidedToo.ok_iff.mpr none
    exact .inl ⟨result, resultToo, found, foundToo, results result resultToo found foundToo⟩
  · push Not at none
    obtain ⟨before, rule, after, split, kept, violated⟩ := exists_first none
    obtain ⟨name, reported⟩ := named rule (by simp [split])
    have first : FirstViolated rules (.violates name) :=
      ⟨before, rule, after, split, kept, violated, reported⟩
    exact .inr ⟨name, (decided.refused_iff _).mpr first, (decidedToo.refused_iff _).mpr first⟩

end DecidedBy

end Order

open Transition

namespace Automaton

/-- The rules of an automaton, in the order in which they are checked. The report on a repeated pair
shows its value. -/
def rules (transitions : List (Transition String Label)) (start : String)
    (finals : List String) : List Rule :=
  [.named "unknown_start" (¬ IsEnd transitions start),
    .named "unknown_final" (¬ ∀ state ∈ finals, IsEnd transitions state),
    .unwritable (∃ t, FirstRepeated transitions t ∧ t.value.written = .error .badNumeral),
    .named "non_deterministic" (¬ Deterministic transitions)]

/-- What succeeds when the check of an automaton does, and otherwise reports its fault, is decided
by the rules of automata. -/
theorem decidedBy_rules {transitions : List (Transition String Label)} {start : String}
    {finals : List String}
    (accepted : ∀ states, check transitions start finals = .ok states →
      ∃ result, outcome = .ok result)
    (refused : ∀ fault, check transitions start finals = .error fault →
      outcome = .error fault.failure) :
    DecidedBy outcome (rules transitions start finals) := by
  rcases check_cases transitions start finals with
    ⟨unknown, found⟩ | ⟨known, state, first, found⟩ | ⟨known, allKnown, t, first, found⟩ |
      ⟨known, allKnown, distinct, found⟩
  · exact .refused unknown ⟨_, rfl, refused _ found⟩
  · apply DecidedBy.passed (not_not.mpr known)
    exact .refused first.not_all ⟨_, rfl, refused _ found⟩
  · apply DecidedBy.passed (not_not.mpr known)
    apply DecidedBy.passed (not_not.mpr allKnown)
    have reported := refused _ found
    rcases t.value.written_cases with ⟨_, text, written⟩ | ⟨_, unwritten⟩
    · apply DecidedBy.passed
      · rintro ⟨other, firstToo, unwritten⟩
        rw [firstToo.unique first, written] at unwritten
        cases unwritten
      · refine .refused first.not_deterministic ⟨.nonDeterministic t.source text, rfl, ?_⟩
        rw [reported, Fault.failure, Fault.violation, written]
        rfl
    · refine .refused ⟨t, first, unwritten⟩ ?_
      change outcome = _
      rw [reported, Fault.failure, Fault.violation, unwritten]
      rfl
  · apply DecidedBy.passed (not_not.mpr known)
    apply DecidedBy.passed (not_not.mpr allKnown)
    apply DecidedBy.passed
    · rintro ⟨t, first, _⟩
      exact first.not_deterministic distinct
    apply DecidedBy.passed (not_not.mpr distinct)
    obtain ⟨result, rfl⟩ := accepted _ found
    exact .accepted result

end Automaton

namespace Diagram

/-- The rules of a diagram, in the order in which they are checked. -/
def rules {ν α : Type} [BEq α] (transitions : List (Transition ν α)) (root terminal : ν) :
    List Rule :=
  [.named "unknown_root" (¬ IsSource transitions root),
    .named "root_is_destination" (IsTarget transitions root),
    .named "unknown_terminal" (¬ IsTarget transitions terminal),
    .named "terminal_is_source" (IsSource transitions terminal),
    .named "inconsistent_level" (∃ depth ≤ {node | IsSource transitions node}.ncard,
      Uneven transitions (atDepth transitions root terminal depth)),
    .named "cyclic" (∃ node, Reachable transitions root node ∧ OnCycle transitions node)]

/-- Every rule of a diagram is reported by its name. So none of them depends on whether an integer
can be written. -/
theorem rules_named {ν α : Type} [BEq α] (transitions : List (Transition ν α)) (root terminal : ν) :
    ∀ rule ∈ rules transitions root terminal, ∃ name, rule.verdict = .violates name := by
  simp [rules, Rule.named]

/-- The ends are checked before the levels, so a fault of the ends is the fault of the diagram. -/
theorem check_of_refused_ends {ν α : Type} [BEq ν] [BEq α] {transitions : List (Transition ν α)}
    {root terminal : ν} {fault : Fault ν}
    (refused : checkEnds transitions root terminal = .error fault) :
    check transitions root terminal = .error fault := by
  rw [check, refused]

/-- What succeeds when the check of a diagram does, and otherwise reports its fault, is decided by
the rules of diagrams. -/
theorem decidedBy_rules {transitions : List (Transition String Label)} {root terminal : String}
    (accepted : ∀ levels, check transitions root terminal = .ok levels →
      ∃ result, outcome = .ok result)
    (refused : ∀ fault, check transitions root terminal = .error fault →
      outcome = .error (.violation fault.violation)) :
    DecidedBy outcome (rules transitions root terminal) := by
  rcases checkEnds_cases transitions root terminal with
    ⟨unknown, found⟩ | ⟨known, targeted, found⟩ | ⟨isRoot, unknown, found⟩ |
      ⟨isRoot, known, left, found⟩ | ⟨isRoot, isTerminal, ends⟩
  · exact .refused unknown ⟨_, rfl, refused _ (check_of_refused_ends found)⟩
  · apply DecidedBy.passed (not_not.mpr known)
    exact .refused targeted ⟨_, rfl, refused _ (check_of_refused_ends found)⟩
  · apply DecidedBy.passed (not_not.mpr isRoot.1)
    apply DecidedBy.passed isRoot.2
    exact .refused unknown ⟨_, rfl, refused _ (check_of_refused_ends found)⟩
  · apply DecidedBy.passed (not_not.mpr isRoot.1)
    apply DecidedBy.passed isRoot.2
    apply DecidedBy.passed (not_not.mpr known)
    exact .refused left ⟨_, rfl, refused _ (check_of_refused_ends found)⟩
  · apply DecidedBy.passed (not_not.mpr isRoot.1)
    apply DecidedBy.passed isRoot.2
    apply DecidedBy.passed (not_not.mpr isTerminal.1)
    apply DecidedBy.passed isTerminal.2
    -- Between a root and a terminal, a fault of the levels comes before a cycle.
    have inconsistent_iff := check_inconsistent_iff ends
    have cyclic_iff := check_cyclic_iff ends
    rw [length_sources] at inconsistent_iff cyclic_iff
    cases checked : check transitions root terminal with
    | ok levels =>
      have even := mt inconsistent_iff.mpr (by simp [checked])
      have acyclic := mt (fun cycle => cyclic_iff.mpr ⟨even, cycle⟩) (by simp [checked])
      apply DecidedBy.passed even
      apply DecidedBy.passed acyclic
      obtain ⟨result, rfl⟩ := accepted levels checked
      exact .accepted result
    | error fault =>
      have reported := refused fault checked
      have expanded := checked
      rw [check_of_ends ends] at expanded
      rcases expand_error expanded with rfl | ⟨node, rfl⟩
      · obtain ⟨even, cycle⟩ := cyclic_iff.mp checked
        apply DecidedBy.passed even
        exact .refused cycle ⟨_, rfl, reported⟩
      · exact .refused (inconsistent_iff.mp ⟨node, checked⟩) ⟨_, rfl, reported⟩

/-- The check of what is given by name is decided by these rules. It returns levels exactly if it
violates none. -/
theorem decidedBy_checkNamed (transitions : List (Transition String Label))
    (root terminal : String) :
    DecidedBy (checkNamed transitions root terminal) (rules transitions root terminal) := by
  rw [checkNamed, checkGiven_ofTransition]
  apply decidedBy_rules
  · intro levels accepted
    exact ⟨levels.map (·.map .text), by rw [accepted]; rfl⟩
  · intro fault refused
    rw [refused]
    rfl

end Diagram
end Csp
