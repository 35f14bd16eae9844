import Csp.Proofs.Given
import Csp.Proofs.Refusal
import Csp.Proofs.Walk

/-!
# Which automata are accepted

The check of an automaton makes three passes: over the start state, over the
final states, and over the transitions with those before them kept aside. Each
pass stops at its first offender, so what is reported is the first offender of
the first pass that has any. Determinism is a condition on pairs of positions;
the last pass finds the first position that makes such a pair with one before.
-/
namespace Csp.Automaton

open Transition

variable {ν α : Type}

/-- Two transitions that leave the same state on the same value. A truth value is the same as its
number here. -/
def SamePair [BEq α] (t u : Transition ν α) : Prop :=
  t.source = u.source ∧ (t.value == u.value) = true

/-- No two positions of the list hold transitions with the same state and value. Exact duplicates
count as well, since they agree in both. -/
def Deterministic [BEq α] (transitions : List (Transition ν α)) : Prop :=
  transitions.Pairwise fun t u => ¬ SamePair t u

/-- The first transition with a state and value that occurred at an earlier position. The occurrence
that is named is the later one of the two. -/
def FirstRepeated [BEq α] (transitions : List (Transition ν α)) (t : Transition ν α) : Prop :=
  ∃ earlier later, transitions = earlier ++ t :: later ∧ Deterministic earlier ∧
    ∃ u ∈ earlier, SamePair u t

/-- The first of the final states that is not known. All those before it in the list are known. -/
def FirstUnknown (known : ν → Prop) (finals : List ν) (state : ν) : Prop :=
  ∃ before after, finals = before ++ state :: after ∧ (∀ earlier ∈ before, known earlier) ∧
    ¬ known state

/-- The first unknown state is among the final states, so they are not all known. -/
theorem FirstUnknown.not_all {known : ν → Prop} {finals : List ν} {state : ν}
    (first : FirstUnknown known finals state) : ¬ ∀ final ∈ finals, known final := by
  obtain ⟨before, after, rfl, _, unknown⟩ := first
  exact fun all => unknown (all state (by simp))

/-- The second pass stops at the first final state that is not known, whatever the test is that
tells it. -/
theorem find?_unknown_eq_some {known : ν → Prop} {test : ν → Bool}
    (decides : ∀ state, test state = true ↔ known state) {finals : List ν} {state : ν} :
    finals.find? (!test ·) = some state ↔ FirstUnknown known finals state := by
  rw [List.find?_eq_some_iff_append]
  simp only [Bool.not_eq_true', ← Bool.not_eq_true, Bool.not_not, decides]
  constructor
  · rintro ⟨unknown, before, after, rfl, allKnown⟩
    exact ⟨before, after, rfl, allKnown, unknown⟩
  · rintro ⟨before, after, rfl, allKnown, unknown⟩
    exact ⟨unknown, before, after, rfl, allKnown⟩

/-- The search finds nothing only where every final state is known. Its test may be any that decides
what is known. -/
theorem find?_unknown_eq_none {known : ν → Prop} {test : ν → Bool}
    (decides : ∀ state, test state = true ↔ known state) {finals : List ν} :
    finals.find? (!test ·) = none ↔ ∀ state ∈ finals, known state := by
  rw [List.find?_eq_none]
  simp only [Bool.not_eq_true', Bool.not_eq_false, decides]

/-- A transition that repeats an earlier one is a witness that the list is not deterministic, and
this holds of the first such transition in particular. -/
theorem FirstRepeated.not_deterministic [BEq α] {transitions : List (Transition ν α)}
    {t : Transition ν α} (first : FirstRepeated transitions t) : ¬ Deterministic transitions := by
  obtain ⟨earlier, later, rfl, _, u, listed, same⟩ := first
  intro distinct
  exact (List.pairwise_append.mp distinct).2.2 u listed t List.mem_cons_self same

/-- What is repeated first is one of the transitions. -/
theorem FirstRepeated.mem [BEq α] {transitions : List (Transition ν α)} {t : Transition ν α}
    (first : FirstRepeated transitions t) : t ∈ transitions := by
  obtain ⟨earlier, later, rfl, _⟩ := first
  exact List.mem_append_right earlier List.mem_cons_self

/-- The first unknown state is one of those that were given, so what is said of all of them applies
to it. -/
theorem FirstUnknown.mem {known : ν → Prop} {finals : List ν} {state : ν}
    (first : FirstUnknown known finals state) : state ∈ finals := by
  obtain ⟨before, after, rfl, _⟩ := first
  exact List.mem_append_right before List.mem_cons_self

variable [BEq ν] [LawfulBEq ν]

/-- The list of nodes is searched with the equality of names, which is lawful. So the search finds
exactly the ends of transitions. -/
theorem nodes_contains {transitions : List (Transition ν α)} {node : ν} :
    (nodes transitions).contains node = true ↔ IsEnd transitions node := by
  rw [List.contains_iff_mem, mem_nodes_iff_isEnd]

variable [BEq α] [EquivBEq α]

/-- Some transition that was kept aside competes with this one. Competing is having the same state
and a label of the same number. -/
theorem any_competes {earlier : List (Transition ν α)} {t : Transition ν α} :
    earlier.any (competes t) = true ↔ ∃ u ∈ earlier, SamePair u t := by
  simp only [List.any_eq_true, competes, Bool.and_eq_true, beq_iff_eq]
  constructor
  · rintro ⟨u, listed, state, value⟩
    exact ⟨u, listed, state.symm, BEq.symm value⟩
  · rintro ⟨u, listed, state, value⟩
    exact ⟨u, listed, state.symm, BEq.symm value⟩

/-- The scan stops at a transition that repeats one that it has passed, whatever comes later. -/
theorem firstCompeting_of_repeated {earlier : List (Transition ν α)} {t : Transition ν α}
    (repeated : ∃ u ∈ earlier, SamePair u t) (later : List (Transition ν α)) :
    firstCompeting earlier (t :: later) = some t := by
  rw [firstCompeting, if_pos (any_competes.mpr repeated)]

/-- A transition that repeats nothing is passed, and from there on it can itself be repeated. -/
theorem firstCompeting_of_fresh {earlier : List (Transition ν α)} {t : Transition ν α}
    (fresh : ¬ ∃ u ∈ earlier, SamePair u t) (later : List (Transition ν α)) :
    firstCompeting earlier (t :: later) = firstCompeting (t :: earlier) later := by
  rw [firstCompeting, if_neg (mt any_competes.mp fresh)]

/-- The third pass finds nothing in a list that is deterministic and has no state and value in
common with what was kept aside. -/
theorem firstCompeting_eq_none {earlier transitions : List (Transition ν α)} :
    firstCompeting earlier transitions = none ↔
      Deterministic transitions ∧ ∀ t ∈ transitions, ¬ ∃ u ∈ earlier, SamePair u t := by
  induction transitions generalizing earlier with
  | nil => simp [firstCompeting, Deterministic]
  | cons t later inductionHypothesis =>
    by_cases repeated : ∃ u ∈ earlier, SamePair u t
    · rw [firstCompeting_of_repeated repeated]
      constructor
      · intro impossible
        cases impossible
      · rintro ⟨_, fresh⟩
        exact absurd repeated (fresh t List.mem_cons_self)
    · rw [firstCompeting_of_fresh repeated, inductionHypothesis]
      simp only [Deterministic, List.pairwise_cons, List.forall_mem_cons, List.exists_mem_cons_iff,
        repeated, not_false_eq_true, true_and, not_or]
      constructor
      · rintro ⟨distinct, fresh⟩
        exact ⟨⟨fun u listed => (fresh u listed).1, distinct⟩, fun u listed => (fresh u listed).2⟩
      · rintro ⟨⟨first, distinct⟩, fresh⟩
        exact ⟨distinct, fun u listed => ⟨first u listed, fresh u listed⟩⟩

/-- The third pass finds a transition that repeats one before it, in the list or kept aside, when
it finds nothing up to there. -/
theorem firstCompeting_eq_some {earlier transitions : List (Transition ν α)}
    {t : Transition ν α} :
    firstCompeting earlier transitions = some t ↔
      ∃ before after, transitions = before ++ t :: after ∧
        firstCompeting earlier before = none ∧ ∃ u, (u ∈ earlier ∨ u ∈ before) ∧ SamePair u t := by
  induction transitions generalizing earlier with
  | nil => simp [firstCompeting]
  | cons first later inductionHypothesis =>
    by_cases repeated : ∃ u ∈ earlier, SamePair u first
    · rw [firstCompeting_of_repeated repeated]
      constructor
      · intro found
        cases found
        obtain ⟨u, aside, same⟩ := repeated
        exact ⟨[], later, rfl, rfl, u, .inl aside, same⟩
      · rintro ⟨before, after, split, silent, _⟩
        cases before with
        | nil =>
          cases split
          rfl
        | cons other before =>
          cases split
          rw [firstCompeting_of_repeated repeated] at silent
          cases silent
    · rw [firstCompeting_of_fresh repeated, inductionHypothesis]
      have moved (u : Transition ν α) (before : List (Transition ν α)) :
          (u ∈ first :: earlier ∨ u ∈ before) ↔ (u ∈ earlier ∨ u ∈ first :: before) := by
        simp only [List.mem_cons, or_assoc, or_left_comm]
      constructor
      · rintro ⟨before, after, rfl, silent, u, place, same⟩
        rw [← firstCompeting_of_fresh repeated] at silent
        exact ⟨first :: before, after, rfl, silent, u, (moved u before).mp place, same⟩
      · rintro ⟨before, after, split, silent, u, place, same⟩
        cases before with
        | nil =>
          cases split
          rcases place with aside | inside
          · exact absurd ⟨u, aside, same⟩ repeated
          · cases inside
        | cons other before =>
          cases split
          rw [firstCompeting_of_fresh repeated] at silent
          exact ⟨before, after, rfl, silent, u, (moved u before).mpr place, same⟩

/-- A scan that starts with nothing passed and ends without a find has compared every pair of
transitions, so none compete. -/
theorem firstCompeting_nil_eq_none {transitions : List (Transition ν α)} :
    firstCompeting [] transitions = none ↔ Deterministic transitions := by
  rw [firstCompeting_eq_none]
  simp

/-- From the front of the list, the scan finds the first transition that repeats an earlier one,
which is the one that the report names. -/
theorem firstCompeting_nil_eq_some {transitions : List (Transition ν α)} {t : Transition ν α} :
    firstCompeting [] transitions = some t ↔ FirstRepeated transitions t := by
  simp [firstCompeting_eq_some, firstCompeting_nil_eq_none, FirstRepeated]

/-- Only one transition comes first among those that repeat an earlier one. So a report that names
it names nothing else. -/
theorem FirstRepeated.unique {transitions : List (Transition ν α)} {t u : Transition ν α}
    (first : FirstRepeated transitions t) (firstToo : FirstRepeated transitions u) : t = u := by
  rw [← firstCompeting_nil_eq_some] at first firstToo
  exact Option.some.inj (first.symm.trans firstToo)

example : firstCompeting [] [⟨"p", .int 1, "q"⟩, ⟨"p", .bool true, "r"⟩] =
    some (⟨"p", .bool true, "r"⟩ : Transition String Label) := by rfl

/-- The four outcomes of the check, each with the condition under which it is the outcome. The
conditions exclude each other, so each outcome tells which of them holds. -/
theorem check_cases (transitions : List (Transition ν α)) (start : ν) (finals : List ν) :
    (¬ IsEnd transitions start ∧ check transitions start finals = .error (.unknownStart start)) ∨
      (IsEnd transitions start ∧ ∃ state, FirstUnknown (IsEnd transitions) finals state ∧
        check transitions start finals = .error (.unknownFinal state)) ∨
      (IsEnd transitions start ∧ (∀ state ∈ finals, IsEnd transitions state) ∧
        ∃ t, FirstRepeated transitions t ∧
          check transitions start finals = .error (.nonDeterministic t.source t.value)) ∨
      (IsEnd transitions start ∧ (∀ state ∈ finals, IsEnd transitions state) ∧
        Deterministic transitions ∧ check transitions start finals = .ok (nodes transitions)) := by
  unfold check checkStates
  by_cases known : IsEnd transitions start
  · simp only [nodes_contains.mpr known, Bool.not_true, Bool.false_eq_true, if_false]
    cases unknown : finals.find? (!(nodes transitions).contains ·) with
    | some state =>
      have first := (find?_unknown_eq_some fun _ => nodes_contains).mp unknown
      exact .inr (.inl ⟨known, state, first, rfl⟩)
    | none =>
      have allKnown := (find?_unknown_eq_none fun _ => nodes_contains).mp unknown
      cases repeated : firstCompeting [] transitions with
      | some t =>
        have first := firstCompeting_nil_eq_some.mp repeated
        exact .inr (.inr (.inl ⟨known, allKnown, t, first, rfl⟩))
      | none =>
        have distinct := firstCompeting_nil_eq_none.mp repeated
        exact .inr (.inr (.inr ⟨known, allKnown, distinct, rfl⟩))
  · simp only [Bool.eq_false_iff.mpr (mt nodes_contains.mp known), Bool.not_false, if_true]
    exact .inl ⟨known, trivial⟩

/-! ## What is given by name -/

/-- A value that is the text of an endpoint. -/
def Known {α : Type} (transitions : List (Transition String α)) (v : Value) : Prop :=
  ∃ state, v = .text state ∧ IsEnd transitions state

/-- The outcome is a violation about the text of what it names, or what prevented the text. -/
def Names {β : Type} (outcome : Except Failure β) (text : Except Failure String)
    (about : String → Violation) : Prop :=
  (∃ name, text = .ok name ∧ outcome = .error (.violation (about name))) ∨
    ∃ failure, text = .error failure ∧ outcome = .error failure

/-- A report names what it is about. If the text is there, it stands in the message, and otherwise
the report fails in its place. -/
theorem names_reporting {β : Type} (text : Except Failure String) (about : String → Violation) :
    Names (.error (.reporting (about <$> text)) : Except Failure β) text about := by
  cases text with
  | ok name => exact .inl ⟨name, rfl, rfl⟩
  | error failure => exact .inr ⟨failure, rfl, rfl⟩

/-- The text by which a state is named that has been looked up in vain. It has to be usable as a key
for that. -/
def keyText (v : Value) : Except Failure String := do (← v.asKey).plain

/-- The report on a start state that was given as an arbitrary value needs its text, which may be
missing. This is all that can go wrong with the report. -/
theorem givenFailure_unknownStart (start : Value) :
    Fault.givenFailure (.unknownStart start) = .reporting (.unknownStart <$> keyText start) := by
  rw [Fault.givenFailure, Fault.givenViolation, keyText]
  cases start.asKey <;> rfl

/-- The report on a final state needs its text in the same way as that on the start state. -/
theorem givenFailure_unknownFinal (final : Value) :
    Fault.givenFailure (.unknownFinal final) = .reporting (.unknownFinal <$> keyText final) := by
  rw [Fault.givenFailure, Fault.givenViolation, keyText]
  cases final.asKey <;> rfl

/-- The states of the check of what is given by name are the texts of the endpoints. They are
searched with equality of values, by which a text equals texts only. -/
theorem contains_known {transitions : List (Transition String Label)} (v : Value) :
    ((nodes transitions).map Value.text).contains v = true ↔ Known transitions v := by
  rw [contains_named]
  simp only [Known, mem_nodes_iff_isEnd, and_comm]

/-- The four outcomes of the check of what is given by name, each with the condition under which it
is the outcome. -/
theorem checkNamed_cases (transitions : List (Transition String Label)) (start : Value)
    (finals : List Value) :
    (¬ Known transitions start ∧
        Names (checkNamed transitions start finals) (keyText start) .unknownStart) ∨
      (Known transitions start ∧ ∃ final, FirstUnknown (Known transitions) finals final ∧
        Names (checkNamed transitions start finals) (keyText final) .unknownFinal) ∨
      (Known transitions start ∧ (∀ final ∈ finals, Known transitions final) ∧
        ∃ t, FirstRepeated transitions t ∧
          Names (checkNamed transitions start finals) t.value.written
            (.nonDeterministic t.source)) ∨
      (Known transitions start ∧ (∀ final ∈ finals, Known transitions final) ∧
        Deterministic transitions ∧
          checkNamed transitions start finals = .ok ((nodes transitions).map .text)) := by
  rw [checkNamed_eq]
  by_cases known : Known transitions start
  · simp only [(contains_known start).mpr known, if_true]
    cases unknown : finals.find? fun v => !((nodes transitions).map Value.text).contains v with
    | some final =>
      have first := (find?_unknown_eq_some contains_known).mp unknown
      refine .inr (.inl ⟨known, final, first, ?_⟩)
      change Names (.error (Fault.givenFailure (.unknownFinal final))) _ _
      rw [givenFailure_unknownFinal]
      exact names_reporting _ _
    | none =>
      have allKnown := (find?_unknown_eq_none contains_known).mp unknown
      cases repeated : firstCompeting [] transitions with
      | some t =>
        have first := firstCompeting_nil_eq_some.mp repeated
        exact .inr (.inr (.inl ⟨known, allKnown, t, first, names_reporting _ _⟩))
      | none =>
        have distinct := firstCompeting_nil_eq_none.mp repeated
        exact .inr (.inr (.inr ⟨known, allKnown, distinct, rfl⟩))
  · have missing := Bool.eq_false_iff.mpr (mt (contains_known start).mp known)
    simp only [missing, Bool.false_eq_true, if_false]
    refine .inl ⟨known, ?_⟩
    rw [givenFailure_unknownStart]
    exact names_reporting _ _

/-- What names an offender is a failure, be it the report or what prevented the report. So it is
told apart from every result. -/
theorem Names.not_ok {β : Type} {outcome : Except Failure β} {text : Except Failure String}
    {about : String → Violation} (names : Names outcome text about) (result : β) :
    outcome ≠ .ok result := by
  rcases names with ⟨name, _, rfl⟩ | ⟨failure, _, rfl⟩
  · simp
  · simp

/-- An automaton over named states is accepted exactly when its start state and its final states
are endpoints of transitions and it is deterministic, and its states are then the endpoints. What
is reported otherwise is the start state; or else the first unknown final state; or else the first
transition that repeats an earlier one. A report names its offender, and if that cannot be a key or
cannot be written, the check fails on this instead. -/
theorem accepted_iff_deterministic (transitions : List (Transition String Label)) (start : Value)
    (finals : List Value) :
    ((∃ states : List String, states.Nodup ∧ (∀ node, node ∈ states ↔ IsEnd transitions node) ∧
        checkNamed transitions start finals = .ok (states.map .text)) ↔
      Known transitions start ∧ (∀ final ∈ finals, Known transitions final) ∧
        Deterministic transitions) ∧
    (¬ Known transitions start →
      Names (checkNamed transitions start finals) (keyText start) .unknownStart) ∧
    (Known transitions start → (¬ ∀ final ∈ finals, Known transitions final) →
      ∃ final, FirstUnknown (Known transitions) finals final ∧
        Names (checkNamed transitions start finals) (keyText final) .unknownFinal) ∧
    (Known transitions start → (∀ final ∈ finals, Known transitions final) →
      ¬ Deterministic transitions → ∃ t, FirstRepeated transitions t ∧
        Names (checkNamed transitions start finals) t.value.written
          (.nonDeterministic t.source)) := by
  have refused {text : Except Failure String} {about : String → Violation}
      (names : Names (checkNamed transitions start finals) text about) :
      ¬ ∃ states : List String, states.Nodup ∧ (∀ node, node ∈ states ↔ IsEnd transitions node) ∧
        checkNamed transitions start finals = .ok (states.map .text) := by
    rintro ⟨states, _, _, accepted⟩
    exact names.not_ok _ accepted
  rcases checkNamed_cases transitions start finals with
    ⟨unknown, names⟩ | ⟨known, final, first, names⟩ | ⟨known, allKnown, t, first, names⟩ |
      ⟨known, allKnown, distinct, accepted⟩
  · refine ⟨iff_of_false (refused names) fun all => unknown all.1, fun _ => names, ?_, ?_⟩
    · exact fun known => absurd known unknown
    · exact fun known => absurd known unknown
  · have notAll := first.not_all
    refine ⟨iff_of_false (refused names) fun all => notAll all.2.1, ?_, ?_, ?_⟩
    · exact fun unknown => absurd known unknown
    · exact fun _ _ => ⟨final, first, names⟩
    · exact fun _ allKnown => absurd allKnown notAll
  · have repeated := first.not_deterministic
    refine ⟨iff_of_false (refused names) fun all => repeated all.2.2, ?_, ?_, ?_⟩
    · exact fun unknown => absurd known unknown
    · exact fun _ notAll => absurd allKnown notAll
    · exact fun _ _ _ => ⟨t, first, names⟩
  · refine ⟨?_, ?_, ?_, ?_⟩
    · refine iff_of_true ⟨nodes transitions, nodup_eraseDups _, ?_, accepted⟩
        ⟨known, allKnown, distinct⟩
      exact fun node => mem_nodes_iff_isEnd
    · exact fun unknown => absurd known unknown
    · exact fun _ notAll => absurd allKnown notAll
    · exact fun _ _ repeated => absurd distinct repeated

/-- Two transitions on a value that takes too many digits to be written. -/
def longPair : List (Transition String Label) :=
  [⟨"a", .int unwritable, "b"⟩, ⟨"a", .int unwritable, "c"⟩]

/-- The scan finds the second of the two transitions. Only the comparison of the values is needed
for that, so neither value is written. -/
theorem firstCompeting_longPair :
    firstCompeting [] longPair = some ⟨"a", .int unwritable, "c"⟩ := by
  simp [longPair, firstCompeting, competes]

/-- The fault of the two transitions names the second of them. -/
theorem check_longPair :
    check longPair "a" ["b"] = .error (.nonDeterministic "a" (.int unwritable)) := by
  have known : checkStates longPair "a" ["b"] = .ok ["a", "b", "c"] := rfl
  rw [check, known, firstCompeting_longPair]

/-- The two transitions agree on their source and value and differ in their targets, so the pair is
not that of a deterministic automaton. -/
theorem not_deterministic_longPair : ¬ Deterministic longPair := by
  intro distinct
  have apart := (List.pairwise_cons.mp distinct).1 _ List.mem_cons_self
  exact apart ⟨rfl, BEq.rfl⟩

/-- A report on the two transitions would show the value. Its numeral would be too long, so this is
what is reported instead. -/
theorem failure_longPair :
    (Fault.nonDeterministic "a" (Label.int unwritable)).failure = .badNumeral := by
  have unwritten : (Label.int unwritable).written = .error .badNumeral :=
    numeral_of_long hasNumeral_unwritable
  rw [Fault.failure, Fault.violation, unwritten]
  rfl

/-- A cell of an array that has a number in the place of its name. It can be a key, and it has no
text. -/
def namelessCell : Value := .entity (.cell ⟨.int 5, [0]⟩)

/-- The pair is repeated and the cell is no state, but neither is reported, since what the message
would have to name cannot be written. -/
theorem unwritten_offenders :
    (Known longPair (.text "a") ∧ (∀ final ∈ [Value.text "b"], Known longPair final) ∧
        ¬ Deterministic longPair ∧
        checkNamed longPair (.text "a") [.text "b"] = .error .badNumeral) ∧
      ¬ Known [⟨"a", Label.int 0, "b"⟩] namelessCell ∧
        checkNamed [⟨"a", .int 0, "b"⟩] namelessCell [.text "b"] = .error .notText := by
  have startKnown : Known longPair (.text "a") :=
    ⟨"a", rfl, .inl ⟨_, List.mem_cons_self, rfl⟩⟩
  have finalsKnown : ∀ final ∈ [Value.text "b"], Known longPair final :=
    List.forall_mem_singleton.mpr ⟨"b", rfl, .inr ⟨_, List.mem_cons_self, rfl⟩⟩
  refine ⟨⟨startKnown, finalsKnown, not_deterministic_longPair, ?_⟩, ?_, rfl⟩
  · rw [checkNamed_eq, firstCompeting_longPair]
    exact congrArg Except.error failure_longPair
  · rintro ⟨state, same, _⟩
    cases same

end Csp.Automaton
