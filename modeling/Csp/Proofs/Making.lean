import Csp.Collector.Callback
import Csp.Proofs.Refusal

/-!
# What the makers return

A maker that accepts its arguments has brought every part into its normal form
and found it in order. These laws say for each maker what its result consists of
and which of its checks can be relied on afterwards.
-/
namespace Csp

/-- Freezing what can be listed is freezing each item of the list. So whatever can be gone through
can be frozen. -/
theorem Value.frozenItems_of_items {v : Value} {items : List Value} (listed : v.items = .ok items) :
    v.frozenItems = .ok (items.map frozen) := by
  have pure_eq : (fun item : Value => (.ok item.frozen : Except Failure Value)) =
      fun item => pure item.frozen := rfl
  rw [frozenItems, mapItems_of_items _ listed, pure_eq, List.mapM_pure]
  rfl

/-- An intensional constraint keeps its expression as it was given. It is refused if the expression
is empty, and only then. -/
theorem Intension.make_ok {id expression : Value} {c : Intension Value}
    (made : Intension.make id expression = .ok c) :
    id.normalId = .ok c.id ∧ c.expression = expression ∧ expression.isTrue = true := by
  obtain ⟨id, named, made⟩ := bind_eq_ok.mp made
  split at made
  · rename_i true
    cases made
    exact ⟨named, rfl, true⟩
  · cases made

/-- A table keeps both its sides frozen, and either may be empty. The maker does not ask for one
side only. -/
theorem Table.make_ok {id scope supports conflicts : Value} {c : Table Value}
    (made : Table.make id scope supports conflicts = .ok c) :
    id.normalId = .ok c.id ∧ scope.items = .ok c.scope ∧ supports.frozenItems = .ok c.supports ∧
      conflicts.frozenItems = .ok c.conflicts := by
  obtain ⟨id, named, made⟩ := bind_eq_ok.mp made
  obtain ⟨scope, mentioned, made⟩ := bind_eq_ok.mp made
  obtain ⟨supports, allowed, made⟩ := bind_eq_ok.mp made
  obtain ⟨conflicts, forbidden, made⟩ := bind_eq_ok.mp made
  cases made
  exact ⟨named, mentioned, allowed, forbidden⟩

/-- An instance keeps what its three lists hold, and its two tags as they are given. Objectives and
annotations that are missing are read as nothing. -/
theorem Instance.make_ok {format framework vars constraints objectives annotations : Value}
    {x : Instance Value}
    (made : make format framework vars constraints objectives annotations = .ok x) :
    x.format = format ∧ x.framework = framework ∧ vars.items = .ok x.vars ∧
      constraints.items = .ok x.constraints ∧
      objectives.present?.mapM Value.items = .ok x.objectives ∧
      annotations.present?.mapM Value.entries = .ok x.annotations := by
  obtain ⟨vars, declared, made⟩ := bind_eq_ok.mp made
  obtain ⟨constraints, stated, made⟩ := bind_eq_ok.mp made
  obtain ⟨objectives, optimised, made⟩ := bind_eq_ok.mp made
  obtain ⟨annotations, annotated, made⟩ := bind_eq_ok.mp made
  cases made
  exact ⟨rfl, rfl, declared, stated, optimised, annotated⟩

/-- A table that lists the rows for one of its two meanings has none for the other. Which of the two
it is, is told by the flag. -/
theorem tableOf_ok {terms : List Value} {rows : Value} {positive : Bool} {t : Table Value}
    (made : tableOf terms rows positive = .ok t) :
    t.id = "" ∧ t.scope = terms ∧ ∃ frozen, rows.frozenItems = .ok frozen ∧
      t.supports = (if positive then frozen else []) ∧
        t.conflicts = if positive then [] else frozen := by
  cases positive with
  | true =>
    obtain ⟨named, mentioned, allowed, forbidden⟩ := Table.make_ok made
    exact ⟨(Except.ok.inj named).symm, (Except.ok.inj mentioned).symm, t.supports, allowed, rfl,
      (Except.ok.inj forbidden).symm⟩
  | false =>
    obtain ⟨named, mentioned, allowed, forbidden⟩ := Table.make_ok made
    exact ⟨(Except.ok.inj named).symm, (Except.ok.inj mentioned).symm, t.conflicts, forbidden,
      (Except.ok.inj allowed).symm, rfl⟩

namespace Automaton

/-- An automaton is made of the transitions and the states that it was checked with. -/
theorem ofTransitions_ok {transitions : List (Transition String Label)} {start : String}
    {finals : List String} {a : Automaton} (made : ofTransitions transitions start finals = .ok a) :
    a.transitions = transitions ∧ a.start = start ∧ a.finals = finals := by
  unfold ofTransitions at made
  split at made
  · cases made
  · cases made
    exact ⟨rfl, rfl, rfl⟩

/-- What the check accepts is made into an automaton. -/
theorem ofTransitions_of_accepted {transitions : List (Transition String Label)} {start : String}
    {finals states : List String} (accepted : check transitions start finals = .ok states) :
    ∃ a, ofTransitions transitions start finals = .ok a := by
  unfold ofTransitions
  split
  · rename_i refused
    rw [accepted] at refused
    cases refused
  · exact ⟨_, rfl⟩

/-- A fault of the check is passed on as it is. -/
theorem ofTransitions_of_refused {transitions : List (Transition String Label)} {start : String}
    {finals : List String} {fault : Fault String Label}
    (refused : check transitions start finals = .error fault) :
    ofTransitions transitions start finals = .error fault := by
  unfold ofTransitions
  split
  · rename_i outcome
    rw [refused] at outcome
    cases outcome
    rfl
  · rename_i accepted
    rw [refused] at accepted
    cases accepted

end Automaton

/-- The steps of the maker of automaton constraints that follow once its arguments are read. Each of
them can still fail, in the order in which they stand here. -/
theorem Regular.make_of_read {id scope transitions start finals : Value} {name first : String}
    {terms items : List Value} (named : id.normalId = .ok name)
    (mentioned : scope.items = .ok terms) (listed : transitions.items = .ok items)
    (startText : start.plain = .ok first) :
    Regular.make id scope transitions start finals =
      requireItems terms .emptyVariables >>= fun _ =>
        requireItems items .emptyTransitions >>= fun _ =>
          finalStates finals >>= fun texts =>
            requireItems (texts.map .text) .emptyFinals >>= fun _ =>
              items.mapM (Value.normalTransition "state") >>= fun normal =>
                (Automaton.ofTransitions normal first texts).mapError (·.failure) >>= fun a =>
                  .ok ⟨name, terms, a⟩ := by
  simp only [Regular.make, named, mentioned, listed, startText, bind, Except.bind]
  rfl

/-- An identifier without a text stops the maker at once, and a start state without one stops it
before any rule is checked. -/
theorem Regular.make_of_unwritten {id scope transitions start finals : Value} {failure : Failure}
    {terms items : List Value} (mentioned : scope.items = .ok terms)
    (listed : transitions.items = .ok items)
    (unwritten : id.normalId = .error failure ∨
      ∃ name, id.normalId = .ok name ∧ start.plain = .error failure) :
    Regular.make id scope transitions start finals = .error failure := by
  rcases unwritten with unnamed | ⟨name, named, unwritten⟩
  · simp only [Regular.make, unnamed, bind, Except.bind]
  · simp only [Regular.make, named, mentioned, listed, unwritten, bind, Except.bind]

/-- Where scope and final states are not empty, the first row that cannot be read decides. What it
fails with is what the constraint fails with. -/
theorem Regular.make_of_unread {id scope transitions start finals : Value} {name first : String}
    {terms items : List Value} {texts : List String} {failure : Failure}
    (named : id.normalId = .ok name) (mentioned : scope.items = .ok terms) (filled : terms ≠ [])
    (listed : transitions.items = .ok items) (startText : start.plain = .ok first)
    (finalTexts : finalStates finals = .ok texts) (someFinal : texts ≠ [])
    (unread : items.mapM (Value.normalTransition "state") = .error failure) :
    Regular.make id scope transitions start finals = .error failure := by
  have someItem : items ≠ [] := by
    rintro rfl
    cases unread
  rw [make_of_read named mentioned listed startText, requireItems_of_filled filled,
    requireItems_of_filled someItem, finalTexts, unread]
  have someText : texts.map Value.text ≠ [] := mt List.map_eq_nil_iff.mp someFinal
  simp only [bind, Except.bind, requireItems_of_filled someText]

/-- What an automaton constraint is made of: a scope and final states that are not empty, and the
normal forms of its transitions, of which there is at least one. -/
theorem Regular.make_ok {id scope transitions start finals : Value} {c : Regular Value}
    (made : Regular.make id scope transitions start finals = .ok c) :
    id.normalId = .ok c.id ∧ scope.items = .ok c.scope ∧ c.scope ≠ [] ∧
      (∃ items, transitions.items = .ok items ∧
        items.mapM (Value.normalTransition "state") = .ok c.automaton.transitions) ∧
      c.automaton.transitions ≠ [] ∧ start.plain = .ok c.automaton.start ∧
        finalStates finals = .ok c.automaton.finals ∧ c.automaton.finals ≠ [] := by
  obtain ⟨id, named, made⟩ := bind_eq_ok.mp made
  obtain ⟨scope, mentioned, made⟩ := bind_eq_ok.mp made
  obtain ⟨items, listed, made⟩ := bind_eq_ok.mp made
  obtain ⟨start, startText, made⟩ := bind_eq_ok.mp made
  obtain ⟨_, scopeFilled, made⟩ := bind_eq_ok.mp made
  obtain ⟨_, itemsFilled, made⟩ := bind_eq_ok.mp made
  obtain ⟨finals, finalTexts, made⟩ := bind_eq_ok.mp made
  obtain ⟨_, finalsFilled, made⟩ := bind_eq_ok.mp made
  obtain ⟨normal, read, made⟩ := bind_eq_ok.mp made
  obtain ⟨a, outcome, made⟩ := bind_eq_ok.mp made
  cases made
  obtain ⟨rfl, rfl, rfl⟩ := Automaton.ofTransitions_ok (mapError_eq_ok.mp outcome)
  have someTransition : a.transitions ≠ [] := by
    intro none
    have none := none ▸ mapM_eq_ok.mp read
    exact requireItems_ok itemsFilled (List.forall₂_nil_right_iff.mp none)
  exact ⟨named, mentioned, requireItems_ok scopeFilled, ⟨items, listed, read⟩, someTransition,
    startText, finalTexts, mt List.map_eq_nil_iff.mpr (requireItems_ok finalsFilled)⟩

namespace Diagram

/-- A diagram is made of the transitions that it was checked with. -/
theorem ofTransitions_ok {transitions : List (Transition String Label)} {root terminal : String}
    {d : Diagram} (made : ofTransitions transitions root terminal = .ok d) :
    d.transitions = transitions ∧ d.root = root ∧ d.terminal = terminal := by
  unfold ofTransitions at made
  split at made
  · cases made
  · cases made
    exact ⟨rfl, rfl, rfl⟩

/-- What the check accepts is made into a diagram, with the levels that the check returns. -/
theorem ofTransitions_of_accepted {transitions : List (Transition String Label)}
    {root terminal : String} {levels : List (List String)}
    (accepted : check transitions root terminal = .ok levels) :
    ∃ d, ofTransitions transitions root terminal = .ok d := by
  unfold ofTransitions
  split
  · rename_i refused
    rw [accepted] at refused
    cases refused
  · exact ⟨_, rfl⟩

/-- A fault of the check of diagrams is passed on as well. -/
theorem ofTransitions_of_refused {transitions : List (Transition String Label)}
    {root terminal : String} {fault : Fault String}
    (refused : check transitions root terminal = .error fault) :
    ofTransitions transitions root terminal = .error fault := by
  unfold ofTransitions
  split
  · rename_i outcome
    rw [refused] at outcome
    cases outcome
    rfl
  · rename_i accepted
    rw [refused] at accepted
    cases accepted

end Diagram

/-- The steps of the maker of diagram constraints that follow once its arguments are read. The check
of the diagram comes last. -/
theorem Mdd.make_of_read {id scope transitions root terminal : Value} {name first last : String}
    {terms items : List Value} (named : id.normalId = .ok name)
    (mentioned : scope.items = .ok terms) (listed : transitions.items = .ok items)
    (rootText : root.plain = .ok first) (terminalText : terminal.plain = .ok last) :
    Mdd.make id scope transitions root terminal =
      requireItems terms .emptyVariables >>= fun _ =>
        requireItems items .emptyTransitions >>= fun _ =>
          items.mapM (Value.normalTransition "node") >>= fun normal =>
            (Diagram.ofTransitions normal first last).mapError (.violation ·.violation) >>=
              fun d => .ok ⟨name, terms, d⟩ := by
  simp only [Mdd.make, named, mentioned, listed, rootText, terminalText, bind, Except.bind]
  rfl

/-- An identifier without a text stops the maker at once, and a root or a terminal without one stops
it before any rule is checked. -/
theorem Mdd.make_of_unwritten {id scope transitions root terminal : Value} {failure : Failure}
    {terms items : List Value} (mentioned : scope.items = .ok terms)
    (listed : transitions.items = .ok items)
    (unwritten : id.normalId = .error failure ∨
      ∃ name, id.normalId = .ok name ∧ (root.plain = .error failure ∨
        ∃ first, root.plain = .ok first ∧ terminal.plain = .error failure)) :
    Mdd.make id scope transitions root terminal = .error failure := by
  rcases unwritten with unnamed | ⟨name, named, unwritten | ⟨first, rootText, unwritten⟩⟩
  · simp only [Mdd.make, unnamed, bind, Except.bind]
  · simp only [Mdd.make, named, mentioned, listed, unwritten, bind, Except.bind]
  · simp only [Mdd.make, named, mentioned, listed, rootText, unwritten, bind, Except.bind]

/-- Where the scope is not empty, the first row that cannot be read decides. Rows after it are not
looked at. -/
theorem Mdd.make_of_unread {id scope transitions root terminal : Value} {name first last : String}
    {terms items : List Value} {failure : Failure} (named : id.normalId = .ok name)
    (mentioned : scope.items = .ok terms) (filled : terms ≠ [])
    (listed : transitions.items = .ok items) (rootText : root.plain = .ok first)
    (terminalText : terminal.plain = .ok last)
    (unread : items.mapM (Value.normalTransition "node") = .error failure) :
    Mdd.make id scope transitions root terminal = .error failure := by
  have someItem : items ≠ [] := by
    rintro rfl
    cases unread
  rw [make_of_read named mentioned listed rootText terminalText, requireItems_of_filled filled,
    requireItems_of_filled someItem, unread]
  rfl

/-- What a diagram constraint is made of: a scope that is not empty, and the normal forms of its
transitions, between the plain texts of its root and of its terminal. -/
theorem Mdd.make_ok {id scope transitions root terminal : Value} {c : Mdd Value}
    (made : Mdd.make id scope transitions root terminal = .ok c) :
    ∃ items, transitions.items = .ok items ∧
      items.mapM (Value.normalTransition "node") = .ok c.diagram.transitions ∧
      root.plain = .ok c.diagram.root ∧ terminal.plain = .ok c.diagram.terminal ∧
      id.normalId = .ok c.id ∧ scope.items = .ok c.scope ∧ c.scope ≠ [] := by
  obtain ⟨id, named, made⟩ := bind_eq_ok.mp made
  obtain ⟨scope, mentioned, made⟩ := bind_eq_ok.mp made
  obtain ⟨items, listed, made⟩ := bind_eq_ok.mp made
  obtain ⟨root, rootText, made⟩ := bind_eq_ok.mp made
  obtain ⟨terminal, terminalText, made⟩ := bind_eq_ok.mp made
  obtain ⟨_, filled, made⟩ := bind_eq_ok.mp made
  obtain ⟨_, _, made⟩ := bind_eq_ok.mp made
  obtain ⟨normal, read, made⟩ := bind_eq_ok.mp made
  obtain ⟨d, outcome, made⟩ := bind_eq_ok.mp made
  cases made
  obtain ⟨rfl, rfl, rfl⟩ := Diagram.ofTransitions_ok (mapError_eq_ok.mp outcome)
  exact ⟨items, listed, read, rootText, terminalText, named, mentioned, requireItems_ok filled⟩

namespace Objective

variable {sense : Sense} {id : Value} {x : Objective Value}

/-- An objective is kept as its parts describe it. Nothing is checked beyond the types, so
expression and terms may both be filled. -/
theorem make_ok {kind terms coefficients expression : Value}
    (made : make sense id kind terms coefficients expression = .ok x) :
    x.sense = sense ∧ id.normalId = .ok x.id ∧ kind.objectiveKind = .ok x.kind ∧
      terms.items = .ok x.terms ∧ coefficients.wholes = .ok x.coefficients ∧
        x.expression = expression := by
  obtain ⟨id, named, made⟩ := bind_eq_ok.mp made
  obtain ⟨kind, known, made⟩ := bind_eq_ok.mp made
  obtain ⟨terms, listed, made⟩ := bind_eq_ok.mp made
  obtain ⟨coefficients, counted, made⟩ := bind_eq_ok.mp made
  cases made
  exact ⟨rfl, named, known, listed, counted, rfl⟩

/-- An expression that is not empty comes with the kind of expressions, without terms and without
coefficients. -/
def Unambiguous (x : Objective Value) : Prop :=
  x.expression ≠ .text "" → x.kind = .expression ∧ x.terms = [] ∧ x.coefficients = []

/-- An objective by an expression has no terms and no coefficients. Its kind is that of expressions,
whatever a document says. -/
theorem ofExpression_ok {expression : Value} (made : ofExpression sense id expression = .ok x) :
    id.normalId = .ok x.id ∧ x.kind = .expression ∧ x.terms = [] ∧ x.coefficients = [] ∧
      x.expression = expression := by
  obtain ⟨_, named, known, listed, counted, kept⟩ := make_ok made
  exact ⟨named, (Except.ok.inj known).symm, (Except.ok.inj listed).symm,
    (Except.ok.inj counted).symm, kept⟩

/-- An objective made of an expression has no terms, so it has one representation only. -/
theorem unambiguous_of_expression {expression : Value}
    (made : ofExpression sense id expression = .ok x) : x.Unambiguous := by
  obtain ⟨_, kind, terms, coefficients, _⟩ := ofExpression_ok made
  exact fun _ => ⟨kind, terms, coefficients⟩

/-- An objective over terms has the empty expression. Missing coefficients are none. -/
theorem ofTerms_ok {kind terms coefficients : Value}
    (made : ofTerms sense id kind terms coefficients = .ok x) :
    id.normalId = .ok x.id ∧ x.expression = .text "" := by
  obtain ⟨_, _, made⟩ := bind_eq_ok.mp made
  obtain ⟨_, _, made⟩ := bind_eq_ok.mp made
  obtain ⟨_, named, _, _, _, kept⟩ := make_ok made
  exact ⟨named, kept⟩

/-- An objective made of terms has no expression, whatever its kind is. -/
theorem unambiguous_of_terms {kind terms coefficients : Value}
    (made : ofTerms sense id kind terms coefficients = .ok x) : x.Unambiguous := by
  obtain ⟨_, empty⟩ := ofTerms_ok made
  exact fun filled => absurd empty filled

end Objective
end Csp
