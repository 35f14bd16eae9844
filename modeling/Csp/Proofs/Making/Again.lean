import Csp.Make.Instance
import Csp.Proofs.Given
import Csp.Proofs.Making

/-!
# Making again what was made

The parts of what a maker returns are arguments that it accepts, and it makes
the same of them. Each normalisation leaves alone what it has normalised before,
a normal form has the type of argument that its reader takes, and what has passed
a check is checked again with the same outcome.

A mapping is passed on as the dictionary of its entries, and a part that is
missing as nothing.
-/
namespace Csp

/-! ## Normal forms -/

namespace Value

/-- A value that has been frozen stays as it is when it is frozen again, since freezing goes one
level deep and leaves tuples alone. -/
theorem frozen_frozen (v : Value) : v.frozen.frozen = v.frozen := by
  cases v <;> rfl

/-- Whatever has items, going through them is going through some list. A progression is gone through
without listing it, but the terms are there. -/
theorem exists_mapM_of_mapItems {β : Type} {action : Value → Except Failure β} {v : Value}
    {results : List β} (collected : v.mapItems action = .ok results) :
    ∃ items : List Value, items.mapM action = .ok results := by
  unfold mapItems at collected
  split at collected
  · rw [Progression.mapM_eq] at collected
    exact ⟨_, (List.mapM_map ..).trans collected⟩
  · obtain ⟨items, _, collected⟩ := bind_eq_ok.mp collected
    exact ⟨items, collected⟩

/-- Frozen items are frozen already. Freezing them again gives the same items. -/
theorem frozenItems_again {v : Value} {results : List Value}
    (listed : v.frozenItems = .ok results) :
    (Value.tuple results).frozenItems = .ok results := by
  obtain ⟨items, done⟩ := exists_mapM_of_mapItems listed
  rw [frozenItems, mapItems_of_items _ rfl]
  apply mapM_again _ done
  intro item result frozen
  cases frozen
  rw [frozen_frozen]

/-- Parts that are each read back from their form are read back from a tuple of the forms. The tuple
of the forms is what an entity gives back for the part. -/
theorem mapItems_forms {β : Type} (form : β → Value) {action : Value → Except Failure β}
    (each : ∀ part, action (form part) = .ok part) (parts : List β) :
    (Value.tuple (parts.map form)).mapItems action = .ok parts := by
  rw [mapItems_of_items _ rfl, mapM_map_ok each, List.map_id']

/-- Integers are whole numbers already. -/
theorem wholes_int (numbers : List Int) :
    (Value.tuple (numbers.map .int)).wholes = .ok numbers :=
  mapItems_forms .int (fun _ => rfl) numbers

/-- A transition in its normal form is read as itself, whatever word an error would use for its
ends. -/
theorem normalTransition_ofTransition (ends : String) (t : Transition String Label) :
    (Value.ofTransition t).normalTransition ends = .ok t := by
  obtain ⟨source, value, target⟩ := t
  cases value <;> rfl

/-- So all transitions of a constraint are read as themselves. -/
theorem normalTransitions_ofTransition (ends : String)
    (transitions : List (Transition String Label)) :
    (transitions.map ofTransition).mapM (normalTransition ends) = .ok transitions := by
  rw [mapM_map_ok (normalTransition_ofTransition ends), List.map_id']

/-- The argument for a part that may be missing. -/
def optional {β : Type} (form : β → Value) (part : Option β) : Value := part.elim .null form

/-- A part that may be missing is read from its form if each part is. -/
theorem optional_again {β : Type} (form : β → Value) {action : Value → Except Failure β}
    {given : Value} {part : Option β}
    (present : ∀ result, (form result).present? = some (form result))
    (again : ∀ item result, action item = .ok result → action (form result) = .ok result)
    (read : given.present?.mapM action = .ok part) :
    (optional form part).present?.mapM action = .ok part := by
  generalize given.present? = argument at read
  cases argument with
  | none =>
    cases read
    rfl
  | some item =>
    obtain ⟨result, done, made⟩ := functor_map_eq_ok.mp read
    cases made
    rw [optional, Option.elim_some, present]
    exact functor_map_eq_ok.mpr ⟨result, again item result done, rfl⟩

end Value

/-- Final states that are texts are kept as they are, even if there are none. -/
theorem finalStates_text (finals : List String) :
    finalStates (.tuple (finals.map .text)) = .ok finals :=
  Value.mapItems_forms .text (fun _ => rfl) finals

/-! ## The makers -/

/-- The domain of a variable has been frozen already, and the identifier is not touched. -/
theorem Variable.make_again {id domain : Value} {x : Variable Value}
    (made : make id domain = .ok x) : make x.id (.tuple x.domain) = .ok x := by
  obtain ⟨items, listed, made⟩ := bind_eq_ok.mp made
  cases made
  rw [make, Value.frozenItems_again listed]
  rfl

namespace Grid

/-- The domain under a pattern is frozen already. So is its pattern, which is kept as it is. -/
theorem makeDomain_again (given entry : Value × Value) (made : makeDomain given = .ok entry) :
    makeDomain entry = .ok entry := by
  obtain ⟨items, listed, made⟩ := bind_eq_ok.mp made
  cases made
  rw [makeDomain, Value.frozenItems_again listed]
  rfl

/-- The steps of the maker of arrays, of which the last is that of a part that may be missing. -/
theorem make_eq (id size domains fallback : Value) :
    make id size domains fallback =
      size.wholes >>= fun size => domains.entries >>= fun entries =>
        entries.mapM makeDomain >>= fun domains =>
          fallback.present?.mapM Value.frozenItems >>= fun fallback =>
            .ok ⟨id, size, domains, fallback⟩ := by
  cases fallback <;> rfl

/-- An array keeps its name as it is given, and its domains frozen. The domain for the other cells
may be missing. -/
theorem make_ok {id size domains fallback : Value} {x : Grid Value}
    (made : make id size domains fallback = .ok x) :
    x.id = id ∧ size.wholes = .ok x.size ∧
      (∃ entries, domains.entries = .ok entries ∧ entries.mapM makeDomain = .ok x.domains) ∧
      fallback.present?.mapM Value.frozenItems = .ok x.fallback := by
  rw [make_eq] at made
  obtain ⟨size, counted, made⟩ := bind_eq_ok.mp made
  obtain ⟨entries, mapped, made⟩ := bind_eq_ok.mp made
  obtain ⟨domains, frozen, made⟩ := bind_eq_ok.mp made
  obtain ⟨fallback, default, made⟩ := bind_eq_ok.mp made
  cases made
  exact ⟨rfl, counted, ⟨entries, mapped, frozen⟩, default⟩

/-- The domains of an array are frozen under each of its patterns, and freezing them again changes
nothing. -/
theorem make_again {id size domains fallback : Value} {x : Grid Value}
    (made : make id size domains fallback = .ok x) :
    make x.id (.tuple (x.size.map .int)) (.dict x.domains) (.optional .tuple x.fallback) =
      .ok x := by
  obtain ⟨_, _, ⟨entries, _, frozen⟩, default⟩ := make_ok made
  have frozenToo := mapM_again makeDomain_again frozen
  have defaultToo := Value.optional_again .tuple (fun _ => rfl)
    (fun _ _ => Value.frozenItems_again) default
  rw [make_eq, Value.wholes_int, Value.entries]
  simp only [bind, Except.bind, frozenToo, defaultToo]

end Grid

/-- The indices of a cell have been brought into integers already. -/
theorem Cell.make_again (x : Cell Value) : make x.array (.tuple (x.indices.map .int)) = .ok x := by
  rw [make, Value.wholes_int]
  rfl

/-- Objectives keep their parts as they are, so this needs no assumption on how the objective was
made. -/
theorem Objective.make_again (x : Objective Value) :
    make x.sense (.text x.id) (.kind x.kind) (.tuple x.terms) (.tuple (x.coefficients.map .int))
      x.expression = .ok x := by
  simp only [make, Value.wholes_int]
  rfl

/-- That the expression is not empty has been checked before, and it holds for the second time
too. -/
theorem Intension.make_again {id expression : Value} {c : Intension Value}
    (made : make id expression = .ok c) : make (.text c.id) c.expression = .ok c := by
  obtain ⟨_, rfl, true⟩ := make_ok made
  simp only [make, true]
  rfl

/-- Both sides of a table are frozen, whichever of them is filled. -/
theorem Table.make_again {id scope supports conflicts : Value} {c : Table Value}
    (made : make id scope supports conflicts = .ok c) :
    make (.text c.id) (.tuple c.scope) (.tuple c.supports) (.tuple c.conflicts) = .ok c := by
  obtain ⟨_, _, allowed, forbidden⟩ := make_ok made
  simp only [make, Value.frozenItems_again allowed, Value.frozenItems_again forbidden]
  rfl

/-- An automaton is that of its transitions and its states. The check has accepted them once, and it
is the same check. -/
theorem Automaton.ofTransitions_again (a : Automaton) :
    ofTransitions a.transitions a.start a.finals = .ok a := by
  obtain ⟨b, made⟩ := ofTransitions_of_accepted a.accepted
  obtain ⟨sameTransitions, sameStart, sameFinals⟩ := ofTransitions_ok made
  rw [made]
  cases a
  cases b
  cases sameTransitions
  cases sameStart
  cases sameFinals
  rfl

/-- A diagram is that of its transitions and its ends, and its levels are found again. There is one
list of levels for given transitions and ends. -/
theorem Diagram.ofTransitions_again (d : Diagram) :
    ofTransitions d.transitions d.root d.terminal = .ok d := by
  obtain ⟨e, made⟩ := ofTransitions_of_accepted d.accepted
  obtain ⟨sameTransitions, sameRoot, sameTerminal⟩ := ofTransitions_ok made
  rw [made]
  obtain ⟨_, _, _, levels, accepted⟩ := d
  obtain ⟨_, _, _, levelsToo, acceptedToo⟩ := e
  cases sameTransitions
  cases sameRoot
  cases sameTerminal
  cases Except.ok.inj (accepted.symm.trans acceptedToo)
  rfl

/-- A diagram has transitions, since its root is the source of one. -/
theorem Diagram.transitions_ne_nil (d : Diagram) : d.transitions ≠ [] := by
  intro none
  have accepted := d.accepted
  rw [none] at accepted
  cases accepted

/-- The checks of an automaton constraint were made on its normal form, so they succeed again on the
same lists. -/
theorem Regular.make_again {id scope transitions start finals : Value} {c : Regular Value}
    (made : make id scope transitions start finals = .ok c) :
    make (.text c.id) (.tuple c.scope) (.tuple (c.automaton.transitions.map .ofTransition))
      (.text c.automaton.start) (.tuple (c.automaton.finals.map .text)) = .ok c := by
  obtain ⟨_, _, scopeFilled, _, someTransition, _, _, someFinal⟩ := make_ok made
  rw [make_of_read rfl rfl rfl rfl, requireItems_of_filled scopeFilled,
    requireItems_of_filled (List.map_eq_nil_iff.not.mpr someTransition), finalStates_text,
    Value.normalTransitions_ofTransition]
  have someText : c.automaton.finals.map Value.text ≠ [] := mt List.map_eq_nil_iff.mp someFinal
  simp only [bind, Except.bind, requireItems_of_filled someText, Automaton.ofTransitions_again,
    Except.mapError]

/-- The levels of a diagram are computed anew and come out the same. -/
theorem Mdd.make_again {id scope transitions root terminal : Value} {c : Mdd Value}
    (made : make id scope transitions root terminal = .ok c) :
    make (.text c.id) (.tuple c.scope) (.tuple (c.diagram.transitions.map .ofTransition))
      (.text c.diagram.root) (.text c.diagram.terminal) = .ok c := by
  obtain ⟨_, _, _, _, _, _, _, scopeFilled⟩ := make_ok made
  rw [make_of_read rfl rfl rfl rfl rfl, requireItems_of_filled scopeFilled,
    requireItems_of_filled (List.map_eq_nil_iff.not.mpr c.diagram.transitions_ne_nil),
    Value.normalTransitions_ofTransition]
  simp only [bind, Except.bind, Diagram.ofTransitions_again, Except.mapError]

/-- Parts of an instance that were missing are missing again, and those that were given are kept as
they are. -/
theorem Instance.make_again {format framework vars constraints objectives annotations : Value}
    {x : Instance Value}
    (made : make format framework vars constraints objectives annotations = .ok x) :
    make x.format x.framework (.tuple x.vars) (.tuple x.constraints)
      (.optional .tuple x.objectives) (.optional .dict x.annotations) = .ok x := by
  obtain ⟨_, _, _, _, optimised, annotated⟩ := make_ok made
  have optimisedToo := Value.optional_again .tuple (fun _ => rfl) (fun _ _ _ => rfl) optimised
  have annotatedToo := Value.optional_again .dict (fun _ => rfl) (fun _ _ _ => rfl) annotated
  simp only [make, optimisedToo, annotatedToo]
  rfl

end Csp
