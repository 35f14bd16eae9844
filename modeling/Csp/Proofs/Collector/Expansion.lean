import Csp.Proofs.Collector.Tables
import Csp.Proofs.Equality
import Csp.Proofs.Given
import Csp.Proofs.Progression

/-!
# The rows of a unary table

A document reader lists the values of a unary table and spells a run of them as
a progression. In the table every progression has given way to its terms, and
all other values stay as they are, in the order in which they are listed and as
often. So a number is a row once for each time that it is listed, and once for
each listed progression that contains it.

The list of the rows has to have room for all of them. Apart from that only a
progression with more terms than can be counted stands in the way: the first one
that is listed is refused, and then nothing is collected.
-/
namespace Csp

/-- The rows that listed values stand for: a progression for its terms, as long as they come before
the bound, and any other value for itself. -/
inductive Expands : List Value → List Value → Prop where
  | nil : Expands [] []
  | run {r : Progression} {terms : List Int} {rest rows : List Value}
      (inOrder : ∀ i : Nat, terms[i]? =
        if r.Before (r.start + i * r.step) then some (r.start + i * r.step) else none)
      (others : Expands rest rows) : Expands (.progression r :: rest) (terms.map .int ++ rows)
  | single {v : Value} {rest rows : List Value} (alone : ∀ r, v ≠ .progression r)
      (others : Expands rest rows) : Expands (v :: rest) (v :: rows)

namespace Value

/-- The terms can be counted, if the value is a progression. -/
def Countable : Value → Prop
  | .progression r => r.length < countLimit
  | _ => True

instance : DecidablePred Countable
  | .progression r => inferInstanceAs (Decidable (r.length < countLimit))
  | .null | .bool _ | .int _ | .double _ | .text _ | .list _ | .tuple _ | .dict _ | .kind _
  | .tag _ | .handle .. | .tree .. | .entity _ => .isTrue trivial

/-- The number of rows that a value takes up. -/
def width : Value → Nat
  | .progression r => r.length
  | _ => 1

/-- The rows of a value: the terms of a progression, and any other value by itself. -/
def expanded : Value → List Value
  | .progression r => r.toList.map .int
  | v => [v]

/-- The width of a listed value is the number of rows that it expands to. It is computed without
expanding, so the room for the rows can be checked beforehand. -/
theorem length_expanded (v : Value) : v.expanded.length = v.width := by
  cases v with
  | progression r => rw [expanded, List.length_map, Progression.length_toList, width]
  | _ => rfl

/-- Whether a value is a progression that contains a number. -/
def covers (n : Int) : Value → Bool
  | .progression r => decide (r.Contains n)
  | _ => false

/-- Integers are equal as values exactly if they are the same integer. -/
theorem int_same_int (m n : Int) : (Value.int m).same (.int n) = (m == n) := by
  apply Bool.eq_iff_iff.mpr
  rw [beq_iff_eq]
  exact Shape.alike_ofInt m n

/-- A progression is equal to no integer, not even if it has that integer as its only term. So
counting the rows equal to an integer passes over progressions. -/
theorem progression_same_int (r : Progression) (n : Int) :
    (Value.progression r).same (.int n) = false := by
  change Shape.alike (.progression r) (.number (.int n)) = false
  simp [Shape.alike]

/-- Neither a list nor the tuple that it is frozen to is equal to a number. So freezing the rows of
a table does not change how often a number is counted. -/
theorem frozen_same_int (v : Value) (n : Int) : v.frozen.same (.int n) = v.same (.int n) := by
  cases v with
  | list items =>
    simp only [frozen, Value.same, Shape.same, shape, Shape.alike]
  | _ => rfl

/-- Freezing makes no progression out of anything else. A list is frozen into a tuple, and
everything else stays as it is. -/
theorem frozen_eq_progression {v : Value} {r : Progression} :
    v.frozen = .progression r ↔ v = .progression r := by
  cases v <;> simp [frozen]

end Value

/-- Values other than progressions are not expanded. -/
theorem Value.expanded_alone {v : Value} (alone : ∀ r, v ≠ .progression r) : v.expanded = [v] := by
  cases v with
  | progression r => exact absurd rfl (alone r)
  | _ => rfl

/-- The rows of the listed values one after the other are those that the values stand for. This is
the reading of the expansion as a relation, which does not mention how the rows are collected. -/
theorem expands_flatMap (items : List Value) : Expands items (items.flatMap Value.expanded) := by
  induction items with
  | nil => exact .nil
  | cons v rest inductionHypothesis =>
    rw [List.flatMap_cons]
    by_cases run : ∃ r, v = .progression r
    · obtain ⟨r, rfl⟩ := run
      exact .run r.getElem?_toList inductionHypothesis
    · have alone : ∀ r, v ≠ .progression r := not_exists.mp run
      rw [Value.expanded_alone alone]
      exact .single alone inductionHypothesis

section Room

variable {room : Nat}

/-- A value whose rows can be counted is put behind the rows so far, if the list has room. -/
theorem expandOnto_of_room {rows : List Value} {v : Value} (countable : v.Countable)
    (fits : rows.length + v.width ≤ room) : expandOnto room rows v = .ok (rows ++ v.expanded) := by
  have enough : ¬ room < rows.length + v.width := Nat.not_lt.mpr fits
  cases v with
  | progression r =>
    have counted : (Value.progression r).size = .ok r.length := if_pos countable
    simp only [Value.width] at enough
    simp only [expandOnto, counted, bind, Except.bind, enough, if_false]
    rfl
  | _ =>
    simp only [Value.width] at enough
    simp only [expandOnto, bind, Except.bind, pure, Except.pure, enough, if_false]
    rfl

/-- A progression is counted before anything else. That it cannot be counted is found out from its
bounds, before any term is computed. -/
theorem expandOnto_of_countless (rows : List Value) {r : Progression}
    (countless : Value.countLimit ≤ r.length) :
    expandOnto room rows (.progression r) = .error .tooLarge := by
  have uncounted : (Value.progression r).size = .error .tooLarge :=
    if_neg (Nat.not_lt.mpr countless)
  simp only [expandOnto, uncounted, bind, Except.bind]

/-- The rows of the listed values are put behind the rows so far, if there is room for all. The room
is asked for at every value, so the sum of all widths has to fit. -/
theorem foldlM_expandOnto {items rows : List Value} (countable : ∀ v ∈ items, v.Countable)
    (fits : rows.length + (items.map Value.width).sum ≤ room) :
    items.foldlM (expandOnto room) rows = .ok (rows ++ items.flatMap Value.expanded) := by
  induction items generalizing rows with
  | nil => rw [List.flatMap_nil, List.append_nil]; rfl
  | cons v rest inductionHypothesis =>
    obtain ⟨first, others⟩ := List.forall_mem_cons.mp countable
    rw [List.map_cons, List.sum_cons] at fits
    have longer : (rows ++ v.expanded).length = rows.length + v.width := by
      rw [List.length_append, v.length_expanded]
    have now : expandOnto room rows v = .ok (rows ++ v.expanded) :=
      expandOnto_of_room first (by omega)
    rw [List.foldlM_cons, now, List.flatMap_cons, ← List.append_assoc]
    exact inductionHypothesis others (by omega)

/-- Listed values that can be counted and for which there is room are expanded. -/
theorem expandValues_of_room {items : List Value} (countable : ∀ v ∈ items, v.Countable)
    (fits : (items.map Value.width).sum ≤ room) :
    expandValues room (.list items) = .ok (items.flatMap Value.expanded) := by
  have listed : expandValues room (.list items) = items.foldlM (expandOnto room) [] :=
    Value.foldItems_of_items _ [] rfl
  rw [listed, foldlM_expandOnto countable (by simpa using fits), List.nil_append]

/-- The first progression that cannot be counted is refused, and the list with it. The values in
front of it have been expanded by then, and their rows are thrown away. -/
theorem expandValues_of_countless {before after : List Value} {r : Progression}
    (countable : ∀ v ∈ before, v.Countable) (fits : (before.map Value.width).sum ≤ room)
    (countless : Value.countLimit ≤ r.length) :
    expandValues room (.list (before ++ .progression r :: after)) = .error .tooLarge := by
  have listed : expandValues room (.list (before ++ .progression r :: after)) =
      (before ++ .progression r :: after).foldlM (expandOnto room) [] :=
    Value.foldItems_of_items _ [] rfl
  rw [listed, List.foldlM_append, foldlM_expandOnto countable (by simpa using fits)]
  refine bind_eq_error.mpr (.inr ⟨_, rfl, ?_⟩)
  rw [List.foldlM_cons, expandOnto_of_countless _ countless]
  rfl

end Room

namespace Expands

/-- The terms of a progression are the only numbers with these places. Each place has one term, and
the terms of different places are different because the step is not zero. -/
theorem terms_eq {r : Progression} {terms : List Int}
    (inOrder : ∀ i : Nat, terms[i]? =
      if r.Before (r.start + i * r.step) then some (r.start + i * r.step) else none) :
    terms = r.toList :=
  List.ext_getElem? fun i => (inOrder i).trans (r.getElem?_toList i).symm

/-- A number is a row as often as it is listed, and once for each progression that contains it. A
progression contains a number at one place at most. -/
theorem countP_same {items rows : List Value} (expands : Expands items rows) (n : Int) :
    rows.countP (·.same (.int n)) =
      items.countP (·.same (.int n)) + items.countP (·.covers n) := by
  induction expands with
  | nil => rfl
  | @run r terms rest rows inOrder others inductionHypothesis =>
    have listed : (terms.map Value.int).countP (·.same (.int n)) =
        if r.Contains n then 1 else 0 := by
      rw [terms_eq inOrder, ← r.count_toList n, List.countP_map, List.count]
      exact List.countP_congr fun m _ => by simp [Value.int_same_int]
    rw [List.countP_append, listed, inductionHypothesis, List.countP_cons, List.countP_cons,
      Value.progression_same_int, Value.covers]
    simp only [decide_eq_true_eq, Bool.false_eq_true, if_false]
    omega
  | @single v rest rows alone others inductionHypothesis =>
    have covered : v.covers n = false := by
      cases v with
      | progression r => exact absurd rfl (alone r)
      | _ => rfl
    rw [List.countP_cons, List.countP_cons, List.countP_cons, covered, inductionHypothesis]
    simp only [Bool.false_eq_true, if_false]
    omega

/-- No progression is left among the rows. -/
theorem not_progression {items rows : List Value} (expands : Expands items rows)
    (r : Progression) : .progression r ∉ rows := by
  induction expands with
  | nil => exact List.not_mem_nil
  | run inOrder others inductionHypothesis =>
    simp [inductionHypothesis]
  | single alone others inductionHypothesis =>
    simp [inductionHypothesis, (alone r).symm]

/-- Freezing the rows changes neither the counts of numbers nor makes a progression. -/
theorem frozen {items rows : List Value} (expands : Expands items rows) :
    (∀ n : Int, (rows.map Value.frozen).countP (·.same (.int n)) =
      items.countP (·.same (.int n)) + items.countP (·.covers n)) ∧
      ∀ r, .progression r ∉ rows.map Value.frozen := by
  constructor
  · intro n
    rw [← expands.countP_same n, List.countP_map]
    simp only [Function.comp_def, Value.frozen_same_int]
  · intro r listed
    obtain ⟨v, member, frozen⟩ := List.mem_map.mp listed
    exact expands.not_progression r (Value.frozen_eq_progression.mp frozen ▸ member)

end Expands

namespace Collector

/-- Listed values that can be counted are expanded where there is room for their rows, and the table
that is collected has the rows of the expansion: a number is a row once for each time that it is
listed and once for each listed progression that contains it, and no progression is a row. The first
progression that cannot be counted is refused, if there was room for the rows before it, and nothing
is collected. -/
theorem unary_rows_exact (room : Nat) (items : List Value) :
    ((∀ v ∈ items, v.Countable) → (items.map Value.width).sum ≤ room →
      ∃ rows, expandValues room (.list items) = .ok rows ∧ Expands items rows ∧
        ∀ (c : Collector) (x positive : Value) (terms : List Value), c.host.room = room →
          (Value.list [x]).terms = .ok terms →
            ∃ t, (c.step (.callback (.unaryTable x (.list items) positive))).collector =
                c.add (.constraint (.table t)) ∧
              t.rows = rows.map Value.frozen ∧
              (∀ n : Int, t.rows.countP (·.same (.int n)) =
                items.countP (·.same (.int n)) + items.countP (·.covers n)) ∧
              ∀ r, .progression r ∉ t.rows) ∧
      ∀ before r after, items = before ++ .progression r :: after →
        (∀ v ∈ before, v.Countable) → (before.map Value.width).sum ≤ room →
          Value.countLimit ≤ r.length →
            expandValues room (.list items) = .error .tooLarge ∧
              ∀ (c : Collector) (x positive : Value), c.host.room = room →
                c.step (.callback (.unaryTable x (.list items) positive)) =
                  ⟨c, [], .error .tooLarge⟩ := by
  constructor
  · intro countable fits
    have expanded := expandValues_of_room countable fits
    have expands := expands_flatMap items
    refine ⟨_, expanded, expands, fun c x positive terms roomSo mentioned => ?_⟩
    rw [← roomSo] at expanded
    have lists : (Callback.unaryTable x (.list items) positive).Lists c.host.room terms
        (items.flatMap Value.expanded) positive.isTrue := .unaryTable mentioned expanded
    obtain ⟨t, contributed, tells⟩ := lists.entity?
    obtain ⟨counts, noProgression⟩ := expands.frozen
    rw [← tells.rows_eq] at counts noProgression
    refine ⟨t, ?_, tells.rows_eq, counts, noProgression⟩
    rw [step_collector]
    simp only [Command.entity?, contributed, Option.elim]
  · rintro before r after rfl countable fits countless
    have refused : expandValues room (.list (before ++ .progression r :: after)) =
        .error .tooLarge := expandValues_of_countless countable fits countless
    refine ⟨refused, fun c x positive roomSo => step_of_refused ?_⟩
    rw [← roomSo] at refused
    exact bind_eq_error.mpr (.inl refused)

/-- The number five is listed twice, and of four progressions a falling one that steps over its
bound and a rising one contain it. -/
def fives : List Value :=
  [.int 5, .progression ⟨8, 0, -3, by decide⟩, .progression ⟨2, 11, 3, by decide⟩,
    .progression ⟨3, 3, 1, by decide⟩, .progression ⟨0, 9, -1, by decide⟩, .int 5]

/-- Numbers up to a bound that are more than can be counted. -/
def countless : Progression := ⟨0, 10 ^ 20, 1, by decide⟩

/-- Five is collected once for each time that it is listed and once for each progression that
contains it, in a list that has just enough room, and what cannot be counted is refused. -/
theorem unary_rows_fives :
    (∀ v ∈ fives, v.Countable) ∧ (fives.map Value.width).sum ≤ 8 ∧
      (Value.list [.handle 0 (.text "x")]).terms = .ok [.text "x"] ∧
      (∃ rows, expandValues 8 (.list fives) = .ok rows ∧ Expands fives rows ∧
        ∃ t, ((start ⟨fun _ => true, 8⟩ (.text "XCSP3") .null .null (.int 0)).step (.callback
            (.unaryTable (.handle 0 (.text "x")) (.list fives)
              (.bool false)))).collector.constraints = [.table t] ∧
          t.rows.countP (·.same (.int 5)) = 4) ∧
      Value.countLimit ≤ countless.length ∧
        expandValues 8 (.list [.int 1, .progression countless, .int 2]) = .error .tooLarge := by
  have countable : ∀ v ∈ fives, v.Countable := by decide
  have fits : (fives.map Value.width).sum ≤ 8 := by decide
  have mentioned : (Value.list [.handle 0 (.text "x")]).terms = .ok [.text "x"] := rfl
  have many : Value.countLimit ≤ countless.length := by decide
  obtain ⟨rows, expanded, expands, collects⟩ := (unary_rows_exact 8 fives).1 countable fits
  obtain ⟨t, appended, _, counts, _⟩ :=
    collects (start ⟨fun _ => true, 8⟩ (.text "XCSP3") .null .null (.int 0))
      (.handle 0 (.text "x")) (.bool false) _ rfl mentioned
  refine ⟨countable, fits, mentioned, ⟨rows, expanded, expands, t, ?_, ?_⟩, many, ?_⟩
  · rw [appended]
    rfl
  · rw [counts]
    decide +kernel
  · exact ((unary_rows_exact 8 _).2 [.int 1] countless [.int 2] rfl
      (List.forall_mem_singleton.mpr trivial) (by decide) many).1

/-- A progression with more terms than can be counted is refused whatever room there is, and so a
table of it is, before it is asked what the table is about. -/
theorem countless_refused :
    (∀ room rows, expandValues room (.list [.progression countless]) ≠ .ok rows) ∧
      ∀ room, (Callback.unaryTable .null (.list [.progression countless])
        (.bool true)).contribution room = .error .tooLarge := by
  have refused (room : Nat) : expandValues room (.list [.progression countless]) =
      .error .tooLarge :=
    expandValues_of_countless (List.forall_mem_nil _) (Nat.zero_le _) (by decide)
  refine ⟨fun room rows expanded => ?_, fun room => bind_eq_error.mpr (.inl (refused room))⟩
  rw [refused] at expanded
  cases expanded

end Collector
end Csp
