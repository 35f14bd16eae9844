import Csp.Proofs.Collector.Run

/-!
# Tables in a collector

A document reader says of a table whether its rows are supports or conflicts.
The collected constraint does not keep that flag: it has the rows on one side or
on the other, and its reader finds the flag again by looking which side is
filled. All rows come back, in order and with their repetitions, and so does the
flag, unless there are no rows. A table of no conflicts, which forbids nothing,
cannot be told from a table of no supports, which forbids everything, and counts
as the latter; so does a table of conflicts in which all progressions are empty.
-/
namespace Csp

/-- A callback on a table with these terms for its scope, these rows, and this flag for whether
they are supports. The rows of a unary table are those that its values are expanded to, where lists
have so much room. -/
inductive Callback.Lists (room : Nat) : Callback → List Value → List Value → Bool → Prop where
  | table {scope positive : Value} {terms rows : List Value} (mentioned : scope.terms = .ok terms) :
      Lists room (.table scope (.list rows) positive) terms rows positive.isTrue
  | unaryTable {x listed positive : Value} {terms rows : List Value}
      (mentioned : (Value.list [x]).terms = .ok terms)
      (expanded : expandValues room listed = .ok rows) :
      Lists room (.unaryTable x listed positive) terms rows positive.isTrue

/-- What a table constraint tells its reader of the rows it was made of. -/
structure Table.Tells (t : Table Value) (terms rows : List Value) (positive : Bool) : Prop where
  id_eq : t.id = ""
  scope_eq : t.scope = terms
  rows_eq : t.rows = rows.map Value.frozen
  positive_iff : t.positive = true ↔ positive = true ∨ rows = []

/-- The side that is filled tells the flag, but without rows neither side is. So an empty table
always tells that it holds supports. -/
theorem Table.tells_of_tableOf {t : Table Value} {terms rows : List Value} {positive : Bool}
    (made : tableOf terms (.list rows) positive = .ok t) : t.Tells terms rows positive := by
  obtain ⟨id, scope, frozen, frozenSo, supports, conflicts⟩ := tableOf_ok made
  cases frozenSo.symm.trans (Value.frozenItems_of_items rfl)
  have meant : t.positive = true ↔ positive = true ∨ rows = [] := by
    rw [Table.positive, supports, conflicts]
    cases positive <;> cases rows <;> simp
  refine ⟨id, scope, ?_, meant⟩
  rw [Table.rows]
  by_cases filled : positive = true
  · rw [if_pos (meant.mpr (.inl filled)), supports, if_pos filled]
  · by_cases none : rows = []
    · rw [if_pos (meant.mpr (.inr none)), supports, if_neg filled, none]
      rfl
    · have negative : ¬ t.positive = true := by
        rw [meant]
        exact not_or.mpr ⟨filled, none⟩
      rw [if_neg negative, conflicts, if_neg filled]

/-- Rows that are listed always make a table. Rows can be anything, and freezing them does not
fail. -/
theorem Contribution.ofTable_list {scope : Value} {terms : List Value} (rows : List Value)
    (positive : Value) (mentioned : scope.terms = .ok terms) :
    ∃ t notice, ofTable scope (.list rows) positive = .ok ⟨.constraint (.table t), notice⟩ ∧
      t.Tells terms rows positive.isTrue := by
  have frozen : (Value.list rows).frozenItems = .ok (rows.map Value.frozen) :=
    Value.frozenItems_of_items rfl
  have makes : ∃ t, tableOf terms (.list rows) positive.isTrue = .ok t := by
    cases meant : positive.isTrue with
    | true => exact ⟨⟨"", terms, rows.map Value.frozen, []⟩, by
        simp only [tableOf, Table.make, frozen, if_true]
        rfl⟩
    | false => exact ⟨⟨"", terms, [], rows.map Value.frozen⟩, by
        simp only [tableOf, Table.make, frozen, Bool.false_eq_true, if_false]
        rfl⟩
  obtain ⟨t, made⟩ := makes
  refine ⟨t, Notice.table positive.isTrue scope (.list rows), ?_, Table.tells_of_tableOf made⟩
  simp only [ofTable, mentioned, bind, Except.bind, made]
  rfl

/-- The constraint that a callback on a table contributes. For a unary table these are the expanded
rows. -/
theorem Callback.Lists.entity? {room : Nat} {call : Callback} {terms rows : List Value}
    {positive : Bool} (lists : call.Lists room terms rows positive) :
    ∃ t, call.entity? room = some (.constraint (.table t)) ∧ t.Tells terms rows positive := by
  cases lists with
  | table mentioned =>
    obtain ⟨t, notice, accepted, tells⟩ := Contribution.ofTable_list rows _ mentioned
    exact ⟨t, entity?_eq_some.mpr ⟨notice, accepted⟩, tells⟩
  | unaryTable mentioned expanded =>
    obtain ⟨t, notice, accepted, tells⟩ := Contribution.ofTable_list rows _ mentioned
    refine ⟨t, entity?_eq_some.mpr ⟨notice, ?_⟩, tells⟩
    exact bind_eq_ok.mpr ⟨rows, expanded, accepted⟩

namespace Collector

/-- A callback on a table appends a constraint that gives back the rows as they were listed, and
that counts as positive when the reader said so or listed no rows. -/
theorem appends_table (c : Collector) {call : Callback} {terms rows : List Value} {positive : Bool}
    (lists : call.Lists c.host.room terms rows positive) :
    ∃ t, (c.step (.callback call)).collector = c.add (.constraint (.table t)) ∧
      t.Tells terms rows positive := by
  obtain ⟨t, contributed, tells⟩ := lists.entity?
  refine ⟨t, ?_, tells⟩
  rw [step_collector]
  simp only [Command.entity?, contributed, Option.elim]

/-- Two conflicts, one of them listed twice. -/
theorem appends_conflicts :
    (Callback.table (.list [.handle 0 (.text "x")]) (.list [.int 1, .int 2, .int 1])
        (.bool false)).Lists Value.countLimit [.text "x"] [.int 1, .int 2, .int 1] false ∧
      ∃ t, ((start .ample (.text "XCSP3") .null .null (.int 0)).step (.callback
          (.table (.list [.handle 0 (.text "x")]) (.list [.int 1, .int 2, .int 1])
            (.bool false)))).collector.constraints = [.table t] ∧
        t.rows = [.int 1, .int 2, .int 1] ∧ t.positive = false := by
  have lists : (Callback.table (.list [.handle 0 (.text "x")]) (.list [.int 1, .int 2, .int 1])
      (.bool false)).Lists Value.countLimit [.text "x"] [.int 1, .int 2, .int 1] false :=
    .table (by rfl)
  obtain ⟨t, appended, tells⟩ :=
    appends_table (start .ample (.text "XCSP3") .null .null (.int 0)) lists
  refine ⟨lists, t, ?_, tells.rows_eq, ?_⟩
  · rw [appended]
    rfl
  · have unlisted : ¬ (false = true ∨ [Value.int 1, .int 2, .int 1] = []) := by simp
    exact Bool.eq_false_iff.mpr (mt tells.positive_iff.mp unlisted)

/-- A table of no conflicts is reported as positive, and so is one of a single progression without
terms. -/
theorem no_conflicts_positive :
    (∃ t, ((start .ample (.text "XCSP3") .null .null (.int 0)).step (.callback
        (.table (.list [.handle 0 (.text "x")]) (.list []) (.bool false)))).collector.constraints =
          [.table t] ∧ t.positive ≠ (Value.bool false).isTrue) ∧
      ∃ t, ((start .ample (.text "XCSP3") .null .null (.int 0)).step (.callback
        (.unaryTable (.handle 0 (.text "x")) (.list [.progression ⟨3, 3, 1, by decide⟩])
          (.bool false)))).collector.constraints =
            [.table t] ∧ t.positive ≠ (Value.bool false).isTrue := by
  constructor
  · exact ⟨⟨"", [.text "x"], [], []⟩, by rfl, by decide⟩
  · exact ⟨⟨"", [.text "x"], [], []⟩, by rfl, by decide⟩

end Collector
end Csp
