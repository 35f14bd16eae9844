import Csp.Proofs.Making
import Csp.Proofs.Reading

/-!
# Rows that are read as transitions

A transition is given as a row, which is a tuple or a list. It is brought into
its normal form if it has three items of which the one in the middle is taken
for a whole number. A row that is not has a defect, and the defect determines
what is reported about the row.

An infinite double is the one value that is neither taken for a whole number nor
reported as a defect. It fails as a number that is too large. And a defect is not
reported where its description cannot be written, as that of a row with a long
integer in it.
-/
namespace Csp

/-- A value has a plain text and a written form. Only a few do not, such as an integer with too many
digits, or a variable of a document reader that is not named by a text. -/
structure Value.Readable (v : Value) : Prop where
  plain : ∃ text, v.plain = .ok text
  written : ∃ text, v.written = .ok text

/-- A tuple or a list of any number of items. The two are told apart only where they are written. -/
structure Row (ι : Type) where
  frozen : Bool
  items : List ι

namespace Row

/-- A row whose items are given in another way. -/
def map {ι κ : Type} (given : ι → κ) (row : Row ι) : Row κ := ⟨row.frozen, row.items.map given⟩

/-- The value that a row is given as, a tuple or a list. -/
def toValue (row : Row Value) : Value :=
  if row.frozen then .tuple row.items else .list row.items

/-- Rows as one value. -/
def together (rows : List (Row Value)) : Value := .list (rows.map toValue)

/-- What is wrong with a row, and the violation that describes it by the written form of what is
wrong: it does not have three items, or its value is not taken for a whole number. -/
inductive Defect (ends : String) (row : Row Value) : Violation → Prop where
  | length (given : String) (other : row.items.length ≠ 3)
      (described : row.toValue.written = .ok given) : Defect ends row (.malformedTriple ends given)
  | value (given : String) (source value target : Value)
      (triple : row.items = [source, value, target]) (refused : ∀ n, value.whole ≠ .ok n)
      (described : value.written = .ok given) : Defect ends row (.malformedValue given)

/-- The value of a row is an infinite double. -/
def Infinite (row : Row Value) : Prop :=
  ∃ source negative target, row.items = [source, .double (.infinite negative), target]

end Row

/-- Items are written one after the other, and their written forms are joined by commas. The
induction is on the items, and the last one of them is not followed by a comma. -/
theorem Shape.writtenItems_eq (items : List Shape) :
    writtenItems items = (", ".intercalate ·) <$> items.mapM written := by
  induction items with
  | nil => rfl
  | cons item rest inductionHypothesis =>
    rw [List.mapM_cons]
    cases rest with
    | nil =>
      rw [writtenItems]
      cases item.written with
      | error failure => rfl
      | ok text => exact congrArg Except.ok String.intercalate_singleton.symm
    | cons other rest =>
      rw [writtenItems, inductionHypothesis]
      · cases item.written with
        | error failure => rfl
        | ok text =>
          cases others : (other :: rest).mapM written with
          | error failure => rfl
          | ok texts =>
            have some : texts ≠ [] := by
              rintro rfl
              cases mapM_eq_ok.mp others
            exact congrArg Except.ok (String.intercalate_cons_of_ne_nil some).symm
      · simp

namespace Value

/-- A whole number that is too large to be taken can only be an infinite double. All other numbers
are finite, and texts that are too long fail in another way. -/
theorem eq_infinite_of_tooLarge {v : Value} (large : v.whole = .error .tooLarge) :
    ∃ negative, v = .double (.infinite negative) := by
  revert large
  fun_cases whole v <;> simp

/-- The label of a value stands for the whole number that the value is taken for. -/
theorem label_of_whole {v : Value} {n : Int} (taken : v.whole = .ok n) :
    ∃ label, v.label = .ok label ∧ label.value = n := by
  unfold label
  split
  · rename_i b
    cases taken
    exact ⟨.bool b, rfl, rfl⟩
  · cases taken
    exact ⟨.int n, rfl, rfl⟩
  · rw [taken]
    exact ⟨.int n, rfl, rfl⟩

/-- What is kept as a label denotes the number of the label, if digits after the point are cut
off. -/
theorem whole_of_label {v : Value} {label : Label} (labelled : v.label = .ok label) :
    v.whole = .ok label.value := by
  revert labelled
  unfold Value.label
  split
  · intro labelled
    cases labelled
    rfl
  · intro labelled
    cases labelled
    rfl
  · split
    · intro labelled
      cases labelled
      assumption
    · intro labelled
      cases labelled
    · intro labelled
      obtain ⟨_, _, impossible⟩ := bind_eq_ok.mp labelled
      cases impossible

/-- A value that denotes no number is reported, or else what prevents its description is. The
description is the written form of the value. -/
theorem label_of_refused {v : Value} (refused : ∀ n, v.whole ≠ .ok n)
    (small : v.whole ≠ .error .tooLarge) :
    v.label = v.written >>= fun given => .error (.violation (.malformedValue given)) := by
  unfold label
  split
  · exact absurd rfl (refused _)
  · exact absurd rfl (refused _)
  · split
    · rename_i taken
      exact absurd taken (refused _)
    · rename_i large
      exact absurd large small
    · rfl

/-- A list and a tuple are written by the written forms of their items, with something around them.
So of the items it is the first one that cannot be written which decides the failure. -/
theorem written_collected (items : List Value) :
    (∃ close : List String → String, (list items).written = close <$> items.mapM written) ∧
      ∃ close : List String → String, (tuple items).written = close <$> items.mapM written := by
  have joined : Shape.writtenItems (items.map shape) =
      (", ".intercalate ·) <$> items.mapM written := by
    rw [Shape.writtenItems_eq, List.mapM_map]
    rfl
  constructor
  · refine ⟨fun texts => "[" ++ ", ".intercalate texts ++ "]", ?_⟩
    rw [written, shape, shapes_eq_map, Shape.written, joined]
    cases items.mapM written <;> rfl
  · match items with
    | [] => exact ⟨fun _ => "()", rfl⟩
    | [item] =>
      -- A comma tells a tuple of one item from the item in brackets.
      refine ⟨fun texts => "(" ++ texts.headD "" ++ ",)", ?_⟩
      rw [written, shape, shapes_eq_map, List.map_singleton, Shape.written, List.mapM_cons]
      change (item.written >>= _) = _
      cases item.written <;> rfl
    | item :: other :: rest =>
      refine ⟨fun texts => "(" ++ ", ".intercalate texts ++ ")", ?_⟩
      rw [written, shape, shapes_eq_map, List.map_cons, List.map_cons, Shape.written,
        ← List.map_cons, ← List.map_cons, joined]
      · cases (item :: other :: rest).mapM written <;> rfl
      · simp

end Value

namespace Row

variable {row : Row Value} {ends : String}

/-- Tuples and lists give back their items alike. -/
theorem items_toValue (row : Row Value) : row.toValue.items = .ok row.items := by
  unfold toValue
  split <;> rfl

/-- The size of a row is the number of its items. -/
theorem size_toValue (row : Row Value) : row.toValue.size = .ok row.items.length :=
  Value.size_of_items row.items_toValue

/-- A row is written by the written forms of its items, whether it is a tuple or a list. -/
theorem written_eq (row : Row Value) :
    ∃ close : List String → String,
      row.toValue.written = close <$> row.items.mapM Value.written := by
  unfold toValue
  split
  · exact (Value.written_collected row.items).2
  · exact (Value.written_collected row.items).1

/-- A row can be shown in a message if its items can. -/
theorem written_toValue (readable : ∀ item ∈ row.items, item.Readable) :
    ∃ text, row.toValue.written = .ok text := by
  obtain ⟨close, written⟩ := row.written_eq
  rw [written]
  cases each : row.items.mapM Value.written with
  | ok texts => exact ⟨close texts, rfl⟩
  | error failure =>
    obtain ⟨before, item, after, split, _, failed⟩ := first_of_mapM_eq_error each
    obtain ⟨text, given⟩ := (readable item (by simp [split])).written
    cases given.symm.trans failed

/-- A row that does not have three items cannot be taken apart into the parts of a transition. -/
theorem rawTransition_of_length (other : row.items.length ≠ 3) :
    row.toValue.rawTransition = .error .wrongCount := by
  have listed := row.items_toValue
  unfold Value.rawTransition
  split
  · rename_i r progression
    unfold toValue at progression
    split at progression <;> cases progression
  · rw [listed]
    simp only [bind, Except.bind]
    split
    · rename_i triple
      rw [triple] at other
      exact absurd rfl other
    · rfl

/-- A row of three items is read by its value first and by its ends afterwards. So a refused value
is reported even if an end has no text. -/
theorem normalTransition_of_triple {source value target : Value}
    (triple : row.items = [source, value, target]) :
    row.toValue.normalTransition ends = value.label >>= fun label => source.plain >>= fun first =>
      target.plain >>= fun last => .ok ⟨first, label, last⟩ := by
  have size : row.toValue.size = .ok 3 := by rw [size_toValue, triple]; rfl
  have raw : row.toValue.rawTransition = .ok ⟨source, value, target⟩ :=
    Value.rawTransition_of_items (triple ▸ row.items_toValue)
  simp only [Value.normalTransition, size, raw, bind, Except.bind]
  rfl

/-- A row that does not have three items is described by its own written form. Its items are not
looked at one by one. -/
theorem normalTransition_of_length (other : row.items.length ≠ 3) :
    row.toValue.normalTransition ends =
      row.toValue.written >>= fun given => .error (.violation (.malformedTriple ends given)) := by
  have size := row.size_toValue
  simp only [Value.normalTransition, size, bind, Except.bind, ne_eq, other, not_false_eq_true,
    if_true]
  cases row.toValue.written <;> rfl

/-- A row with a defect is refused, and the violation describes the defect. -/
theorem Defect.normalTransition {violation : Violation} (defect : row.Defect ends violation)
    (small : ¬ row.Infinite) :
    row.toValue.normalTransition ends = .error (.violation violation) := by
  cases defect with
  | length given other described =>
    rw [normalTransition_of_length other, described]
    rfl
  | value given source value target triple refused described =>
    have finite : value.whole ≠ .error .tooLarge := by
      intro large
      obtain ⟨negative, rfl⟩ := Value.eq_infinite_of_tooLarge large
      exact small ⟨source, negative, target, triple⟩
    rw [normalTransition_of_triple triple, Value.label_of_refused refused finite, described]
    rfl

/-- An infinite value is looked at before the ends are. This failure is that of the conversion, and
no rule is reported. -/
theorem Infinite.normalTransition (infinite : row.Infinite) :
    row.toValue.normalTransition ends = .error .tooLarge := by
  obtain ⟨source, negative, target, triple⟩ := infinite
  rw [normalTransition_of_triple triple]
  rfl

/-- A row has three items, of which the one in the middle is taken for a whole number and the others
have plain texts. -/
def Sound (row : Row Value) : Prop :=
  ∃ source value target, row.items = [source, value, target] ∧ (∃ n, value.whole = .ok n) ∧
    (∃ first, source.plain = .ok first) ∧ ∃ last, target.plain = .ok last

/-- A row has a normal form exactly if it is sound. Soundness is said of the parts, and the normal
form is made of them. -/
theorem read_iff_sound :
    (∃ normal, row.toValue.normalTransition ends = .ok normal) ↔ row.Sound := by
  constructor
  · rintro ⟨normal, read⟩
    have three : row.items.length = 3 := by
      by_contra other
      rw [normalTransition_of_length other] at read
      obtain ⟨_, _, impossible⟩ := bind_eq_ok.mp read
      cases impossible
    obtain ⟨source, value, target, triple⟩ := List.length_eq_three.mp three
    rw [normalTransition_of_triple triple] at read
    obtain ⟨label, labelled, read⟩ := bind_eq_ok.mp read
    obtain ⟨first, firstText, read⟩ := bind_eq_ok.mp read
    obtain ⟨last, lastText, _⟩ := bind_eq_ok.mp read
    exact ⟨source, value, target, triple, ⟨_, Value.whole_of_label labelled⟩, ⟨first, firstText⟩,
      ⟨last, lastText⟩⟩
  · rintro ⟨source, value, target, triple, ⟨n, taken⟩, ⟨first, firstText⟩, ⟨last, lastText⟩⟩
    obtain ⟨label, labelled, _⟩ := Value.label_of_whole taken
    rw [normalTransition_of_triple triple, labelled, firstText, lastText]
    exact ⟨⟨first, label, last⟩, rfl⟩

/-- If reading a row fails with the report of a rule, then the row has a defect, and the report is
the violation that describes it. -/
theorem exists_defect_of_reported {failure : Failure}
    (failed : row.toValue.normalTransition ends = .error failure)
    (reported : failure.rule? ≠ none) :
    ∃ violation, row.Defect ends violation ∧ failure = .violation violation := by
  -- Neither writing a value nor asking for its text reports a rule.
  have unwritten (v : Value) : v.written ≠ .error failure := fun silent =>
    reported (v.written_reports _ silent).silent
  have unnamed (v : Value) : v.plain ≠ .error failure := fun silent =>
    reported (v.plain_reports _ silent).silent
  by_cases other : row.items.length ≠ 3
  · rw [normalTransition_of_length other] at failed
    rcases bind_eq_error.mp failed with silent | ⟨given, described, same⟩
    · exact absurd silent (unwritten _)
    · cases same
      exact ⟨_, .length given other described, rfl⟩
  · obtain ⟨source, value, target, triple⟩ := List.length_eq_three.mp (not_not.mp other)
    rw [normalTransition_of_triple triple] at failed
    rcases bind_eq_error.mp failed with unlabelled | ⟨label, _, failed⟩
    · have refused (n : Int) : value.whole ≠ .ok n := by
        intro taken
        obtain ⟨label, labelled, _⟩ := Value.label_of_whole taken
        cases labelled.symm.trans unlabelled
      have finite : value.whole ≠ .error .tooLarge := by
        intro large
        obtain ⟨negative, rfl⟩ := Value.eq_infinite_of_tooLarge large
        cases unlabelled
        exact reported rfl
      rw [Value.label_of_refused refused finite] at unlabelled
      rcases bind_eq_error.mp unlabelled with silent | ⟨given, described, same⟩
      · exact absurd silent (unwritten _)
      · cases same
        exact ⟨_, .value given source value target triple refused described, rfl⟩
    · rcases bind_eq_error.mp failed with silent | ⟨first, _, failed⟩
      · exact absurd silent (unnamed _)
      · rcases bind_eq_error.mp failed with silent | ⟨last, _, impossible⟩
        · exact absurd silent (unnamed _)
        · cases impossible

/-- Every defect is a malformed transition. -/
theorem Defect.rule {violation : Violation} (defect : row.Defect ends violation) :
    violation.rule = "malformed_transition" := by
  cases defect <;> rfl

end Row
end Csp
