import Csp.Proofs.Row
import Csp.Proofs.Rules

/-!
# Which defect of a constraint is reported

The makers of automaton and diagram constraints check the scope, the final
states, the rows and the graph one after the other, and bring the parts into
their normal form in between. So the final states are looked at before the rows,
and the rules on graphs speak of the transitions in their normal form: the state
1 is the state "1", and the values 0 and "0" are one value. Whatever defects the
arguments have together, the first violated rule of a fixed list is reported,
and a constraint is made exactly when no rule of the list is violated.

The arguments are the scalars of a document: nothing, truth values, integers and
texts. Only an integer with too many digits has no text. Wherever one would have
to be written, it stops the maker there, which makes it a rule without a name.
-/
namespace Csp

/-- What a state, a node or the value of a transition is given as. These are the types for which the
order of the rules is claimed. -/
inductive Scalar where
  | null
  | bool (b : Bool)
  | int (n : Int)
  | text (s : String)

namespace Scalar

/-- The value that a scalar is given as. -/
def toValue : Scalar → Value
  | .null => .null
  | .bool b => .bool b
  | .int n => .int n
  | .text s => .text s

/-- Everything can be written but integers with too many digits. The limit is one on digits, so it
concerns no text and no truth value. -/
def isWritable : Scalar → Bool
  | .int n => Text.hasNumeral n
  | _ => true

/-- The text by which a state or a node is known, if it can be written. -/
def plain : Scalar → String
  | .null => "None"
  | .bool b => if b then "True" else "False"
  | .int n => toString n
  | .text s => s

/-- The label that a value is taken for, if it is taken for a whole number. An integer and a truth
value are kept as they are, and a text is read as a numeral. -/
def label? : Scalar → Option Label
  | .null => none
  | .bool b => some (.bool b)
  | .int n => some (.int n)
  | .text s => (Text.wholeNumber? s).map .int

/-- What can be written has the text that was foretold. -/
theorem plain_toValue {s : Scalar} (writable : s.isWritable = true) :
    s.toValue.plain = .ok s.plain := by
  cases s with
  | int n => exact numeral_of_short writable
  | null | bool b | text t => rfl

/-- An integer with too many digits has no text, and no other scalar is without one. -/
theorem plain_of_unwritable {s : Scalar} (long : s.isWritable = false) :
    s.toValue.plain = .error .badNumeral := by
  cases s with
  | int n => exact numeral_of_long long
  | null | bool b | text t => cases long

/-- A scalar has a written form, or its digits are too many. What is written here stands in a
message, where a text is quoted. -/
theorem written_cases (s : Scalar) :
    (s.isWritable = true ∧ ∃ given, s.toValue.written = .ok given) ∨
      (s.isWritable = false ∧ s.toValue.written = .error .badNumeral) := by
  cases s with
  | int n =>
    cases short : Text.hasNumeral n with
    | true => exact .inl ⟨short, _, numeral_of_short short⟩
    | false => exact .inr ⟨short, numeral_of_long short⟩
  | null | bool b | text t => exact .inl ⟨rfl, _, rfl⟩

/-- What can be written as a text can also be shown in a message. -/
theorem readable {s : Scalar} (writable : s.isWritable = true) : s.toValue.Readable := by
  constructor
  case plain => exact ⟨s.plain, plain_toValue writable⟩
  case written =>
    rcases s.written_cases with ⟨_, written⟩ | ⟨long, _⟩
    · exact written
    · cases writable.symm.trans long

/-- A scalar that is taken for a whole number is the label of a transition. An integer is kept
however many digits it has, since it is not written for that. -/
theorem label_toValue {s : Scalar} {label : Label} (taken : s.label? = some label) :
    s.toValue.label = .ok label := by
  cases s with
  | null => cases taken
  | bool b | int n =>
    cases taken
    rfl
  | text t =>
    obtain ⟨n, number, rfl⟩ := Option.map_eq_some_iff.mp taken
    simp only [toValue, Value.label, Value.whole, number]

/-- A scalar without a label denotes no whole number, so a row with it is misshapen. -/
theorem whole_toValue {s : Scalar} (refused : s.label? = none) (n : Int) :
    s.toValue.whole ≠ .ok n := by
  cases s with
  | null => simp [toValue, Value.whole]
  | bool b | int n => cases refused
  | text t =>
    have none : Text.wholeNumber? t = none := Option.map_eq_none_iff.mp refused
    simp [toValue, Value.whole, none]

end Scalar

namespace Row

/-- A row of scalars as it is given. -/
def given (row : Row Scalar) : Row Value := row.map Scalar.toValue

/-- The normal form of a row of scalars, if it has three items, its ends can be written and its
value is taken for a whole number. -/
def triple? (row : Row Scalar) : Option (Transition String Label) :=
  match row.items with
  | [source, value, target] =>
    if source.isWritable && target.isWritable then
      value.label?.map fun label => ⟨source.plain, label, target.plain⟩
    else none
  | _ => none

/-- A row does not have three items, or its value is not taken for a whole number. This is said
about what is given. How it is reported is another question. -/
def Misshapen (row : Row Scalar) : Prop :=
  ∀ source value target, row.items = [source, value, target] → value.label? = none

/-- An integer that is too long would have to be written to read a row, as one of its ends, or to
report it, as one of its items. -/
def Unwritable (row : Row Scalar) : Prop :=
  (row.items.length ≠ 3 ∧ ∃ item ∈ row.items, item.isWritable = false) ∨
    ∃ source value target, row.items = [source, value, target] ∧ value.label? ≠ none ∧
      (source.isWritable && target.isWritable) = false

/-- The first row without a normal form. It is the first one on which the reading stops. -/
def firstUnread? (rows : List (Row Scalar)) : Option (Row Scalar) :=
  rows.find? (·.triple?.isNone)

variable {row : Row Scalar} {rows : List (Row Scalar)} {ends : String}

/-- The first row without a normal form is one of the rows and has none. -/
theorem unread_of_first (first : firstUnread? rows = some row) :
    row ∈ rows ∧ row.triple? = none :=
  ⟨List.mem_of_find?_eq_some first,
    Option.isNone_iff_eq_none.mp (List.find?_eq_some_iff_append.mp first).1⟩

/-- There is no infinite scalar, so the one failure that comes from infinite values is ruled out. -/
theorem not_infinite_given (row : Row Scalar) : ¬ row.given.Infinite := by
  rintro ⟨source, negative, target, triple⟩
  have listed : Value.double (.infinite negative) ∈ row.given.items := by simp [triple]
  obtain ⟨s, _, same⟩ := List.mem_map.mp listed
  cases s <;> cases same

/-- The items of a row are given in their order. -/
theorem items_given {source value target : Scalar} (items : row.items = [source, value, target]) :
    row.given.items = [source.toValue, value.toValue, target.toValue] := by
  rw [given, map, items]
  rfl

/-- No item is dropped or added. -/
theorem length_given (row : Row Scalar) : row.given.items.length = row.items.length :=
  List.length_map _

/-- A row with a normal form is read as it. -/
theorem normalTransition_given {t : Transition String Label} (triple : row.triple? = some t) :
    row.given.toValue.normalTransition ends = .ok t := by
  unfold triple? at triple
  split at triple
  · rename_i source value target items
    split at triple
    · rename_i writable
      rw [Bool.and_eq_true] at writable
      obtain ⟨label, taken, rfl⟩ := Option.map_eq_some_iff.mp triple
      rw [normalTransition_of_triple (items_given items), Scalar.label_toValue taken,
        Scalar.plain_toValue writable.1, Scalar.plain_toValue writable.2]
      rfl
    · cases triple
  · cases triple

/-- A row with an integer that is too long has no written form. The items before the first such one
are written in vain. -/
theorem written_of_unwritable (long : ∃ item ∈ row.items, item.isWritable = false) :
    row.given.toValue.written = .error .badNumeral := by
  obtain ⟨before, item, after, split, short, longItem⟩ := exists_first long
  obtain ⟨close, written⟩ := row.given.written_eq
  have failed : row.given.items.mapM Value.written = .error .badNumeral := by
    rw [given, map, split]
    apply mapM_map_eq_error_of_first
    · intro earlier listed
      exact (Scalar.readable (Bool.not_eq_false _ ▸ short earlier listed)).written
    · rcases item.written_cases with ⟨writable, _⟩ | ⟨_, unwritten⟩
      · cases longItem.symm.trans writable
      · exact unwritten
  rw [written, failed]
  rfl

/-- Reading a row that is in the way stops at the integer that is too long. -/
theorem Unwritable.normalTransition (unwritable : row.Unwritable) :
    row.given.toValue.normalTransition ends = .error .badNumeral := by
  rcases unwritable with ⟨other, long⟩ | ⟨source, value, target, items, taken, long⟩
  · rw [normalTransition_of_length (row.length_given ▸ other), written_of_unwritable long]
    rfl
  · obtain ⟨label, taken⟩ := Option.ne_none_iff_exists'.mp taken
    rw [normalTransition_of_triple (items_given items), Scalar.label_toValue taken]
    cases first : source.isWritable with
    | false =>
      rw [Scalar.plain_of_unwritable first]
      rfl
    | true =>
      rw [first, Bool.true_and] at long
      rw [Scalar.plain_toValue first, Scalar.plain_of_unwritable long]
      rfl

/-- A misshapen row has a defect if it can be described. The description shows the row, or the value
alone where there are three items. -/
theorem exists_defect (misshapen : row.Misshapen) (writable : ¬ row.Unwritable) :
    ∃ violation, row.given.Defect ends violation := by
  by_cases three : row.items.length = 3
  · obtain ⟨source, value, target, items⟩ := List.length_eq_three.mp three
    have refused := misshapen source value target items
    rcases value.written_cases with ⟨_, given, described⟩ | ⟨long, _⟩
    · exact ⟨_, .value given _ _ _ (items_given items) (Scalar.whole_toValue refused) described⟩
    · -- Integers are never refused as values.
      cases value with
      | int n => cases refused
      | null | bool b | text t => cases long
  · have readable : ∀ item ∈ row.given.items, item.Readable := by
      intro item listed
      obtain ⟨s, member, rfl⟩ := List.mem_map.mp listed
      refine Scalar.readable (Bool.not_eq_false _ ▸ fun long => ?_)
      exact writable (.inl ⟨three, s, member, long⟩)
    obtain ⟨given, described⟩ := written_toValue readable
    exact ⟨_, .length given (row.length_given ▸ three) described⟩

/-- A row without a normal form is misshapen, or an integer that is too long stands in the way. The
two do not exclude each other. -/
theorem triple?_eq_none_iff : row.triple? = none ↔ row.Misshapen ∨ row.Unwritable := by
  constructor
  · intro missing
    by_cases misshapen : row.Misshapen
    · exact .inl misshapen
    · simp only [Misshapen, not_forall] at misshapen
      obtain ⟨source, value, target, items, taken⟩ := misshapen
      refine .inr (.inr ⟨source, value, target, items, taken, ?_⟩)
      rw [Bool.eq_false_iff]
      intro writable
      simp only [triple?, items, writable, if_true, Option.map_eq_none_iff] at missing
      exact taken missing
  · intro unread
    cases triple : row.triple? with
    | none => rfl
    | some t =>
      have read : row.given.toValue.normalTransition "" = .ok t := normalTransition_given triple
      by_cases unwritable : row.Unwritable
      · cases read.symm.trans unwritable.normalTransition
      · obtain ⟨violation, defect⟩ : ∃ violation, row.given.Defect "" violation :=
          exists_defect (unread.resolve_right unwritable) unwritable
        cases read.symm.trans (defect.normalTransition row.not_infinite_given)

/-- Rows that all have a normal form are read as the list of these. -/
theorem mapM_given (whole : firstUnread? rows = none) :
    ((rows.map given).map toValue).mapM (Value.normalTransition ends) =
      .ok (rows.filterMap triple?) := by
  rw [mapM_eq_ok, List.forall₂_map_left_iff, List.forall₂_map_left_iff]
  have read : ∀ row ∈ rows, row.triple? ≠ none := by
    simpa [firstUnread?, Option.isNone_iff_eq_none] using whole
  clear whole
  induction rows with
  | nil => exact .nil
  | cons row rest inductionHypothesis =>
    obtain ⟨first, others⟩ := List.forall_mem_cons.mp read
    obtain ⟨t, triple⟩ := Option.ne_none_iff_exists'.mp first
    rw [List.filterMap_cons_some triple]
    exact .cons (normalTransition_given triple) (inductionHypothesis others)

/-- The reading of rows fails as it does on the first one without a normal form. -/
theorem mapM_given_of_unread (first : firstUnread? rows = some row) {failure : Failure}
    (failed : row.given.toValue.normalTransition ends = .error failure) :
    ((rows.map given).map toValue).mapM (Value.normalTransition ends) = .error failure := by
  obtain ⟨_, before, after, rfl, read⟩ := List.find?_eq_some_iff_append.mp first
  rw [List.map_map]
  apply mapM_map_eq_error_of_first
  · intro earlier listed
    have whole : earlier.triple? ≠ none := by
      simpa [Option.isSome_iff_ne_none] using read earlier listed
    obtain ⟨t, triple⟩ := Option.ne_none_iff_exists'.mp whole
    exact ⟨t, normalTransition_given triple⟩
  · exact failed

/-- The outcome reports the first row without a normal form, and describes its defect. Rows behind
it may be worse, and they are not mentioned. -/
def DescribesFirst {β : Type} (ends : String) (rows : List (Row Scalar))
    (outcome : Except Failure β) : Prop :=
  ∃ row violation, firstUnread? rows = some row ∧ row.given.Defect ends violation ∧
    outcome = .error (.violation violation)

/-- Where some row is misshapen and the first one without a normal form can be described, the
reading of the rows describes it. -/
theorem describesFirst (ends : String) (misshapen : ∃ row ∈ rows, row.Misshapen)
    (writable : ¬ ∃ row, firstUnread? rows = some row ∧ row.Unwritable) :
    DescribesFirst ends rows
      (((rows.map given).map toValue).mapM (Value.normalTransition ends)) := by
  obtain ⟨other, listed, misshapen⟩ := misshapen
  cases first : firstUnread? rows with
  | none =>
    have read := List.find?_eq_none.mp first other listed
    rw [triple?_eq_none_iff.mpr (.inl misshapen)] at read
    exact absurd rfl read
  | some row =>
    have unread : row.triple? = none := (unread_of_first first).2
    have describable : ¬ row.Unwritable := fun unwritable => writable ⟨row, first, unwritable⟩
    obtain ⟨violation, defect⟩ : ∃ violation, row.given.Defect ends violation :=
      exists_defect ((triple?_eq_none_iff.mp unread).resolve_right describable) describable
    exact ⟨row, violation, first, defect,
      mapM_given_of_unread first (defect.normalTransition row.not_infinite_given)⟩

end Row

/-- The final states as they are given: a text, or a list of states. A text could be gone through as
well, and it is refused for that reason. -/
inductive Finals where
  | text (s : String)
  | states (items : List Scalar)

namespace Finals

/-- The value that final states are given as. States come in a list, which stands for any collection
of them. -/
def toValue : Finals → Value
  | .text s => .text s
  | .states items => .list (items.map Scalar.toValue)

/-- The texts of the final states. A text is not taken for the list of its characters. -/
def plain : Finals → List String
  | .text _ => []
  | .states items => items.map Scalar.plain

/-- All final states can be written. A text is refused before that is asked. -/
def isWritable : Finals → Bool
  | .text _ => true
  | .states items => items.all Scalar.isWritable

/-- The texts of a list of states are found one after the other, so the first state without a text
decides the failure. -/
theorem finalStates_eq (items : List Scalar) :
    finalStates (states items).toValue = (items.map Scalar.toValue).mapM Value.plain := by
  rw [toValue, finalStates, mapItems_list]
  intro s impossible
  cases impossible

/-- If all final states can be written, their texts are found. -/
theorem finalStates_states {items : List Scalar} (writable : (states items).isWritable = true) :
    finalStates (states items).toValue = .ok (states items).plain := by
  rw [finalStates_eq, mapM_eq_ok, plain, List.forall₂_map_left_iff, List.forall₂_map_right_iff,
    List.forall₂_same]
  exact fun item listed => Scalar.plain_toValue (List.all_eq_true.mp writable item listed)

/-- If one cannot, this is the failure, whatever comes after it. -/
theorem finalStates_of_unwritable {items : List Scalar}
    (long : (states items).isWritable = false) :
    finalStates (states items).toValue = .error .badNumeral := by
  have unwritable : ∃ item ∈ items, item.isWritable = false := by
    simpa [isWritable] using long
  obtain ⟨before, item, after, rfl, short, longItem⟩ := exists_first unwritable
  rw [finalStates_eq]
  apply mapM_map_eq_error_of_first
  · intro earlier listed
    exact ⟨_, Scalar.plain_toValue (Bool.not_eq_false _ ▸ short earlier listed)⟩
  · exact Scalar.plain_of_unwritable longItem

end Finals

/-- The rules on rows, which are read one after the other up to the first one that cannot be. The
limit on digits comes first, since a row that cannot be described is not reported. -/
def Row.rules (rows : List (Row Scalar)) : List Rule :=
  [.unwritable (∃ row, firstUnread? rows = some row ∧ row.Unwritable),
    .named "malformed_transition" (∃ row ∈ rows, row.Misshapen)]

/-- The rules of an automaton constraint, in the order in which they are checked. The start state is
written before anything else is looked at. -/
def Regular.rules (scope : List Value) (rows : List (Row Scalar)) (start : Scalar)
    (finals : Finals) : List Rule :=
  [.unwritable (start.isWritable = false), .named "empty_variables" (scope = []),
    .named "empty_transitions" (rows = []), .named "malformed_final" (∃ s, finals = .text s),
    .unwritable (finals.isWritable = false), .named "empty_final" (finals = .states [])] ++
      Row.rules rows ++ Automaton.rules (rows.filterMap Row.triple?) start.plain finals.plain

/-- The rules of a diagram constraint, in the order in which they are checked. Both ends are written
before anything else is looked at. -/
def Mdd.rules (scope : List Value) (rows : List (Row Scalar)) (root terminal : Scalar) :
    List Rule :=
  [.unwritable (root.isWritable = false), .unwritable (terminal.isWritable = false),
    .named "empty_variables" (scope = []), .named "empty_transitions" (rows = [])] ++
      Row.rules rows ++ Diagram.rules (rows.filterMap Row.triple?) root.plain terminal.plain

namespace DecidedBy

variable {β γ : Type} {rules : List Rule}

/-- A step that refuses an empty list decides the rule against it. The step that comes next sees a
list with items. -/
theorem require {items : List Value} {violation : Violation} {next : Unit → Except Failure β}
    {violated : Prop} (family : violation.family = .construction)
    (empty : violated ↔ items = []) (later : DecidedBy (next ()) rules) :
    DecidedBy (requireItems items violation >>= next)
      (.named violation.rule violated :: rules) := by
  cases items with
  | nil =>
    rw [requireItems_nil family]
    exact .refused (empty.mpr rfl) ⟨violation, rfl, rfl⟩
  | cons item rest => exact .passed (mt empty.mp (List.cons_ne_nil item rest)) later

/-- The step that reads the rows decides the rules on them. It stops at the first row that it cannot
read, so the rule is the one that this row violates. -/
theorem read {ends : String} {rows : List (Row Scalar)}
    {next : List (Transition String Label) → Except Failure β}
    (later : DecidedBy (next (rows.filterMap Row.triple?)) rules) :
    DecidedBy
      (((rows.map Row.given).map Row.toValue).mapM (Value.normalTransition ends) >>= next)
      (Row.rules rows ++ rules) := by
  by_cases unwritable : ∃ row, Row.firstUnread? rows = some row ∧ row.Unwritable
  · obtain ⟨row, first, long⟩ := unwritable
    rw [Row.mapM_given_of_unread first long.normalTransition]
    exact .refused ⟨row, first, long⟩ rfl
  · apply DecidedBy.passed unwritable
    by_cases misshapen : ∃ row ∈ rows, row.Misshapen
    · obtain ⟨_, violation, _, defect, refused⟩ := Row.describesFirst ends misshapen unwritable
      rw [refused]
      exact .refused misshapen ⟨violation, defect.rule, rfl⟩
    · have whole : Row.firstUnread? rows = none := by
        refine Option.eq_none_iff_forall_ne_some.mpr fun row first => ?_
        obtain ⟨listed, unread⟩ := Row.unread_of_first first
        rcases Row.triple?_eq_none_iff.mp unread with shapeless | long
        · exact misshapen ⟨row, listed, shapeless⟩
        · exact unwritable ⟨row, first, long⟩
      rw [Row.mapM_given whole]
      exact .passed misshapen later

end DecidedBy

section Makers

variable {id : Value} {name : String} {scope : List Value} {rows : List (Row Scalar)}

/-- An outcome is decided by the rules, and where it reports a malformed row it describes the first
one there is. -/
structure Reported {β : Type} (ends : String) (rows : List (Row Scalar)) (rules : List Rule)
    (outcome : Except Failure β) : Prop where
  decided : DecidedBy outcome rules
  describes : Violates outcome "malformed_transition" → Row.DescribesFirst ends rows outcome

/-- Rows of scalars as one value. -/
def Row.givenTogether (rows : List (Row Scalar)) : Value := together (rows.map given)

/-- The maker of automaton constraints goes through its steps in the order of the rules. Each step
that is passed takes the rule at the front of the list away. -/
theorem Regular.make_decided (named : id.normalId = .ok name) (start : Scalar) (finals : Finals) :
    DecidedBy (Regular.make id (.list scope) (Row.givenTogether rows) start.toValue finals.toValue)
      (Regular.rules scope rows start finals) := by
  cases startWritable : start.isWritable with
  | false =>
    rw [make_of_unwritten rfl rfl
      (.inr ⟨name, named, Scalar.plain_of_unwritable startWritable⟩)]
    exact .refused startWritable rfl
  | true =>
    apply DecidedBy.passed (by simp [Rule.unwritable, startWritable])
    rw [make_of_read named rfl rfl (Scalar.plain_toValue startWritable)]
    apply DecidedBy.require rfl Iff.rfl
    apply DecidedBy.require rfl (by simp)
    cases finals with
    | text s => exact .refused ⟨s, rfl⟩ ⟨.malformedFinals _, rfl, rfl⟩
    | states items =>
      apply DecidedBy.passed (by simp [Rule.named])
      -- The final states get their texts here, and the rows their normal forms only afterwards.
      cases finalsWritable : (Finals.states items).isWritable with
      | false =>
        rw [Finals.finalStates_of_unwritable finalsWritable]
        exact .refused rfl rfl
      | true =>
        apply DecidedBy.passed (by simp [Rule.unwritable])
        rw [Finals.finalStates_states finalsWritable]
        apply DecidedBy.require rfl (by simp [Finals.plain])
        apply DecidedBy.read
        apply Automaton.decidedBy_rules
        · intro states accepted
          obtain ⟨a, made⟩ := Automaton.ofTransitions_of_accepted accepted
          exact ⟨⟨name, scope, a⟩, by rw [made]; rfl⟩
        · intro fault refused
          rw [Automaton.ofTransitions_of_refused refused]
          rfl

/-- The maker of diagram constraints goes through its rules in the same way. Both its ends are
written before anything is checked. -/
theorem Mdd.make_decided (named : id.normalId = .ok name) (root terminal : Scalar) :
    DecidedBy (Mdd.make id (.list scope) (Row.givenTogether rows) root.toValue terminal.toValue)
      (Mdd.rules scope rows root terminal) := by
  cases rootWritable : root.isWritable with
  | false =>
    rw [make_of_unwritten rfl rfl
      (.inr ⟨name, named, .inl (Scalar.plain_of_unwritable rootWritable)⟩)]
    exact .refused rootWritable rfl
  | true =>
    have rootText := Scalar.plain_toValue rootWritable
    apply DecidedBy.passed (by simp [Rule.unwritable, rootWritable])
    cases terminalWritable : terminal.isWritable with
    | false =>
      rw [make_of_unwritten rfl rfl (.inr ⟨name, named, .inr ⟨_, rootText,
        Scalar.plain_of_unwritable terminalWritable⟩⟩)]
      exact .refused rfl rfl
    | true =>
      apply DecidedBy.passed (by simp [Rule.unwritable])
      rw [make_of_read named rfl rfl rootText (Scalar.plain_toValue terminalWritable)]
      apply DecidedBy.require rfl Iff.rfl
      apply DecidedBy.require rfl (by simp)
      apply DecidedBy.read
      apply Diagram.decidedBy_rules
      · intro levels accepted
        obtain ⟨d, made⟩ := Diagram.ofTransitions_of_accepted accepted
        exact ⟨⟨name, scope, d⟩, by rw [made]; rfl⟩
      · intro fault refused
        rw [Diagram.ofTransitions_of_refused refused]
        rfl

/-- Where a malformed transition is reported, all rules before it are kept, so the reading of the
rows has been reached and has failed on the first malformed one. -/
theorem Regular.make_describes (named : id.normalId = .ok name) (start : Scalar) (finals : Finals)
    (violates : Violates (Regular.make id (.list scope) (Row.givenTogether rows) start.toValue
      finals.toValue) "malformed_transition") :
    Row.DescribesFirst "state" rows
      (Regular.make id (.list scope) (Row.givenTogether rows) start.toValue finals.toValue) := by
  have first := ((make_decided named start finals).violates_iff _).mp violates
  simp only [rules, Row.rules, Automaton.rules, List.cons_append, List.nil_append,
    firstViolated_cons, Rule.named, Rule.unwritable, reduceCtorEq, Verdict.violates.injEq,
    String.reduceEq, and_false, and_true, false_or, or_false, not_firstViolated_nil] at first
  obtain ⟨startWritable, filled, _, noText, finalsWritable, someFinal, writable, misshapen⟩ := first
  rw [Bool.not_eq_false] at startWritable finalsWritable
  obtain ⟨row, violation, unread, defect, refused⟩ :=
    Row.describesFirst "state" misshapen writable
  refine ⟨row, violation, unread, defect, ?_⟩
  cases finals with
  | text s => exact absurd ⟨s, rfl⟩ noText
  | states items =>
    exact make_of_unread named rfl filled rfl (Scalar.plain_toValue startWritable)
      (Finals.finalStates_states finalsWritable) (by simpa [Finals.plain] using someFinal) refused

/-- The same holds of diagram constraints, whose messages speak of nodes instead of states. -/
theorem Mdd.make_describes (named : id.normalId = .ok name) (root terminal : Scalar)
    (violates : Violates (Mdd.make id (.list scope) (Row.givenTogether rows) root.toValue
      terminal.toValue) "malformed_transition") :
    Row.DescribesFirst "node" rows
      (Mdd.make id (.list scope) (Row.givenTogether rows) root.toValue terminal.toValue) := by
  have first := ((make_decided named root terminal).violates_iff _).mp violates
  simp only [rules, Row.rules, Diagram.rules, List.cons_append, List.nil_append,
    firstViolated_cons, Rule.named, Rule.unwritable, reduceCtorEq, Verdict.violates.injEq,
    String.reduceEq, and_false, and_true, false_or, or_false, not_firstViolated_nil] at first
  obtain ⟨rootWritable, terminalWritable, filled, _, writable, misshapen⟩ := first
  rw [Bool.not_eq_false] at rootWritable terminalWritable
  obtain ⟨row, violation, unread, defect, refused⟩ := Row.describesFirst "node" misshapen writable
  refine ⟨row, violation, unread, defect, ?_⟩
  exact make_of_unread named rfl filled rfl (Scalar.plain_toValue rootWritable)
    (Scalar.plain_toValue terminalWritable) refused

end Makers

/-- The makers of automaton and diagram constraints report the first violated rule of a fixed list,
and make a constraint exactly when none is violated. A malformed transition that is reported is the
first one there is, and the message describes it. Only an identifier that has no text comes before
all rules. -/
theorem first_violated_reported (id : Value) (scope : List Value) (rows : List (Row Scalar)) :
    (∀ name, id.normalId = .ok name →
      (∀ (start : Scalar) (finals : Finals),
        Reported "state" rows (Regular.rules scope rows start finals)
          (Regular.make id (.list scope) (Row.givenTogether rows) start.toValue
            finals.toValue)) ∧
        ∀ root terminal : Scalar,
          Reported "node" rows (Mdd.rules scope rows root terminal)
            (Mdd.make id (.list scope) (Row.givenTogether rows) root.toValue
              terminal.toValue)) ∧
    ∀ failure, id.normalId = .error failure →
      (∀ (start : Scalar) (finals : Finals),
        Regular.make id (.list scope) (Row.givenTogether rows) start.toValue finals.toValue =
          .error failure) ∧
        ∀ root terminal : Scalar,
          Mdd.make id (.list scope) (Row.givenTogether rows) root.toValue terminal.toValue =
            .error failure := by
  constructor
  · intro name named
    constructor
    · intro start finals
      constructor
      case decided => exact Regular.make_decided named start finals
      case describes => exact Regular.make_describes named start finals
    · intro root terminal
      constructor
      case decided => exact Mdd.make_decided named root terminal
      case describes => exact Mdd.make_describes named root terminal
  · intro failure unnamed
    constructor
    · exact fun start finals => Regular.make_of_unwritten rfl rfl (.inl unnamed)
    · exact fun root terminal => Mdd.make_of_unwritten rfl rfl (.inl unnamed)

/-- Two rows whose states and values are equal only in their normal form. -/
def colliding : List (Row Scalar) :=
  [⟨true, [.int 0, .text "1", .int 1]⟩, ⟨false, [.text "0", .bool true, .null]⟩]

/-- Two malformed rows after one that is not. -/
def misshapen : List (Row Scalar) :=
  [⟨true, [.text "r", .text " 1 ", .text "t"]⟩, ⟨false, [.text "r", .null, .text "t"]⟩,
    ⟨true, []⟩]

/-- The collision is reported although the rows differ as they are given, and a malformed row is
reported although the root is unknown too. -/
theorem first_violated_reported_coerced :
    Value.null.normalId = .ok "" ∧
      FirstViolated (Regular.rules [.text "x"] colliding (.int 0) (.states [.null, .int 1]))
        (.violates "non_deterministic") ∧
      FirstViolated (Mdd.rules [.text "x"] misshapen (.int 7) (.text "t"))
        (.violates "malformed_transition") ∧
      Row.DescribesFirst "node" misshapen (Mdd.make .null (.list [.text "x"])
        (Row.givenTogether misshapen) (.int 7) (.text "t")) := by
  have named : Value.null.normalId = .ok "" := rfl
  obtain ⟨automata, _⟩ := (first_violated_reported .null [.text "x"] colliding).1 "" named
  obtain ⟨_, diagrams⟩ := (first_violated_reported .null [.text "x"] misshapen).1 "" named
  have collision : Violates (Regular.make .null (.list [.text "x"]) (Row.givenTogether colliding)
      (.int 0) (Finals.states [.null, .int 1]).toValue) "non_deterministic" :=
    ⟨.nonDeterministic "0" "True", rfl, rfl⟩
  have malformed : Violates (Mdd.make .null (.list [.text "x"]) (Row.givenTogether misshapen)
      (.int 7) (.text "t")) "malformed_transition" := ⟨.malformedValue "None", rfl, rfl⟩
  have automaton := automata (.int 0) (.states [.null, .int 1])
  have diagram := diagrams (.int 7) (.text "t")
  exact ⟨named, (automaton.decided.violates_iff _).mp collision,
    (diagram.decided.violates_iff _).mp malformed, diagram.describes malformed⟩

/-- Rows that are equal but for their targets, with a value that is too long for the report. -/
def longRows : List (Row Scalar) :=
  [⟨true, [.text "a", .int unwritable, .text "b"]⟩,
    ⟨true, [.text "a", .int unwritable, .text "c"]⟩]

/-- Both rows can be read and repeat each other, and yet no rule is reported. And an identifier
without a text keeps a constraint from being made that violates no rule at all. -/
theorem unwritable_unreported :
    (longRows.filterMap Row.triple? = Automaton.longPair ∧
        ¬ Automaton.Deterministic Automaton.longPair ∧
        Regular.make .null (.list [.text "x"]) (Row.givenTogether longRows) (.text "a")
          (.list [.text "b"]) = .error .badNumeral) ∧
      (∃ c, Regular.make .null (.list [.text "x"])
        (Row.givenTogether [⟨true, [.text "a", .int 0, .text "b"]⟩]) (.text "a")
          (.list [.text "b"]) = .ok c) ∧
        Regular.make Automaton.namelessCell (.list [.text "x"])
          (Row.givenTogether [⟨true, [.text "a", .int 0, .text "b"]⟩]) (.text "a")
            (.list [.text "b"]) = .error .notText := by
  refine ⟨⟨rfl, Automaton.not_deterministic_longPair, ?_⟩, ⟨_, rfl⟩, rfl⟩
  have read : ((longRows.map Row.given).map Row.toValue).mapM (Value.normalTransition "state") =
      .ok Automaton.longPair := rfl
  rw [Row.givenTogether, Row.together, Regular.make_of_read rfl rfl rfl rfl, read]
  change ((Automaton.ofTransitions Automaton.longPair "a" ["b"]).mapError (·.failure) >>= _) = _
  rw [Automaton.ofTransitions_of_refused Automaton.check_longPair, Except.mapError,
    Automaton.failure_longPair]
  rfl

end Csp
