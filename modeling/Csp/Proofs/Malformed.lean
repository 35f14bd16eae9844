import Csp.Proofs.Denotation
import Csp.Proofs.Diagram.Inference
import Csp.Proofs.Row

/-!
# Malformed transitions

The value of a transition ought to denote an integer, and a row of which that is
not so, or which does not have three items, ought to be reported as a malformed
transition by whatever reads it: the reading of the rows itself, the two makers,
and the two callbacks of a document reader.

All five report the first such row, but for doubles that are no integers. An
infinite double fails as a number that is too large, and a double with digits
after the point is not refused at all but loses them. The callback on diagrams
has one more gap: it looks for the ends of the diagram before it reads the rows,
and a row that does not have three items fails there without a report.

A report shows the row or its value, and the rows before the one that is
reported have to be read first. What cannot be written, like an integer with too
many digits, stands in the way of both, so it is part of the condition.
-/
namespace Csp

/-- The outcome is the error of construction that reports a malformed transition. The text of the
message is left open here. -/
def ReportsMalformed {β : Type} (outcome : Except Failure β) : Prop :=
  ∃ violation : Violation, violation.family = .construction ∧
    violation.rule = "malformed_transition" ∧ outcome = .error (.violation violation)

namespace ReportsMalformed

variable {β γ : Type} {outcome : Except Failure β} {other : Except Failure γ}

/-- A report is passed on by whatever fails in the same way. A step that fails ends what it is a
step of. -/
theorem passed_on (reports : ReportsMalformed outcome)
    (passes : ∀ failure, outcome = .error failure → other = .error failure) :
    ReportsMalformed other := by
  obtain ⟨violation, family, rule, refused⟩ := reports
  exact ⟨violation, family, rule, passes _ refused⟩

/-- An outcome that reports a malformed transition has this rule, so a failure of another kind is
not such a report. -/
theorem rule? {failure : Failure} (reports : ReportsMalformed outcome)
    (failed : outcome = .error failure) :
    failure.rule? = some (.text "malformed_transition") := by
  obtain ⟨violation, _, rule, refused⟩ := reports
  rw [refused] at failed
  cases failed
  exact congrArg (fun name => some (Value.text name)) rule

/-- What fails with other rules only does not report a malformed transition. This is how the steps
before and after the reading are ruled out. -/
theorem rule_mem {rules : List String} (reports : ReportsMalformed outcome)
    (others : FailsOnly (Reports rules) outcome) : "malformed_transition" ∈ rules := by
  by_contra unlisted
  have ⟨_, _, _, refused⟩ := reports
  exact (others _ refused).rule?_ne unlisted (reports.rule? refused)

/-- A second step reports what the first one does, if it does not report malformed transitions by
itself. -/
theorem iff_of_steps {rules : List String} (unlisted : "malformed_transition" ∉ rules)
    (refused : ∀ failure, outcome = .error failure → other = .error failure)
    (accepted : ∀ result, outcome = .ok result → FailsOnly (Reports rules) other) :
    ReportsMalformed other ↔ ReportsMalformed outcome := by
  constructor
  · intro reports
    cases reached : outcome with
    | ok result => exact absurd (reports.rule_mem (accepted result reached)) unlisted
    | error failure =>
      rw [refused failure reached] at reports
      exact reports.passed_on fun _ same => congrArg Except.error (Except.error.inj same)
  · exact fun reports => reports.passed_on refused

end ReportsMalformed

namespace Row

/-- A row does not have three items, or its value denotes no integer. A double with digits after the
point denotes none. -/
def Malformed (row : Row Value) : Prop :=
  row.items.length ≠ 3 ∨
    ∃ source value target, row.items = [source, value, target] ∧ ∀ n, ¬ value.Denotes n

/-- The value of a row has digits after the point. Such a value is malformed, and it is not
refused. -/
def Fractional (row : Row Value) : Prop :=
  ∃ source value target, row.items = [source, value, target] ∧ value.Fractional

/-- The ends of a row have plain texts, if it has three items. -/
def Named (row : Row Value) : Prop :=
  ∀ source value target, row.items = [source, value, target] →
    (∃ first, source.plain = .ok first) ∧ ∃ last, target.plain = .ok last

/-- What a report on a row would show can be written: the value, or the whole row if it does not
have three items. -/
def Describable (row : Row Value) : Prop :=
  (row.items.length ≠ 3 → ∃ given, row.toValue.written = .ok given) ∧
    ∀ source value target, row.items = [source, value, target] →
      ∃ given, value.written = .ok given

/-- The first row that is malformed, and of which not merely digits after the point are cut off,
does not have an infinite value and can be described, and the ends of the rows before it can be
written. -/
def FirstReported (rows : List (Row Value)) : Prop :=
  ∃ before row after, rows = before ++ row :: after ∧
    (∀ earlier ∈ before, (earlier.Malformed → earlier.Fractional) ∧ earlier.Named) ∧
    row.Malformed ∧ ¬ row.Fractional ∧ ¬ row.Infinite ∧ row.Describable

section Defects

variable {row : Row Value} {ends : String}

/-- What is malformed and can be described has a defect, unless digits after the point are cut
off. -/
theorem exists_defect_iff :
    (∃ violation, row.Defect ends violation) ↔
      row.Malformed ∧ ¬ row.Fractional ∧ row.Describable := by
  constructor
  · rintro ⟨violation, defect⟩
    cases defect with
    | length given other described =>
      refine ⟨.inl other, ?_, fun _ => ⟨given, described⟩, ?_⟩
      · rintro ⟨source, value, target, triple, _⟩
        exact other (by rw [triple]; rfl)
      · intro source value target triple
        exact absurd (by rw [triple]; rfl) other
    | value given source value target triple refused described =>
      refine ⟨.inr ⟨source, value, target, triple, fun n denotes => ?_⟩, ?_, ?_, ?_⟩
      · exact refused n (Value.whole_of_denotes denotes)
      · rintro ⟨_, _, _, tripleToo, cut⟩
        rw [triple] at tripleToo
        cases tripleToo
        obtain ⟨n, taken⟩ := cut.whole
        exact refused n taken
      · exact fun other => absurd (by rw [triple]; rfl) other
      · intro _ _ _ tripleToo
        rw [triple] at tripleToo
        cases tripleToo
        exact ⟨given, described⟩
  · rintro ⟨other | ⟨source, value, target, triple, nothing⟩, exact, whole, part⟩
    · obtain ⟨given, described⟩ := whole other
      exact ⟨_, .length given other described⟩
    · obtain ⟨given, described⟩ := part source value target triple
      refine ⟨_, .value given source value target triple (fun n taken => ?_) described⟩
      apply nothing n
      apply Value.denotes_of_whole taken
      exact fun cut => exact ⟨source, value, target, triple, cut⟩

/-- What is wrong with a row is reported as an error of construction and not of validation. -/
theorem Defect.family {violation : Violation} (defect : row.Defect ends violation) :
    violation.family = .construction := by
  cases defect <;> rfl

/-- A row can be read exactly if at most digits after the point are cut off and its ends have
texts. -/
theorem sound_iff : row.Sound ↔ (row.Malformed → row.Fractional) ∧ row.Named := by
  constructor
  · rintro ⟨source, value, target, triple, ⟨n, taken⟩, first, last⟩
    constructor
    · rintro (other | ⟨_, _, _, tripleToo, nothing⟩)
      · exact absurd (by rw [triple]; rfl) other
      · rw [triple] at tripleToo
        cases tripleToo
        by_contra exact
        apply nothing n
        apply Value.denotes_of_whole taken
        exact fun cut => exact ⟨source, value, target, triple, cut⟩
    · intro _ _ _ tripleToo
      rw [triple] at tripleToo
      cases tripleToo
      exact ⟨first, last⟩
  · rintro ⟨only, named⟩
    have three : row.items.length = 3 := by
      by_contra other
      obtain ⟨source, value, target, triple, _⟩ := only (.inl other)
      exact other (by rw [triple]; rfl)
    obtain ⟨source, value, target, triple⟩ := List.length_eq_three.mp three
    have taken : ∃ n, value.whole = .ok n := by
      by_contra refused
      have nothing (n : Int) : ¬ value.Denotes n := fun denotes =>
        refused ⟨n, Value.whole_of_denotes denotes⟩
      obtain ⟨_, _, _, tripleToo, cut⟩ := only (.inr ⟨source, value, target, triple, nothing⟩)
      rw [triple] at tripleToo
      cases tripleToo
      exact refused cut.whole
    obtain ⟨first, last⟩ := named source value target triple
    exact ⟨source, value, target, triple, taken, first, last⟩

end Defects

/-- Reading the rows reports a malformed transition exactly where the first row that cannot be read
is malformed, can be described and does not have an infinite value. -/
theorem unread_iff (rows : List (Row Value)) (ends : String) :
    ReportsMalformed ((rows.map toValue).mapM (Value.normalTransition ends)) ↔
      FirstReported rows := by
  constructor
  · intro reports
    obtain ⟨reported, _, _, failed⟩ := reports
    -- The reading fails as it does on the first row that cannot be read, so this is the row that is
    -- reported, and an infinite value would have failed in another way.
    obtain ⟨_, _, _, split, done, failedThere⟩ := first_of_mapM_eq_error failed
    obtain ⟨before, rest, rfl, rfl, tail⟩ := List.map_eq_append_iff.mp split
    obtain ⟨row, after, rfl, rfl, rfl⟩ := List.map_eq_cons_iff.mp tail
    have small : ¬ row.Infinite := by
      intro infinite
      cases infinite.normalTransition.symm.trans failedThere
    have defective : ∃ violation, row.Defect ends violation := by
      obtain ⟨violation, defect, _⟩ :=
        exists_defect_of_reported failedThere (Option.some_ne_none _)
      exact ⟨violation, defect⟩
    obtain ⟨malformed, exact, describable⟩ := exists_defect_iff.mp defective
    refine ⟨before, row, after, rfl, fun earlier listed => ?_, malformed, exact, small,
      describable⟩
    exact sound_iff.mp (read_iff_sound.mp (done _ (List.mem_map_of_mem listed)))
  · rintro ⟨before, row, after, rfl, sound, malformed, exact, small, describable⟩
    obtain ⟨violation, defect⟩ : ∃ violation, row.Defect ends violation :=
      exists_defect_iff.mpr ⟨malformed, exact, describable⟩
    refine ⟨violation, defect.family, defect.rule, ?_⟩
    apply mapM_map_eq_error_of_first
    · intro earlier listed
      exact read_iff_sound.mpr (sound_iff.mpr (sound earlier listed))
    · exact defect.normalTransition small

section Readable

variable {row : Row Value} (readable : ∀ item ∈ row.items, item.Readable)

include readable

/-- Readable parts can be written where they are the ends of a transition. -/
theorem named_of_readable : row.Named := by
  intro source value target triple
  exact ⟨(readable source (by simp [triple])).plain, (readable target (by simp [triple])).plain⟩

/-- Readable parts can be written where a message has to show them. -/
theorem describable_of_readable : row.Describable := by
  constructor
  · exact fun _ => written_toValue readable
  · intro source value target triple
    exact (readable value (by simp [triple])).written

end Readable

/-- If all items can be written, and no value of a row is a double that is no integer, then a
malformed row is all it takes. -/
theorem firstReported_of_malformed {rows : List (Row Value)}
    (readable : ∀ row ∈ rows, ∀ item ∈ row.items, item.Readable)
    (exact : ∀ row ∈ rows, ¬ row.Fractional) (small : ∀ row ∈ rows, ¬ row.Infinite)
    (malformed : ∃ row ∈ rows, row.Malformed) : FirstReported rows := by
  obtain ⟨before, row, after, rfl, sound, malformed⟩ := exists_first malformed
  refine ⟨before, row, after, rfl, fun earlier listed => ?_, malformed, exact row (by simp),
    small row (by simp), describable_of_readable (readable row (by simp))⟩
  exact ⟨fun bad => absurd bad (sound earlier listed),
    named_of_readable (readable earlier (List.mem_append_left _ listed))⟩

end Row

/-- What the maker of automaton constraints is given besides the rows can be read, and neither the
scope nor the final states are empty. -/
structure Regular.Supplied (id scope start finals : Value) : Prop where
  named : ∃ name, id.normalId = .ok name
  mentioned : ∃ terms, scope.items = .ok terms ∧ terms ≠ []
  started : ∃ first, start.plain = .ok first
  ended : ∃ texts, finalStates finals = .ok texts ∧ texts ≠ []

/-- What the maker of diagram constraints is given besides the rows can be read, and the scope is
not empty. -/
structure Mdd.Supplied (id scope root terminal : Value) : Prop where
  named : ∃ name, id.normalId = .ok name
  mentioned : ∃ terms, scope.items = .ok terms ∧ terms ≠ []
  rooted : ∃ first, root.plain = .ok first
  ended : ∃ last, terminal.plain = .ok last

/-- Of the steps of the maker, only the one that reads the rows reports malformed transitions. The
steps before it succeed by assumption, and those after it have rules of their own. -/
theorem Regular.Supplied.reports_iff {id scope start finals : Value}
    (supplied : Supplied id scope start finals) (items : List Value) :
    ReportsMalformed (Regular.make id scope (.list items) start finals) ↔
      ReportsMalformed (items.mapM (Value.normalTransition "state")) := by
  obtain ⟨name, named⟩ := supplied.named
  obtain ⟨terms, mentioned, filled⟩ := supplied.mentioned
  obtain ⟨first, startText⟩ := supplied.started
  obtain ⟨texts, finalTexts, someFinal⟩ := supplied.ended
  have unlisted : "malformed_transition" ∉
      ["empty_transitions", "unknown_start", "unknown_final", "non_deterministic"] := by decide
  apply ReportsMalformed.iff_of_steps unlisted
  · intro failure unread
    exact make_of_unread named mentioned filled rfl startText finalTexts someFinal unread
  · intro normal read
    rw [make_of_read named mentioned rfl startText, requireItems_of_filled filled, finalTexts, read]
    refine (FailsOnly.ok ()).bind fun _ _ => ?_
    refine (requireItems_reports (by decide)).bind fun _ _ => ?_
    refine (FailsOnly.ok texts).bind fun others same => ?_
    cases same
    rw [requireItems_of_filled (mt List.map_eq_nil_iff.mp someFinal)]
    refine (FailsOnly.ok ()).bind fun _ _ => ?_
    refine (FailsOnly.ok normal).bind fun _ _ => ?_
    refine FailsOnly.bind (.mapError fun fault _ => ?_) fun a _ => .ok _
    exact fault.failure_reports (by decide) (by decide) (by decide)

/-- The maker of diagram constraints reports a malformed transition exactly where the reading of its
rows does. Everything that it checks before has been supplied, and all that it checks afterwards has
rules of its own. -/
theorem Mdd.Supplied.reports_iff {id scope root terminal : Value}
    (supplied : Supplied id scope root terminal) (items : List Value) :
    ReportsMalformed (Mdd.make id scope (.list items) root terminal) ↔
      ReportsMalformed (items.mapM (Value.normalTransition "node")) := by
  obtain ⟨name, named⟩ := supplied.named
  obtain ⟨terms, mentioned, filled⟩ := supplied.mentioned
  obtain ⟨first, rootText⟩ := supplied.rooted
  obtain ⟨last, terminalText⟩ := supplied.ended
  have unlisted : "malformed_transition" ∉
      ["empty_transitions", "unknown_root", "root_is_destination", "unknown_terminal",
        "terminal_is_source", "cyclic", "inconsistent_level"] := by decide
  apply ReportsMalformed.iff_of_steps unlisted
  · intro failure unread
    exact make_of_unread named mentioned filled rfl rootText terminalText unread
  · intro normal read
    rw [make_of_read named mentioned rfl rootText terminalText, requireItems_of_filled filled, read]
    refine (FailsOnly.ok ()).bind fun _ _ => ?_
    refine (requireItems_reports (by decide)).bind fun _ _ => ?_
    refine (FailsOnly.ok normal).bind fun _ _ => ?_
    refine FailsOnly.bind (.mapError fun fault _ => reports_violation ?_) fun d _ => .ok _
    cases fault <;> simp [Diagram.Fault.violation, Violation.rule]

namespace Diagram

/-- Ends that are the only ones of their kinds are inferred. All rows have to be triples for that,
since they are taken apart before they are coerced. -/
theorem givenEnds_of_soleEnds {items : List Value} {named : List (Transition String Value)}
    {root terminal : String} (described : List.Forall₂ Value.Describes items named)
    (sole : SoleEnds named root terminal) : givenEnds (.list items) = .ok (root, terminal) := by
  have found : findEnds named = .ok (root, terminal) := by
    rw [findEnds_ok_iff]
    constructor
    · apply checkEnds_ok_iff.mpr
      exact ⟨(sole.root_iff root).mpr rfl, (sole.terminal_iff terminal).mpr rfl⟩
    · intro other last both
      obtain ⟨isRoot, isTerminal⟩ := checkEnds_ok_iff.mp both
      exact ⟨(sole.root_iff other).mp isRoot, (sole.terminal_iff last).mp isTerminal⟩
  rw [givenEnds_of_described described, found]
  rfl

/-- The inference takes three items out of every row, and fails at the first row that does not have
three. -/
theorem givenEnds_of_short {rows : List (Row Value)}
    (readable : ∀ row ∈ rows, ∀ item ∈ row.items, item.Readable)
    (short : ∃ row ∈ rows, row.items.length ≠ 3) :
    givenEnds (Row.together rows) = .error .wrongCount := by
  obtain ⟨before, row, after, rfl, long, other⟩ := exists_first short
  have unread : ((before ++ row :: after).map Row.toValue).mapM Value.namedTransition =
      .error .wrongCount := by
    apply mapM_map_eq_error_of_first
    · intro triple listed
      obtain ⟨source, value, target, items⟩ :=
        List.length_eq_three.mp (not_not.mp (long triple listed))
      have readableItems := readable triple (List.mem_append_left _ listed)
      obtain ⟨first, firstText⟩ := (readableItems source (by simp [items])).plain
      obtain ⟨last, lastText⟩ := (readableItems target (by simp [items])).plain
      refine ⟨⟨first, value, last⟩, Value.Describes.namedTransition ?_⟩
      exact ⟨source, target, items ▸ triple.items_toValue, firstText, lastText⟩
    · exact bind_eq_error.mpr (.inl (Row.rawTransition_of_length other))
  exact bind_eq_error.mpr (.inl ((mapItems_list _ _).trans unread))

end Diagram

namespace Collector

/-- A callback on automata reports what the maker does. Reading the scope reports no rule, and
neither does the notice. -/
theorem regular_reports_iff (c : Collector) {scope transitions start finals : Value}
    {terms : List Value} (mentioned : scope.terms = .ok terms) :
    ReportsMalformed (c.step (.callback (.regular scope transitions start finals))).result ↔
      ReportsMalformed (Regular.make .null (.list terms) transitions start finals) := by
  apply ReportsMalformed.iff_of_steps List.not_mem_nil
  · intro failure refused
    have nothing : (Callback.regular scope transitions start finals).contribution c.host.room =
        .error failure :=
      bind_eq_error.mpr (.inr ⟨terms, mentioned, bind_eq_error.mpr (.inl refused)⟩)
    rw [step_of_refused nothing]
  · intro m made
    have contributed :
        (Callback.regular scope transitions start finals).contribution c.host.room =
          .ok ⟨.constraint (.regular m), .ok (Notice.regular m.automaton)⟩ :=
      bind_eq_ok.mpr ⟨terms, mentioned, bind_eq_ok.mpr ⟨m, made, rfl⟩⟩
    simp only [step, contributed]
    exact finish_reports _ none (announce_reports _ _ 2)

/-- A callback on diagrams reports what the maker does, once the ends are found. Where they are not
found, nothing is reported about the rows. -/
theorem mdd_reports_iff (c : Collector) {scope transitions : Value} {root terminal : String}
    {terms : List Value} (found : Diagram.givenEnds transitions = .ok (root, terminal))
    (mentioned : scope.terms = .ok terms) :
    ReportsMalformed (c.step (.callback (.mdd scope transitions))).result ↔
      ReportsMalformed (Mdd.make .null (.list terms) transitions (.text root)
        (.text terminal)) := by
  apply ReportsMalformed.iff_of_steps List.not_mem_nil
  · intro failure refused
    have nothing : (Callback.mdd scope transitions).contribution c.host.room = .error failure :=
      bind_eq_error.mpr (.inr ⟨(root, terminal), found,
        bind_eq_error.mpr (.inr ⟨terms, mentioned, bind_eq_error.mpr (.inl refused)⟩)⟩)
    rw [step_of_refused nothing]
  · intro m made
    have contributed : (Callback.mdd scope transitions).contribution c.host.room =
        .ok ⟨.constraint (.mdd m), .ok (Notice.mdd m.diagram)⟩ :=
      bind_eq_ok.mpr ⟨(root, terminal), found,
        bind_eq_ok.mpr ⟨terms, mentioned, bind_eq_ok.mpr ⟨m, made, rfl⟩⟩⟩
    simp only [step, contributed]
    exact finish_reports _ none (announce_reports _ _ 2)

end Collector

namespace Value

/-- A transition carries the integer that the value of an item denotes, unless digits after the
point are cut off. -/
def StoredAs (item : Value) (t : Transition String Label) : Prop :=
  ∃ raw, item.rawTransition = .ok raw ∧ (raw.value.Denotes t.value.value ↔ ¬ raw.value.Fractional)

/-- What is read of each item is stored as the number that it denotes, unless digits after the point
have been cut off. -/
theorem storedAs_of_read {word : String} {items : List Value}
    {stored : List (Transition String Label)}
    (read : (Value.list items).normalTransitions word = .ok stored) :
    List.Forall₂ StoredAs items stored := by
  rw [normalTransitions, mapItems_list, mapM_eq_ok] at read
  refine read.imp fun item t normal => ?_
  obtain ⟨raw, listed, _, labelled, _⟩ := normalTransition_ok normal
  refine ⟨raw, listed, ?_⟩
  constructor
  · exact fun denotes cut => cut.not_denotes _ denotes
  · exact denotes_of_whole (whole_of_label labelled)

end Value

/-- What becomes of rows of which one may be malformed, wherever they are read. -/
structure Row.Treated (rows : List (Row Value)) : Prop where
  /-- If everything can be written and no value is a double that is no integer, any malformed row
  will do. -/
  any : (∀ row ∈ rows, ∀ item ∈ row.items, item.Readable) →
    (∀ row ∈ rows, ¬ row.Fractional ∧ ¬ row.Infinite) → (∃ row ∈ rows, row.Malformed) →
      FirstReported rows
  reading : ∀ word,
    ReportsMalformed ((together rows).normalTransitions word) ↔ FirstReported rows
  automaton : ∀ id scope start finals, Regular.Supplied id scope start finals →
    (ReportsMalformed (Regular.make id scope (together rows) start finals) ↔ FirstReported rows)
  diagram : ∀ id scope root terminal, Mdd.Supplied id scope root terminal →
    (ReportsMalformed (Mdd.make id scope (together rows) root terminal) ↔ FirstReported rows)
  automatonCallback : ∀ (c : Collector) scope terms start finals, scope.terms = .ok terms →
    Regular.Supplied .null (.list terms) start finals →
      (ReportsMalformed (c.step (.callback (.regular scope (together rows) start finals))).result ↔
        FirstReported rows)
  diagramCallback : ∀ (c : Collector) scope terms named root terminal, scope.terms = .ok terms →
    terms ≠ [] → List.Forall₂ Value.Describes (rows.map toValue) named →
      Diagram.SoleEnds named root terminal →
        (ReportsMalformed (c.step (.callback (.mdd scope (together rows)))).result ↔
          FirstReported rows)
  shortCallback : (∀ row ∈ rows, ∀ item ∈ row.items, item.Readable) →
    (∃ row ∈ rows, row.items.length ≠ 3) → ∀ (c : Collector) scope,
      (c.step (.callback (.mdd scope (together rows)))).result = .error .wrongCount
  stored : ∀ word normal, (together rows).normalTransitions word = .ok normal →
    List.Forall₂ Value.StoredAs (rows.map toValue) normal

/-- Whatever reads the rows reports a malformed one exactly if the first row that is malformed, and
of which not merely digits after the point are cut off, does not have an infinite value, and what
has to be written for the report can be written. The callback on diagrams does so as well if each
row has three items and the ends are the only ones, and it fails without a report if some row has
not. What is stored of a value is the integer that it denotes, unless digits after the point are cut
off. -/
theorem malformed_reported (rows : List (Row Value)) : Row.Treated rows := by
  constructor
  case any =>
    intro readable integral malformed
    exact Row.firstReported_of_malformed readable (fun row listed => (integral row listed).1)
      (fun row listed => (integral row listed).2) malformed
  case reading =>
    intro word
    rw [Row.together, Value.normalTransitions, mapItems_list, Row.unread_iff]
  case automaton =>
    intro id scope start finals supplied
    rw [Row.together, supplied.reports_iff, Row.unread_iff]
  case diagram =>
    intro id scope root terminal supplied
    rw [Row.together, supplied.reports_iff, Row.unread_iff]
  case automatonCallback =>
    intro c scope terms start finals mentioned supplied
    rw [c.regular_reports_iff mentioned, Row.together, supplied.reports_iff,
      Row.unread_iff]
  case diagramCallback =>
    intro c scope terms named root terminal mentioned filled described sole
    have found : Diagram.givenEnds (Row.together rows) = .ok (root, terminal) :=
      Diagram.givenEnds_of_soleEnds described sole
    have supplied : Mdd.Supplied .null (.list terms) (.text root) (.text terminal) :=
      ⟨⟨"", rfl⟩, ⟨terms, rfl, filled⟩, ⟨root, rfl⟩, ⟨terminal, rfl⟩⟩
    rw [c.mdd_reports_iff found mentioned, Row.together, supplied.reports_iff,
      Row.unread_iff]
  case shortCallback =>
    intro readable short c scope
    have nothing :
        (Callback.mdd scope (Row.together rows)).contribution c.host.room = .error .wrongCount :=
      bind_eq_error.mpr (.inl (Diagram.givenEnds_of_short readable short))
    rw [Collector.step_of_refused nothing]
  case stored => exact fun word normal read => Value.storedAs_of_read read

/-- Two rows that can be read, of which one has a value with digits after the point, and one that
cannot. -/
def blemished : List (Row Value) :=
  [⟨true, [.text "r", .double (.finite 1), .text "a"]⟩,
    ⟨true, [.text "a", .double (.finite (.ofIntWithPrec 1 1)), .text "t"]⟩,
    ⟨false, [.text "a", .text "x", .text "t"]⟩]

/-- The first malformed row is reported by the maker and by the callback, and the rows in front of
it are read as they should be. -/
theorem malformed_reported_blemished :
    Row.FirstReported blemished ∧
      ReportsMalformed (Regular.make .null (.list [.text "x"]) (Row.together blemished) (.text "r")
        (.list [.text "t"])) ∧
      ReportsMalformed ((Collector.start .ample .null .null .null (.int 0)).step (.callback
        (.mdd (.list [.handle 0 (.text "x")]) (Row.together blemished)))).result ∧
      (Row.together (blemished.take 2)).normalTransitions "node" =
        .ok [⟨"r", .int 1, "a"⟩, ⟨"a", .int 0, "t"⟩] ∧
      List.Forall₂ Value.StoredAs ((blemished.take 2).map Row.toValue)
        [⟨"r", .int 1, "a"⟩, ⟨"a", .int 0, "t"⟩] := by
  have treated := malformed_reported blemished
  have unread : ReportsMalformed ((Row.together blemished).normalTransitions "node") :=
    ⟨.malformedValue "'x'", rfl, rfl, rfl⟩
  have first : Row.FirstReported blemished := (treated.reading "node").mp unread
  have supplied : Regular.Supplied .null (.list [.text "x"]) (.text "r") (.list [.text "t"]) :=
    ⟨⟨"", rfl⟩, ⟨_, rfl, by simp⟩, ⟨"r", rfl⟩, ⟨["t"], rfl, by simp⟩⟩
  have mentioned : (Value.list [.handle 0 (.text "x")]).terms = .ok [.text "x"] := rfl
  have found : Diagram.givenEnds (Row.together blemished) = .ok ("r", "t") := rfl
  obtain ⟨named, namedSo, sole⟩ := Diagram.givenEnds_ok found
  cases namedSo
  have described : List.Forall₂ Value.Describes (blemished.map Row.toValue)
      [⟨"r", .double (.finite 1), "a"⟩, ⟨"a", .double (.finite (.ofIntWithPrec 1 1)), "t"⟩,
        ⟨"a", .text "x", "t"⟩] :=
    .cons ⟨_, _, rfl, rfl, rfl⟩ (.cons ⟨_, _, rfl, rfl, rfl⟩ (.cons ⟨_, _, rfl, rfl, rfl⟩ .nil))
  have read : (Row.together (blemished.take 2)).normalTransitions "node" =
      .ok [⟨"r", .int 1, "a"⟩, ⟨"a", .int 0, "t"⟩] := rfl
  have treatedFront := malformed_reported (blemished.take 2)
  exact ⟨first, (treated.automaton _ _ _ _ supplied).mpr first,
    (treated.diagramCallback _ _ _ _ "r" "t" mentioned (by simp) described sole).mpr first, read,
    treatedFront.stored "node" _ read⟩

/-- Rows that are not reported although they are malformed. The value of the first one is infinite
and fails as a number that is too large, and that of the second one has digits after the point and
is read as 1. The third one has no target, which the reading reports, but the callback on diagrams
fails before it comes to that. -/
def infiniteRow : Row Value := ⟨true, [.text "r", .double (.infinite false), .text "t"]⟩

@[inherit_doc infiniteRow]
def halvedRow : Row Value := ⟨true, [.text "r", .double (.finite (.ofIntWithPrec 3 1)), .text "t"]⟩

@[inherit_doc infiniteRow]
def shortRow : Row Value := ⟨true, [.text "r", .int 0]⟩

/-- No integer is denoted by what is infinite. -/
theorem malformed_infiniteRow : infiniteRow.Malformed := by
  refine .inr ⟨_, _, _, rfl, fun n denotes => ?_⟩
  have taken := Value.whole_of_denotes denotes
  cases taken

/-- One and a half is taken for 1, and it is not equal to it. -/
theorem malformed_halvedRow : halvedRow.Malformed := by
  refine .inr ⟨_, _, _, rfl, fun n denotes => ?_⟩
  have cut : (Value.double (.finite (.ofIntWithPrec 3 1))).whole = .ok 1 := rfl
  rw [Value.whole_of_denotes denotes] at cut
  cases cut
  rcases denotes with same | ⟨s, text, _⟩
  · have different : (Value.double (.finite (.ofIntWithPrec 3 1))).same (.int 1) = false := by
      decide +kernel
    rw [different] at same
    cases same
  · cases text

/-- Three malformed rows are not reported: an infinite value fails with an overflow, one and a
half is stored as 1, and a row that is too short fails in the search for the ends before it is
looked at. -/
theorem malformed_escapes :
    (infiniteRow.Malformed ∧
        (Value.list [infiniteRow.toValue]).normalTransitions "state" = .error .tooLarge ∧
        ¬ ReportsMalformed ((Value.list [infiniteRow.toValue]).normalTransitions "state")) ∧
      (halvedRow.Malformed ∧
        (Value.list [halvedRow.toValue]).normalTransitions "state" = .ok [⟨"r", .int 1, "t"⟩] ∧
        ¬ ReportsMalformed ((Value.list [halvedRow.toValue]).normalTransitions "state")) ∧
      shortRow.Malformed ∧
        ((Collector.start .ample .null .null .null (.int 0)).step (.callback
          (.mdd (.list [.handle 0 (.text "x")])
            (.list [.tuple [.text "r", .int 0, .text "t"], shortRow.toValue])))).result =
          .error .wrongCount ∧
        ¬ ReportsMalformed ((Collector.start .ample .null .null .null (.int 0)).step (.callback
          (.mdd (.list [.handle 0 (.text "x")])
            (.list [.tuple [.text "r", .int 0, .text "t"], shortRow.toValue])))).result := by
  have large : (Value.list [infiniteRow.toValue]).normalTransitions "state" =
      .error .tooLarge := rfl
  have cut : (Value.list [halvedRow.toValue]).normalTransitions "state" =
      .ok [⟨"r", .int 1, "t"⟩] := rfl
  have unpacked : ((Collector.start .ample .null .null .null (.int 0)).step (.callback
      (.mdd (.list [.handle 0 (.text "x")])
        (.list [.tuple [.text "r", .int 0, .text "t"], shortRow.toValue])))).result =
      .error .wrongCount := rfl
  refine ⟨⟨malformed_infiniteRow, large, ?_⟩, ⟨malformed_halvedRow, cut, ?_⟩, .inl (by decide),
    unpacked, ?_⟩
  · intro reports
    cases reports.rule? large
  · rintro ⟨_, _, _, refused⟩
    cases cut.symm.trans refused
  · intro reports
    cases reports.rule? unpacked

end Csp
