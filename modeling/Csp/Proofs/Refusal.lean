import Csp.Collector.Basic
import Csp.Proofs.Outcome
import Mathlib.Algebra.Group.Int.Defs
import Mathlib.Algebra.Group.Nat.Defs

/-!
# Which rules a refusal reports

Most failures concern the type or the form of an argument and report no rule.
For each way to read a value it is said here which rules its failures can
report; what is made of several such readings then reports the rules of all of
them and no others. Writing a value and printing a line report no rule either.
-/
namespace Csp

/-- The name of the rule that a failure reports, if it reports one. -/
def Failure.rule? : Failure → Option Value
  | .model error => some error.rule
  | _ => none

/-- A failure reports one of the named rules or none at all. A failure that comes from the types of
the arguments reports none. -/
def Reports (rules : List String) (failure : Failure) : Prop :=
  failure.rule? = none ∨ ∃ rule ∈ rules, failure.rule? = some (.text rule)

/-- Violations of different rules are different failures. The failure carries the name of its
rule. -/
theorem violation_ne {violation other : Violation} (rules : violation.rule ≠ other.rule) :
    Failure.violation violation ≠ .violation other := by
  intro same
  have reported : some (Value.text violation.rule) = some (.text other.rule) :=
    congrArg Failure.rule? same
  exact rules (Value.text.inj (Option.some.inj reported))

/-- A rule that is not among the named ones is not reported. This is how a rule is shown to be out
of the question for a whole computation. -/
theorem Reports.rule?_ne {rules : List String} {failure : Failure} (reports : Reports rules failure)
    {rule : String} (unlisted : rule ∉ rules) : failure.rule? ≠ some (.text rule) := by
  rcases reports with silent | ⟨reported, listed, named⟩
  · rw [silent]
    simp
  · rw [named]
    intro same
    cases same
    exact unlisted listed

/-- What reports none but the rules of an empty list reports no rule. -/
theorem Reports.silent {failure : Failure} (reports : Reports [] failure) :
    failure.rule? = none := by
  rcases reports with silent | ⟨_, impossible, _⟩
  · exact silent
  · cases impossible

/-- A violation reports its rule. -/
theorem reports_violation {rules : List String} {violation : Violation}
    (listed : violation.rule ∈ rules) : Reports rules (.violation violation) :=
  .inr ⟨violation.rule, listed, rfl⟩

/-- A tuple passes exactly if it has an item. -/
theorem requireItems_eq (items : List Value) (violation : Violation) :
    requireItems items violation =
      if items = [] then .error (.model ⟨.construction, .text violation.rule,
        .text violation.message⟩) else .ok () := by
  cases items <;> rfl

/-- What has passed the test for items has some. -/
theorem requireItems_ok {items : List Value} {violation : Violation} {done : Unit}
    (accepted : requireItems items violation = .ok done) : items ≠ [] := by
  rintro rfl
  cases accepted

/-- The violation does not matter where there are items, since it is not reported. -/
theorem requireItems_of_filled {items : List Value} (filled : items ≠ [])
    (violation : Violation) : requireItems items violation = .ok () := by
  rw [requireItems_eq, if_neg filled]

/-- A tuple without items is refused with the violation, if this is one of construction. Violations
of validation are never reported in this way. -/
theorem requireItems_nil {violation : Violation} (family : violation.family = .construction) :
    requireItems [] violation = .error (.violation violation) := by
  rw [requireItems_eq, if_pos rfl, Failure.violation, Violation.error, family]

/-- The test for items reports the rule that it was given, and no other one. -/
theorem requireItems_reports {items : List Value} {violation : Violation}
    {rules : List String} (listed : violation.rule ∈ rules) :
    FailsOnly (Reports rules) (requireItems items violation) := by
  rw [requireItems_eq]
  split
  · exact FailsOnly.error.mpr (.inr ⟨violation.rule, listed, rfl⟩)
  · exact .ok _

/-- Writing an integer violates no rule, even if it has too many digits. What it fails with is an
error of the value. -/
theorem numeral_reports {rules : List String} (n : Int) :
    FailsOnly (Reports rules) (numeral n) := by
  unfold numeral
  split
  · exact .ok _
  · exact FailsOnly.error.mpr (.inl rfl)

/-- An integer with few enough digits is written as its numeral. -/
theorem numeral_of_short {n : Int} (short : Text.hasNumeral n = true) :
    numeral n = .ok (toString n) :=
  if_pos short

/-- An integer with too many digits is not written at all. -/
theorem numeral_of_long {n : Int} (long : Text.hasNumeral n = false) :
    numeral n = .error .badNumeral :=
  if_neg (Bool.eq_false_iff.mp long)

/-- An integer has a numeral exactly below a power of ten, so the integers that have one are those
between two opposite bounds. -/
theorem hasNumeral_iff {n : Int} :
    Text.hasNumeral n = true ↔ n.natAbs < 10 ^ Text.digitLimit := by
  rw [Text.hasNumeral, decide_eq_true_eq]
  exact Nat.length_toDigits_le_iff (by decide) (by decide)

/-- The least natural number with too many digits. It is kept from being evaluated. Evaluating it
would make a proof compute with some thousand digits. -/
@[irreducible]
def unwritable : Int := 10 ^ Text.digitLimit

/-- This number has one digit more than the limit allows. -/
theorem hasNumeral_unwritable : Text.hasNumeral unwritable = false := by
  have base : (10 : Int).natAbs = 10 := rfl
  rw [Bool.eq_false_iff, ne_eq, hasNumeral_iff, unwritable, Int.natAbs_pow, base]
  exact Nat.lt_irrefl _

/-- A label can be written exactly if the number that it stands for has a numeral. Truth values have
short numerals, so they can always be written. -/
theorem Label.written_cases (label : Label) :
    (Text.hasNumeral label.value = true ∧ ∃ text, label.written = .ok text) ∨
      (Text.hasNumeral label.value = false ∧ label.written = .error .badNumeral) := by
  cases label with
  | int n =>
    cases short : Text.hasNumeral n with
    | true => exact .inl ⟨short, _, numeral_of_short short⟩
    | false => exact .inr ⟨short, numeral_of_long short⟩
  | bool b =>
    have short : Text.hasNumeral (Label.bool b).value = true := by cases b <;> decide +kernel
    exact .inl ⟨short, _, rfl⟩

/-- A fault of an automaton reports its rule, or no rule if the value of a transition is too long
to be written. -/
theorem Automaton.Fault.failure_reports {rules : List String} (fault : Fault String Label)
    (start : "unknown_start" ∈ rules) (final : "unknown_final" ∈ rules)
    (repeated : "non_deterministic" ∈ rules) : Reports rules fault.failure := by
  cases fault with
  | unknownStart state => exact reports_violation start
  | unknownFinal state => exact reports_violation final
  | nonDeterministic state value =>
    rcases value.written_cases with ⟨_, text, written⟩ | ⟨_, unwritten⟩
    · rw [failure, violation, written]
      exact reports_violation repeated
    · rw [failure, violation, unwritten]
      exact .inl rfl

/-- A progression shows two or three integers, and writing these violates no rule. -/
theorem Progression.written_reports {rules : List String} (r : Progression) :
    FailsOnly (Reports rules) r.written := by
  refine (numeral_reports r.start).bind fun start _ => ?_
  refine (numeral_reports r.stop).bind fun stop _ => ?_
  split
  · exact .ok _
  · exact (numeral_reports r.step).bind fun step _ => .ok _

/-- A number is written as an integer, a truth value or a double, and at most the first of these can
fail. -/
theorem Number.written_reports {rules : List String} (n : Number) :
    FailsOnly (Reports rules) n.written := by
  cases n with
  | int n => exact numeral_reports n
  | bool _ | double _ => exact .ok _

namespace Shape

variable {rules : List String}

mutual

/-- Writing violates no rule: a part that cannot be written is an integer with too many digits or a
handle whose identifier is no text. -/
theorem written_reports : ∀ shape : Shape, FailsOnly (Reports rules) shape.written
  | .null => by rw [written]; exact .ok _
  | .number n => by rw [written]; exact n.written_reports
  | .text s => by rw [written]; exact .ok _
  | .progression r => by rw [written]; exact r.written_reports
  | .symbol family name form => by rw [written]; exact .ok _
  | .handle object id => by
    cases id with
    | text name => rw [written]; exact .ok _
    | _ => exact FailsOnly.error.mpr (.inl rfl)
  | .tree object form => by rw [written]; exact .ok _
  | .list items => by
    rw [written]
    exact (writtenItems_reports items).bind fun text _ => .ok _
  | .tuple [] => .ok _
  | .tuple [item] => by
    rw [written]
    exact (written_reports item).bind fun text _ => .ok _
  | .tuple (item :: other :: rest) => by
    rw [written]
    · exact (writtenItems_reports (item :: other :: rest)).bind fun text _ => .ok _
    · simp
  | .mapping false entries => by
    rw [written]
    exact (writtenEntries_reports entries).bind fun text _ => .ok _
  | .mapping true entries => by
    rw [written]
    exact (writtenEntries_reports entries).bind fun text _ => .ok _
  | .record name fields => by
    rw [written]
    exact (writtenFields_reports fields).bind fun text _ => .ok _

/-- Items are written one after the other. -/
theorem writtenItems_reports : ∀ items, FailsOnly (Reports rules) (writtenItems items)
  | [] => .ok _
  | [item] => written_reports item
  | item :: other :: rest => by
    rw [writtenItems]
    · refine (written_reports item).bind fun first _ => ?_
      exact (writtenItems_reports (other :: rest)).bind fun others _ => .ok _
    · simp

/-- Entries are written with their keys and their values. -/
theorem writtenEntries_reports : ∀ entries, FailsOnly (Reports rules) (writtenEntries entries)
  | [] => .ok _
  | [(key, value)] => by
    rw [writtenEntries]
    exact (written_reports key).bind fun first _ =>
      (written_reports value).bind fun second _ => .ok _
  | (key, value) :: other :: rest => by
    rw [writtenEntries]
    · refine (written_reports key).bind fun first _ => ?_
      refine (written_reports value).bind fun second _ => ?_
      exact (writtenEntries_reports (other :: rest)).bind fun others _ => .ok _
    · simp

/-- Fields are written with their names, which are texts anyway. -/
theorem writtenFields_reports : ∀ fields, FailsOnly (Reports rules) (writtenFields fields)
  | [] => .ok _
  | [(name, field)] => by
    rw [writtenFields]
    exact (written_reports field).bind fun text _ => .ok _
  | (name, field) :: other :: rest => by
    rw [writtenFields]
    · refine (written_reports field).bind fun first _ => ?_
      exact (writtenFields_reports (other :: rest)).bind fun others _ => .ok _
    · simp

end

end Shape

namespace Value

variable {rules : List String}

/-- That a value cannot be gone through violates no rule. It is an error in its type. -/
theorem items_reports (v : Value) : FailsOnly (Reports rules) v.items := by
  fun_cases items v <;> simp [Reports, Failure.rule?]

/-- Nor does it violate a rule that a value cannot be counted. -/
theorem size_reports (v : Value) : FailsOnly (Reports rules) v.size := by
  fun_cases size v <;> simp [Reports, Failure.rule?]

/-- A value is written by its shape. -/
theorem written_reports (v : Value) : FailsOnly (Reports rules) v.written :=
  v.shape.written_reports

/-- Asking a value for its text can fail on a cell whose array is no text, and that violates no rule
either. -/
theorem plain_reports (v : Value) : FailsOnly (Reports rules) v.plain := by
  unfold plain
  split
  case h_7 array indices =>
    have brackets (index : Int) : FailsOnly (Reports rules) (bracketed index) :=
      (numeral_reports index).bind fun text _ => .ok _
    refine (FailsOnly.mapM brackets indices).bind fun texts _ => ?_
    split
    · exact .ok _
    · exact FailsOnly.error.mpr (.inl rfl)
  case h_8 => exact written_reports _
  all_goals simp [Reports, Failure.rule?]

/-- An identifier is brought into its text, so it fails only as texts do. -/
theorem normalId_reports (v : Value) : FailsOnly (Reports rules) v.normalId := by
  fun_cases normalId v <;> simp [plain_reports]

/-- That a value has no identifier violates no rule. -/
theorem identifier_reports (v : Value) : FailsOnly (Reports rules) v.identifier := by
  fun_cases identifier v <;> simp [Reports, Failure.rule?]

/-- Going through the items of a value adds no rules to those of the action. A value that cannot be
gone through reports none. -/
theorem mapItems_reports {β : Type} {action : Value → Except Failure β}
    (each : ∀ item, FailsOnly (Reports rules) (action item)) (v : Value) :
    FailsOnly (Reports rules) (v.mapItems action) := by
  unfold mapItems
  split
  · rw [Progression.mapM_eq]
    exact .mapM (fun n => each (.int n)) _
  · exact (items_reports _).bind fun items _ => .mapM each items

/-- A name with an index that is too long is refused without a rule. -/
theorem read_reports (text : String) : FailsOnly (Reports rules) (Term.read text) := by
  fun_cases Term.read text <;> simp [Reports, Failure.rule?]

/-- A term is read from an identifier, and neither the identifier nor the reading of it reports a
rule. -/
theorem term_reports (v : Value) : FailsOnly (Reports rules) v.term := by
  have named (name : String) :
      FailsOnly (Reports rules) (do return (← Term.read name).toValue : Except Failure Value) :=
    (read_reports name).bind fun term _ => .ok term.toValue
  have unnamed : FailsOnly (Reports rules) (throw .notText : Except Failure Value) :=
    FailsOnly.error.mpr (.inl rfl)
  unfold term
  split
  · refine (FailsOnly.ok _).bind fun id _ => ?_
    beta_reduce
    split
    · exact named _
    · exact unnamed
  · refine (identifier_reports _).bind fun id _ => ?_
    beta_reduce
    split
    · exact named _
    · exact unnamed

/-- A value that cannot be taken apart into three items is refused here without a rule. The reading
into normal forms counts the items first and does report one. -/
theorem rawTransition_reports (v : Value) : FailsOnly (Reports rules) v.rawTransition := by
  unfold rawTransition
  split
  · split
    · exact .ok _
    · exact FailsOnly.error.mpr (.inl rfl)
  · refine (items_reports _).bind fun items _ => ?_
    split
    · exact .ok _
    · exact FailsOnly.error.mpr (.inl rfl)

/-- The search for the ends takes transitions apart in this way, so a malformed one is not reported
by it. -/
theorem namedTransition_reports (v : Value) : FailsOnly (Reports rules) v.namedTransition := by
  refine (rawTransition_reports v).bind fun t _ => ?_
  refine (plain_reports t.source).bind fun source _ => ?_
  exact (plain_reports t.target).bind fun target _ => .ok _

/-- The value of a transition is the one part whose refusal is reported by a rule, and this rule is
that of malformed transitions. -/
theorem label_reports (v : Value) (listed : "malformed_transition" ∈ rules) :
    FailsOnly (Reports rules) v.label := by
  unfold label
  split
  · exact .ok _
  · exact .ok _
  · split
    · exact .ok _
    · exact FailsOnly.error.mpr (.inl rfl)
    · exact (written_reports _).bind fun given _ =>
        FailsOnly.error.mpr (reports_violation listed)

/-- Bringing a transition into its normal form can only find it malformed. What cannot be written on
the way is not reported by a rule. -/
theorem normalTransition_reports (ends : String) (v : Value)
    (listed : "malformed_transition" ∈ rules) :
    FailsOnly (Reports rules) (v.normalTransition ends) := by
  refine (size_reports v).bind fun size _ => ?_
  split
  · exact (written_reports v).bind fun given _ => FailsOnly.error.mpr (reports_violation listed)
  · refine (rawTransition_reports v).bind fun t _ => ?_
    refine (label_reports t.value listed).bind fun value _ => ?_
    refine (plain_reports t.source).bind fun source _ => ?_
    exact (plain_reports t.target).bind fun target _ => .ok _

/-- A verbosity that cannot be compared with a level violates no rule. -/
theorem atLeast_int_reports (v : Value) (n : Int) :
    FailsOnly (Reports rules) (v.atLeast (.int n)) := by
  unfold atLeast
  split
  · exact .ok _
  · contradiction
  · contradiction
  · split
    · exact .ok _
    · exact FailsOnly.error.mpr (.inl rfl)

end Value

namespace Collector

variable {rules : List String}

/-- A notice of a level that is an integer violates no rule, whatever the verbosity is and whether
or not the console takes the line. -/
theorem announce_reports (c : Collector) (text : String) (level : Int) :
    FailsOnly (Reports rules) (c.announce ⟨.int level, .text text⟩) := by
  refine (c.verbosity.atLeast_int_reports level).bind fun printed _ => ?_
  split
  · refine (FailsOnly.ok text).bind fun line _ => ?_
    unfold print
    split
    · exact .ok [line]
    · exact FailsOnly.error.mpr (.inl rfl)
  · exact .ok []

/-- The end of a step fails only as its notice does. -/
theorem finish_reports (c : Collector) {notice : Except Failure Notice}
    (result : Option (Instance Value))
    (announced : FailsOnly (Reports rules) (notice.bind c.announce)) :
    FailsOnly (Reports rules) (c.finish notice result).result := by
  unfold finish
  split
  · exact .ok result
  · rename_i failure failed
    exact FailsOnly.error.mpr (announced failure failed)

end Collector
end Csp
