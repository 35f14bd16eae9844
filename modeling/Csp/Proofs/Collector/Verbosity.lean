import Csp.Proofs.Collector.Notices
import Csp.Proofs.Collector.Run

/-!
# What the verbosity decides

Two collectors that differ in their verbosity go through the same commands side
by side. The notice about a contribution is made in both, whether it is going to
be printed or not, so both fail where it cannot be made and neither fails
anywhere else. They take in the same entities and build the same instances. Of
the notices that the louder one prints, the quieter one prints those whose level
its verbosity reaches, in the same order.

This holds as long as verbosities and levels are integers, which can be compared,
messages are texts, and the console takes every line.
-/
namespace Csp

namespace Value

/-- The integer that a value is. A truth value is zero or one. -/
def integer? : Value → Option Int
  | .int n => some n
  | .bool b => some (if b then 1 else 0)
  | _ => none

/-- Integers have exact values, by which they are compared with other numbers. -/
theorem number?_of_integer {v : Value} {n : Int} (integer : v.integer? = some n) :
    ∃ k, v.number? = some k ∧ k.exact = .finite (n : Dyadic) := by
  cases v with
  | int m =>
    cases integer
    exact ⟨_, rfl, rfl⟩
  | bool b =>
    cases integer
    exact ⟨_, rfl, by cases b <;> rfl⟩
  | _ => cases integer

/-- Integers are compared as integers, also where they are given as truth values. -/
theorem atLeast_of_integers {v w : Value} {m n : Int} (integer : v.integer? = some m)
    (integerToo : w.integer? = some n) : v.atLeast w = .ok (decide (n ≤ m)) := by
  obtain ⟨k, number, exact⟩ := number?_of_integer integer
  obtain ⟨l, numberToo, exactToo⟩ := number?_of_integer integerToo
  have compared : (Double.finite (m : Dyadic)).atLeast (.finite (n : Dyadic)) = decide (n ≤ m) :=
    Except.ok.inj (int_atLeast m n)
  have numerical : v.atLeast w = .ok (k.exact.atLeast l.exact) := by
    cases v with
    | int _ | bool _ => simp only [atLeast, number, numberToo]
    | _ => cases integer
  rw [numerical, exact, exactToo, compared]

end Value

namespace Notice

/-- A notice with a text for its message and with an integer for its level. -/
def IsPlain (notice : Notice) : Prop :=
  (∃ level, notice.level.integer? = some level) ∧ ∃ text, notice.message = .text text

/-- Whether a verbosity reaches the level of a notice. -/
def reachedBy (verbosity : Int) (notice : Notice) : Bool :=
  notice.level.integer?.any fun level => level ≤ verbosity

/-- What is printed at some verbosity is printed at every greater one too. This is what makes the
quieter output a part of the other one. -/
theorem reachedBy_mono {v w : Int} (ordered : v ≤ w) {notice : Notice}
    (reached : notice.reachedBy v = true) : notice.reachedBy w = true := by
  rw [reachedBy] at reached ⊢
  cases level : notice.level.integer? with
  | none => simp [level] at reached
  | some n =>
    simp only [level, Option.any_some, decide_eq_true_eq] at reached ⊢
    omega

/-- Notices of the summary level have an integer level and a message that is a text. -/
theorem isPlain_summary (text : String) : (summary text).IsPlain := ⟨⟨1, rfl⟩, text, rfl⟩

/-- So do notices of the level of details. -/
theorem isPlain_detail (text : String) : (detail text).IsPlain := ⟨⟨2, rfl⟩, text, rfl⟩

/-- A notice that is plain, or that cannot be made at all. -/
def PlainIfMade (outcome : Except Failure Notice) : Prop :=
  ∀ notice, outcome = .ok notice → notice.IsPlain

namespace PlainIfMade

/-- A notice that has been made without a failure is plain if it is plain as such. -/
theorem made {notice : Notice} (plain : notice.IsPlain) : PlainIfMade (.ok notice) := by
  rintro _ ⟨⟩
  exact plain

/-- What is read before a notice is made only decides its text. Whatever the values turn out to be,
the level of the notice is fixed by where it is made. -/
theorem bind {β : Type} {outcome : Except Failure β} {next : β → Except Failure Notice}
    (each : ∀ value, PlainIfMade (next value)) : PlainIfMade (outcome >>= next) := by
  intro notice announced
  obtain ⟨value, _, announced⟩ := bind_eq_ok.mp announced
  exact each value notice announced

end PlainIfMade

/-- The notice about an instance is a summary, if the framework has a text. -/
theorem built_plainIfMade (framework : Value) (x : Instance Value) :
    PlainIfMade (built framework x) :=
  .bind fun _ => .made (isPlain_summary _)

/-- The notice about a table is a detail, if scope and rows have a size. -/
theorem table_plainIfMade (positive : Bool) (scope rows : Value) :
    PlainIfMade (table positive scope rows) :=
  .bind fun _ => .bind fun _ => .made (isPlain_detail _)

end Notice

/-- Whatever a callback contributes, the notice about it is a text at an integer level. Only the
callbacks are meant: a message of the user may have any level. -/
theorem Callback.notice_plainIfMade {room : Nat} {call : Callback} {contributed : Contribution}
    (accepted : call.contribution room = .ok contributed) :
    Notice.PlainIfMade contributed.notice := by
  cases call with
  | interval x low high =>
    obtain ⟨id, v, _, _, rfl⟩ := Contribution.ofVariable_ok accepted
    exact .bind fun _ => .bind fun _ => .bind fun _ => .made (Notice.isPlain_detail _)
  | values x domain =>
    obtain ⟨id, v, _, _, rfl⟩ := Contribution.ofVariable_ok accepted
    exact .bind fun _ => .bind fun _ => .made (Notice.isPlain_detail _)
  | intension scope tree =>
    obtain ⟨text, c, _, _, rfl⟩ := contribution_intension_ok accepted
    exact .bind fun _ => .made (Notice.isPlain_detail _)
  | unaryTable x listed positive =>
    obtain ⟨rows, _, accepted⟩ := contribution_unaryTable_ok accepted
    obtain ⟨terms, t, _, _, rfl⟩ := Contribution.ofTable_ok accepted
    exact Notice.table_plainIfMade _ _ _
  | table scope rows positive =>
    obtain ⟨terms, t, _, _, rfl⟩ := Contribution.ofTable_ok accepted
    exact Notice.table_plainIfMade _ _ _
  | regular scope transitions start finals =>
    obtain ⟨terms, c, _, _, rfl⟩ := contribution_regular_ok accepted
    exact .made (Notice.isPlain_detail _)
  | mdd scope transitions =>
    obtain ⟨root, terminal, terms, c, _, _, _, rfl⟩ := contribution_mdd_made accepted
    exact .made (Notice.isPlain_detail _)
  | expression sense term | expressionLike other term =>
    obtain ⟨expression, direction, x, _, _, rfl⟩ := Contribution.ofExpression_ok accepted
    exact .made (Notice.isPlain_summary _)
  | aggregate sense tag terms coefficients | aggregateLike other tag terms coefficients =>
    obtain ⟨kind, listed, factors, direction, x, _, _, rfl⟩ := Contribution.ofAggregate_ok accepted
    exact .made (Notice.isPlain_summary _)

/-- Anything but an assignment to the verbosity, where messages are texts at levels that are
integers. -/
def Command.KeepsVerbosity : Command → Prop
  | .log notice => notice.IsPlain
  | .assign .verbosity _ => False
  | _ => True

namespace Collector

/-- The notice that a command announces, if it gets as far as that. -/
def notice? (c : Collector) : Command → Option Notice
  | .callback call => (call.contribution c.host.room).toOption.bind (·.notice.toOption)
  | .build => c.instance?.toOption.bind fun x => (Notice.built c.frameworkTag x).toOption
  | .log notice => some notice
  | .assign .. => none

/-- The notices that commands announce one after the other. -/
def notices (c : Collector) : List Command → List Notice
  | [] => []
  | command :: rest => (c.notice? command).toList ++ (c.step command).collector.notices rest

/-- Of the notices that commands announce, those whose level a verbosity reaches. -/
def heard (c : Collector) (verbosity : Int) (commands : List Command) : List Notice :=
  (c.notices commands).filter (·.reachedBy verbosity)

/-- All lines that are printed while commands are carried out. -/
def printed (c : Collector) (commands : List Command) : List String :=
  (c.run commands).flatMap (·.printed)

section Step

variable {c : Collector} {v : Int} (integer : c.verbosity.integer? = some v)
  (prints : ∀ line, c.host.prints line = true)

include integer prints

/-- A plain notice is printed exactly if the verbosity reaches its level. The comparison of levels
does not fail, and by assumption neither does the console. -/
theorem announce_of_isPlain {notice : Notice} (plain : notice.IsPlain) :
    ∃ lines, c.announce notice = .ok lines ∧
      lines.map .text = ([notice].filter (·.reachedBy v)).map Notice.message := by
  obtain ⟨⟨level, levelInteger⟩, text, message⟩ := plain
  have compared := Value.atLeast_of_integers integer levelInteger
  have reached : notice.reachedBy v = decide (level ≤ v) := by
    rw [Notice.reachedBy, levelInteger, Option.any_some]
  rw [announce, compared, message]
  by_cases enough : level ≤ v
  · refine ⟨[text], ?_, ?_⟩
    · simp [bind, Except.bind, enough, Value.plain, print, prints]
    · simp [reached, enough, message]
  · refine ⟨[], ?_, ?_⟩
    · simp [bind, Except.bind, enough, pure, Except.pure]
    · simp [reached, enough]

/-- Announcing a notice fails only if it could not be made. That it is printed or not is no
difference in the result. -/
theorem finish_result {notice : Except Failure Notice} (plain : Notice.PlainIfMade notice)
    (result : Option (Instance Value)) :
    (c.finish notice result).result = notice.map fun _ => result := by
  cases notice with
  | error failure => rfl
  | ok made =>
    obtain ⟨lines, announced, _⟩ := announce_of_isPlain integer prints (plain made rfl)
    simp only [finish, Except.bind, announced, Except.map]

/-- What is printed at the end of a step is the message of its notice, provided that there is one
and that its level is reached. -/
theorem finish_printed {notice : Except Failure Notice} (plain : Notice.PlainIfMade notice)
    (result : Option (Instance Value)) :
    (c.finish notice result).printed.map .text =
      (notice.toOption.toList.filter (·.reachedBy v)).map Notice.message := by
  cases notice with
  | error failure => rfl
  | ok made =>
    obtain ⟨lines, announced, texts⟩ := announce_of_isPlain integer prints (plain made rfl)
    simp only [finish, Except.bind, announced]
    exact texts

/-- A step prints the notice that it announces, if the verbosity reaches it. A step that fails
before its notice prints nothing. -/
theorem step_printed {command : Command} (keeps : command.KeepsVerbosity) :
    (c.step command).printed.map .text =
      ((c.notice? command).toList.filter (·.reachedBy v)).map Notice.message := by
  cases command with
  | callback call =>
    rw [notice?]
    cases contributes : call.contribution c.host.room with
    | error failure =>
      rw [step_of_refused contributes]
      rfl
    | ok contributed =>
      have still : (c.add contributed.addition).verbosity.integer? = some v := by
        cases contributed.addition <;> exact integer
      have taken : ∀ line, (c.add contributed.addition).host.prints line = true := by
        rw [add_host]
        exact prints
      simp only [step, contributes]
      exact finish_printed still taken (Callback.notice_plainIfMade contributes) none
  | build =>
    rw [notice?, step]
    cases c.instance? with
    | error failure => rfl
    | ok x => exact finish_printed integer prints (Notice.built_plainIfMade _ x) (some x)
  | log notice => exact finish_printed integer prints (.made keeps) none
  | assign setting value => rfl

/-- How a step ends does not depend on the verbosity. The notice is made in any case, and a failure
to make it is one at every verbosity. -/
theorem step_result {high : Value} {w : Int} (integerToo : high.integer? = some w)
    {command : Command} (keeps : command.KeepsVerbosity) :
    ((c.assign high .verbosity).step command).result = (c.step command).result := by
  cases command with
  | callback call =>
    have sameRoom : (c.assign high .verbosity).host.room = c.host.room := rfl
    cases contributes : call.contribution c.host.room with
    | error failure =>
      rw [step_of_refused contributes, step_of_refused (sameRoom ▸ contributes)]
    | ok contributed =>
      have plain := Callback.notice_plainIfMade contributes
      have still : (c.add contributed.addition).verbosity.integer? = some v := by
        cases contributed.addition <;> exact integer
      have stillToo : ((c.assign high .verbosity).add contributed.addition).verbosity.integer? =
          some w := by
        cases contributed.addition <;> exact integerToo
      have taken : ∀ line, (c.add contributed.addition).host.prints line = true := by
        rw [add_host]
        exact prints
      have takenToo : ∀ line,
          ((c.assign high .verbosity).add contributed.addition).host.prints line = true := by
        rw [add_host]
        exact prints
      simp only [step, sameRoom, contributes]
      rw [finish_result still taken plain, finish_result stillToo takenToo plain]
  | build =>
    have unaffected : (c.assign high .verbosity).instance? = c.instance? := rfl
    rw [step, step, unaffected]
    cases c.instance? with
    | error failure => rfl
    | ok x =>
      have plain := Notice.built_plainIfMade c.frameworkTag x
      exact (finish_result (c := c.assign high .verbosity) integerToo prints plain _).trans
        (finish_result integer prints plain _).symm
  | log notice =>
    have plain := Notice.PlainIfMade.made keeps
    exact (finish_result (c := c.assign high .verbosity) integerToo prints plain _).trans
      (finish_result integer prints plain _).symm
  | assign setting value => rfl

end Step

/-- The verbosity that another collector has makes no difference to what a step takes in or
assigns. -/
theorem step_assign (c : Collector) (high : Value) {command : Command}
    (keeps : command.KeepsVerbosity) :
    ((c.assign high .verbosity).step command).collector =
      (c.step command).collector.assign high .verbosity := by
  rw [step_collector, step_collector]
  cases command with
  | callback call =>
    have sameRoom : (c.assign high .verbosity).host.room = c.host.room := rfl
    simp only [Command.entity?, sameRoom]
    cases call.entity? c.host.room with
    | none => rfl
    | some a => cases a <;> rfl
  | build | log notice => rfl
  | assign setting value =>
    cases setting with
    | verbosity => exact keeps.elim
    | format | framework | annotations => rfl

/-- The notices of a run do not depend on the verbosity. They are made before it is asked whether
they are printed. -/
theorem notices_assign (c : Collector) (high : Value) {commands : List Command}
    (keeps : ∀ command ∈ commands, command.KeepsVerbosity) :
    (c.assign high .verbosity).notices commands = c.notices commands := by
  induction commands generalizing c with
  | nil => rfl
  | cons command rest inductionHypothesis =>
    obtain ⟨first, others⟩ := List.forall_mem_cons.mp keeps
    have announced : (c.assign high .verbosity).notice? command = c.notice? command := by
      cases command <;> rfl
    rw [notices, notices, step_assign c high first, inductionHypothesis _ others, announced]

/-- A command that does not assign the verbosity leaves it as it is. -/
theorem step_verbosity (c : Collector) {command : Command} (keeps : command.KeepsVerbosity) :
    (c.step command).collector.verbosity = c.verbosity := by
  have assigned := step_assign c c.verbosity keeps
  have unchanged : c.assign c.verbosity .verbosity = c := rfl
  rw [unchanged] at assigned
  rw [assigned]
  rfl

/-- The text of a run is the messages of those of its notices whose levels are reached, in the order
of the commands. The induction is on the commands, and the verbosity stays the same along it. -/
theorem printed_eq {c : Collector} {v : Int} (integer : c.verbosity.integer? = some v)
    (prints : ∀ line, c.host.prints line = true) {commands : List Command}
    (keeps : ∀ command ∈ commands, command.KeepsVerbosity) :
    (c.printed commands).map .text = (c.heard v commands).map Notice.message := by
  induction commands generalizing c with
  | nil => rfl
  | cons command rest inductionHypothesis =>
    obtain ⟨first, others⟩ := List.forall_mem_cons.mp keeps
    have integerToo : (c.step command).collector.verbosity.integer? = some v := by
      rw [step_verbosity c first, integer]
    have printsToo : ∀ line, (c.step command).collector.host.prints line = true := by
      rw [step_host]
      exact prints
    have later := inductionHypothesis integerToo printsToo others
    simp only [printed, heard, run, notices, List.flatMap_cons, List.map_append,
      List.filter_append, step_printed integer prints first]
    rw [← printed, ← heard, later]

end Collector

/-- Two outcomes differ in nothing but the verbosity of the collector and in what was printed. -/
structure Outcome.Agrees (o p : Outcome) : Prop where
  result : o.result = p.result
  vars : o.collector.vars = p.collector.vars
  constraints : o.collector.constraints = p.collector.constraints
  objectives : o.collector.objectives = p.collector.objectives

namespace Collector

/-- Two runs that differ in their verbosities agree in every outcome but for the printed lines. The
induction goes through collectors that differ in their verbosities only, so the second run is
followed by the same assignment at each step. -/
theorem run_agrees {c : Collector} {high : Value} {v w : Int}
    (integer : c.verbosity.integer? = some v) (integerToo : high.integer? = some w)
    (prints : ∀ line, c.host.prints line = true) {commands : List Command}
    (keeps : ∀ command ∈ commands, command.KeepsVerbosity) :
    List.Forall₂ Outcome.Agrees (c.run commands) ((c.assign high .verbosity).run commands) := by
  induction commands generalizing c with
  | nil => exact .nil
  | cons command rest inductionHypothesis =>
    obtain ⟨first, others⟩ := List.forall_mem_cons.mp keeps
    have still : (c.step command).collector.verbosity.integer? = some v := by
      rw [step_verbosity c first, integer]
    have printsToo : ∀ line, (c.step command).collector.host.prints line = true := by
      rw [step_host]
      exact prints
    have moved := step_assign c high first
    rw [run, run]
    refine .cons ?_ ?_
    · have result := (step_result integer prints integerToo first).symm
      exact ⟨result, by rw [moved]; rfl, by rw [moved]; rfl, by rw [moved]; rfl⟩
    · rw [moved]
      exact inductionHypothesis still printsToo others

/-- Two collectors with the same settings but for their verbosities carry out the same commands.
Each command ends in the same way in both and leaves the same entities, and what the quieter one
prints are the notices printed by the louder one whose level its verbosity reaches. -/
theorem verbosity_only_filters {host : Host} (prints : ∀ line, host.prints line = true)
    (format framework annotations : Value) {low high : Value} {v w : Int}
    (quiet : low.integer? = some v) (loud : high.integer? = some w) (ordered : v ≤ w)
    {commands : List Command} (keeps : ∀ command ∈ commands, command.KeepsVerbosity) :
    List.Forall₂ Outcome.Agrees ((start host format framework annotations low).run commands)
        ((start host format framework annotations high).run commands) ∧
      ((start host format framework annotations high).printed commands).map .text =
        ((start host format framework annotations high).heard w commands).map Notice.message ∧
      ((start host format framework annotations low).printed commands).map .text =
        (((start host format framework annotations high).heard w commands).filter
          (·.reachedBy v)).map Notice.message := by
  refine ⟨run_agrees quiet loud prints keeps, printed_eq loud prints keeps, ?_⟩
  have announced : (start host format framework annotations high).notices commands =
      (start host format framework annotations low).notices commands :=
    notices_assign (start host format framework annotations low) high keeps
  have both (notice : Notice) :
      (notice.reachedBy v && notice.reachedBy w) = notice.reachedBy v := by
    cases reached : notice.reachedBy v with
    | false => rfl
    | true => exact Notice.reachedBy_mono ordered reached
  rw [printed_eq quiet prints keeps, heard, heard, announced, List.filter_filter]
  simp only [both]

/-- A variable, a message, a diagram without transitions, and an instance. -/
def spokenRun : List Command :=
  [.callback (.values (.handle 0 (.text "x")) (.list [.int 0, .int 1])),
    .log ⟨.int 2, .text "halfway"⟩, .callback (.mdd (.list []) (.list [])), .build]

/-- Of three lines, only the last one is of the summary level, which is that of a truth value. -/
theorem verbosity_only_filters_summary :
    (∀ line, Host.ample.prints line = true) ∧ (Value.bool true).integer? = some 1 ∧
      (Value.int 2).integer? = some 2 ∧
      (∀ command ∈ spokenRun, command.KeepsVerbosity) ∧
      (start .ample (.text "XCSP3") .null .null (.int 2)).printed spokenRun =
        ["Collected var x with 2 values", "halfway",
          "Built CSP instance with 1 variables, 0 constraints"] ∧
      ((start .ample (.text "XCSP3") .null .null (.bool true)).printed spokenRun).map Value.text =
        [Value.text "Built CSP instance with 1 variables, 0 constraints"] := by
  have keeps : ∀ command ∈ spokenRun, command.KeepsVerbosity := by
    simp [spokenRun, Command.KeepsVerbosity, Notice.IsPlain, Value.integer?]
  obtain ⟨_, _, quieter⟩ := @verbosity_only_filters .ample (fun _ => rfl) (.text "XCSP3") .null
    .null (.bool true) (.int 2) 1 2 rfl rfl (by decide) spokenRun keeps
  exact ⟨fun _ => rfl, rfl, rfl, keeps, rfl, quieter.trans rfl⟩

end Collector
end Csp
