import Csp.Collector.Callback
import Csp.Make.Instance

/-!
# Collecting an instance

A collector takes in the contributions of callbacks, keeps them in the order of
the calls, and assembles an instance out of them on demand, any number of
times. A callback that fails contributes nothing; only when its entity is in
and the notice about it fails does the entity stay although the call failed.

The verbosity decides which notices are printed and nothing else. Printing can
fail too, since it is up to the host of a collector whether a line is taken.
-/
namespace Csp

/-- What a collector finds around it: the lines that the console takes, and the number of rows for
which a list has room. -/
structure Host where
  prints : String → Bool
  room : Nat

/-- A host that takes every line, and has room for as many rows as can be counted. -/
def Host.ample : Host := ⟨fun _ => true, Value.countLimit⟩

/-- What has been collected, and how it will be presented. It holds what was asked of it in three
lists, and it has no memory of what was refused. -/
structure Collector where
  host : Host
  format : Value
  framework : Value
  annotations : Value
  verbosity : Value
  vars : List (Variable Value)
  constraints : List (Constraint Value)
  objectives : List (Objective Value)

/-- A presentation setting that can be changed between calls. -/
inductive Setting where
  | format
  | framework
  | annotations
  | verbosity

/-- What can be asked of a collector. -/
inductive Command where
  | callback (c : Callback)
  | build
  | log (notice : Notice)
  | assign (setting : Setting) (value : Value)

/-- What came of a command: the collector afterwards, the lines printed, and the instance if
one was built. -/
structure Outcome where
  collector : Collector
  printed : List String
  result : Except Failure (Option (Instance Value))

namespace Collector

/-- A collector that has taken in nothing. -/
def start (host : Host) (format framework annotations verbosity : Value) : Collector :=
  ⟨host, format, framework, annotations, verbosity, [], [], []⟩

/-- Takes in a contribution, behind those of its family that are there already. -/
def add (c : Collector) : Addition → Collector
  | .single x => { c with vars := c.vars ++ [x] }
  | .constraint x => { c with constraints := c.constraints ++ [x] }
  | .objective x => { c with objectives := c.objectives ++ [x] }

/-- Changes a setting. -/
def assign (c : Collector) (value : Value) : Setting → Collector
  | .format => { c with format := value }
  | .framework => { c with framework := value }
  | .annotations => { c with annotations := value }
  | .verbosity => { c with verbosity := value }

/-- Prints a line, unless the console does not take it. Whether it takes a line is a property of the
host, so it does not change between two lines. -/
def print (c : Collector) (line : String) : Except Failure (List String) :=
  if c.host.prints line then .ok [line] else .error .notPrinted

/-- The lines that a notice prints: one if the verbosity is at least its level, else none. Asking
for the level can fail as well, if level and verbosity cannot be compared. -/
def announce (c : Collector) (notice : Notice) : Except Failure (List String) := do
  if ← c.verbosity.atLeast notice.level then c.print (← notice.message.plain) else return []

/-- The framework of the instance: the one set, or the one that the objectives call for. A missing
one is chosen by whether there is an objective. -/
def frameworkTag (c : Collector) : Value :=
  match c.framework with
  | .null => if c.objectives.isEmpty then .text "CSP" else .text "COP"
  | tag => tag

/-- The instance of everything collected. Without objectives it has no list of them. The lists are
handed over as they are, so a later call does not change the instance. -/
def instance? (c : Collector) : Except Failure (Instance Value) :=
  let vars := c.vars.map (.entity <| .single ·)
  let constraints := c.constraints.map (.entity <| .constraint ·)
  let objectives := c.objectives.map (.entity <| .objective ·)
  Instance.make c.format c.frameworkTag (.list vars) (.list constraints)
    (if objectives.isEmpty then .null else .list objectives) c.annotations

/-- What comes of a command whose effect on the collector is settled and that announces a
notice before it returns. -/
def finish (c : Collector) (notice : Except Failure Notice) (result : Option (Instance Value)) :
    Outcome :=
  match notice.bind c.announce with
  | .ok printed => ⟨c, printed, .ok result⟩
  | .error failure => ⟨c, [], .error failure⟩

/-- Carries out a command. A failure is part of the outcome and does not end the run. -/
def step (c : Collector) : Command → Outcome
  | .callback call => match call.contribution c.host.room with
    | .ok contributed => (c.add contributed.addition).finish contributed.notice none
    | .error failure => ⟨c, [], .error failure⟩
  | .build => match c.instance? with
    | .ok x => c.finish (Notice.built c.frameworkTag x) (some x)
    | .error failure => ⟨c, [], .error failure⟩
  | .log notice => c.finish (.ok notice) none
  | .assign setting value => ⟨c.assign value setting, [], .ok none⟩

/-- Carries out commands one after the other, going on after failures. -/
def run (c : Collector) : List Command → List Outcome
  | [] => []
  | command :: rest =>
    let outcome := c.step command
    outcome :: outcome.collector.run rest

/-- Announcing a notice changes nothing, whether or not it succeeds. -/
theorem finish_collector (c : Collector) (notice : Except Failure Notice)
    (result : Option (Instance Value)) : (c.finish notice result).collector = c := by
  unfold finish
  split <;> rfl

/-- A callback without a contribution leaves the collector as it was. Nothing is announced
either. -/
theorem step_of_refused {c : Collector} {call : Callback} {failure : Failure}
    (refused : call.contribution c.host.room = .error failure) :
    c.step (.callback call) = ⟨c, [], .error failure⟩ := by
  simp [step, refused]

end Collector
end Csp
