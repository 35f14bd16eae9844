import Csp.Proofs.Contribution

/-!
# Runs of a collector

Of all commands, only callbacks that contribute an entity touch the three lists
of a collector, only assignments touch its settings, and nothing touches its
host. What a callback contributes depends on the room that the host has for
lists and on nothing else of the collector, so what a run has collected is told
by the list of its commands: the entities that its callbacks contribute, in the
order of the calls, each at the end of the list of its family.
-/
namespace Csp

/-- An entity of any family as a value. -/
def Addition.toValue : Addition → Value
  | .single x => .entity (.single x)
  | .constraint x => .entity (.constraint x)
  | .objective x => .entity (.objective x)

namespace Command

/-- The entity that a command contributes, if it is a callback and contributes any. -/
def entity? (room : Nat) : Command → Option Addition
  | .callback call => call.entity? room
  | _ => none

end Command

namespace Collector

/-- The entities that commands contribute, in the order of the commands. -/
def entities (room : Nat) (commands : List Command) : List Addition :=
  commands.filterMap (·.entity? room)

/-- The collector after commands have been carried out. -/
def after (c : Collector) (commands : List Command) : Collector :=
  commands.foldl (fun c command => (c.step command).collector) c

/-- A step changes nothing but what it takes in or assigns. Builds and messages take in nothing and
assign nothing. -/
theorem step_collector (c : Collector) (command : Command) :
    (c.step command).collector = match command with
      | .assign setting value => c.assign value setting
      | other => (other.entity? c.host.room).elim c c.add := by
  cases command with
  | callback call =>
    cases contributes : call.contribution c.host.room with
    | ok contributed =>
      have entity := Callback.entity?_of_ok contributes
      simp only [step, contributes, finish_collector, Command.entity?, entity, Option.elim]
    | error failure =>
      have entity := Callback.entity?_of_error contributes
      simp only [step, contributes, Command.entity?, entity, Option.elim]
  | build =>
    simp only [step, Command.entity?, Option.elim]
    split
    · exact finish_collector c _ _
    · rfl
  | log notice => exact finish_collector c _ none
  | assign setting value => rfl

/-- What an entity is added to keeps its host, with the same room and the same console. -/
@[simp] theorem add_host (c : Collector) (a : Addition) : (c.add a).host = c.host := by
  cases a <;> rfl

/-- A collector keeps its host. -/
theorem step_host (c : Collector) (command : Command) :
    (c.step command).collector.host = c.host := by
  rw [step_collector]
  cases command with
  | assign setting value => cases setting <;> rfl
  | callback call =>
    simp only [Command.entity?]
    cases call.entity? c.host.room with
    | none => rfl
    | some a => exact c.add_host a
  | build | log notice => rfl

/-- What holds at first and stays true when a contribution is taken in and when a setting is
changed holds after any run. -/
theorem after_induction {P : Collector → Prop} {commands : List Command}
    (adds : ∀ c call a, .callback call ∈ commands → call.entity? c.host.room = some a → P c →
      P (c.add a))
    (assigns : ∀ c setting value, .assign setting value ∈ commands → P c →
      P (c.assign value setting)) {c : Collector} (initially : P c) : P (c.after commands) := by
  induction commands generalizing c with
  | nil => exact initially
  | cons command rest inductionHypothesis =>
    have next : P (c.step command).collector := by
      rw [step_collector]
      cases command with
      | assign setting value => exact assigns c setting value List.mem_cons_self initially
      | callback call =>
        simp only [Command.entity?]
        cases entity : call.entity? c.host.room with
        | none => exact initially
        | some a => exact adds c call a List.mem_cons_self entity initially
      | build | log notice => exact initially
    apply inductionHypothesis _ _ next
    · intro c call a listed
      exact adds c call a (List.mem_cons_of_mem command listed)
    · intro c setting value listed
      exact assigns c setting value (List.mem_cons_of_mem command listed)

/-- The list of a family. -/
def held (c : Collector) : Family → List Value
  | .variables => c.vars.map (.entity <| .single ·)
  | .constraints => c.constraints.map (.entity <| .constraint ·)
  | .objectives => c.objectives.map (.entity <| .objective ·)

/-- The entities of a family that commands contribute, in the order of the commands. -/
def collected (room : Nat) (family : Family) (commands : List Command) : List Value :=
  ((entities room commands).filter (·.family = family)).map Addition.toValue

end Collector
end Csp
