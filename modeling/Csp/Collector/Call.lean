import Csp.Collector.Basic
import Csp.Request

/-!
# Calls by name

A document reader calls a collector by method names and with arguments by
position. The number of arguments has to be the one that the method takes. The
last argument of the callbacks on tables describes rows that the reader left
out; nothing here depends on it. A setting has a name as well but is no method.
-/
namespace Csp

/-- The settings with which a collector starts; all have defaults, and all go by name. -/
def Collector.settings : Signature :=
  .byName
    [.optional "format" (.text "XCSP3"), .optional "type" .null, .optional "annotations" .null,
     .optional "verbose" (.int 0)]

/-- A collector with the given settings. -/
def Collector.ofSettings (host : Host) (named : List (String × Value)) :
    Except Failure Collector := do
  match ← Collector.settings.bind [] named with
  | [format, framework, annotations, verbosity] =>
    return .start host format framework annotations verbosity
  | _ => throw .badArguments

/-- The setting with a given name. -/
def Setting.ofName? : String → Option Setting
  | "format" => some .format
  | "type" => some .framework
  | "annotations" => some .annotations
  | "verbose" => some .verbosity
  | _ => none

/-- The names of what a collector holds besides its settings. -/
def Collector.collections : List String := ["variables", "constraints", "objectives"]

/-- A method of a collector. -/
inductive Method where
  | interval
  | values
  | intension
  | unaryTable
  | table
  | addTable
  | regular
  | mdd
  | expression (sense : Sense)
  | aggregate (sense : Sense)
  | expressionLike
  | aggregateLike
  | build
  | log

namespace Method

/-- The method with a given name. -/
def ofName? : String → Option Method
  | "var_integer_range" => some .interval
  | "var_integer" => some .values
  | "ctr_intension" => some .intension
  | "ctr_extension_unary" => some .unaryTable
  | "ctr_extension" => some .table
  | "_add_extension" => some .addTable
  | "ctr_regular" => some .regular
  | "ctr_mdd" => some .mdd
  | "obj_minimize" => some (.expression .minimize)
  | "obj_maximize" => some (.expression .maximize)
  | "obj_minimize_special" => some (.aggregate .minimize)
  | "obj_maximize_special" => some (.aggregate .maximize)
  | "_add_expression_objective" => some .expressionLike
  | "_add_special_objective" => some .aggregateLike
  | "build" => some .build
  | "_log" => some .log
  | _ => none

/-- The command that calls a method with arguments, if their number is right. -/
def command? : Method → List Value → Option Command
  | .interval, [x, low, high] => some (.callback (.interval x low high))
  | .values, [x, domain] => some (.callback (.values x domain))
  | .intension, [scope, tree] => some (.callback (.intension scope tree))
  | .unaryTable, [x, listed, positive, _] => some (.callback (.unaryTable x listed positive))
  | .table, [scope, rows, positive, _] => some (.callback (.table scope rows positive))
  | .addTable, [scope, rows, positive] => some (.callback (.table scope rows positive))
  | .regular, [scope, transitions, start, finals] =>
    some (.callback (.regular scope transitions start finals))
  | .mdd, [scope, transitions] => some (.callback (.mdd scope transitions))
  | .expression sense, [term] => some (.callback (.expression sense term))
  | .aggregate sense, [tag, terms, coefficients] =>
    some (.callback (.aggregate sense tag terms coefficients))
  | .expressionLike, [other, term] => some (.callback (.expressionLike other term))
  | .aggregateLike, [other, tag, terms, coefficients] =>
    some (.callback (.aggregateLike other tag terms coefficients))
  | .build, [] => some .build
  | .log, [level, message] => some (.log ⟨level, message⟩)
  | _, _ => none

end Method

/-- The command that a call by name stands for. -/
def Command.ofCall (name : String) (args : List Value) : Except Failure Command :=
  match Method.ofName? name with
  | none =>
    if (Setting.ofName? name).isSome || Collector.collections.contains name
    then .error .notCallable else .error .noAttribute
  | some method => match method.command? args with
    | some command => .ok command
    | none => .error .badArguments

end Csp
