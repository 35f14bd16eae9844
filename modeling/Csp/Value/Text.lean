import Csp.Value.Items

/-!
# The plain text of a value

The plain text of a text is the text itself, that of a cell its array followed
by the indices in brackets, that of a kind its attribute value. Everything else
has its written form as plain text.

An error of the model is shown to a reader as the plain text of its message, and
to a programmer as its name with the rule and the message in quotes.
-/
namespace Csp

/-- An index in its brackets. -/
def bracketed (index : Int) : Except Failure String := do return "[" ++ (← numeral index) ++ "]"

/-- The identifier of a constraint. -/
def Constraint.id {V : Type} : Constraint V → String
  | .intension c => c.id
  | .table c => c.id
  | .regular c => c.id
  | .mdd c => c.id

namespace Value

/-- The plain text. The indices of a cell are written before its array is looked at, and an array
that is not named by a text gives its cells no name. An integer with too many digits has none, and
neither has a cell of an array whose name is no text. -/
def plain : Value → Except Failure String
  | .text s => .ok s
  | .kind k => .ok k.spelling
  | .tag t => .ok t.spelling
  | .tree _ form => .ok form
  | .handle _ (.text name) => .ok name
  | .handle .. => .error .notText
  | .entity (.cell ⟨array, indices⟩) => do
    let brackets ← indices.mapM bracketed
    match array with
    | .text name => return name ++ String.join brackets
    | _ => throw .notText
  | v => v.written

/-- The identifier of what has one. Only variables of a reader and the entities that are collected
have one. -/
def identifier : Value → Except Failure Value
  | .handle _ id => .ok id
  | .entity (.single x) => .ok x.id
  | .entity (.grid x) => .ok x.id
  | .entity (.objective x) => .ok (.text x.id)
  | .entity (.constraint c) => .ok (.text c.id)
  | _ => .error .noAttribute

/-- The identifier under which a constraint or an objective is kept. One that is missing in
a document and one that is empty are both kept as the empty text. -/
def normalId : Value → Except Failure String
  | .null => .ok ""
  | v => v.plain

end Value

namespace ErrorFamily

/-- The name under which the errors of a family are known. -/
def errorName : ErrorFamily → String
  | .model => "ModelError"
  | .construction => "ConstructionError"
  | .validation => "ValidationError"

/-- The word for a family. -/
def kind : ErrorFamily → String
  | .model => "model"
  | .construction => "construction"
  | .validation => "validation"

/-- The families to which the errors of a family belong: the general one, and their own. -/
def lineage : ErrorFamily → List ErrorFamily
  | .model => [.model]
  | .construction => [.model, .construction]
  | .validation => [.model, .validation]

end ErrorFamily

namespace ModelError

/-- The text for a reader. -/
def plain (e : ModelError) : Except Failure String := e.message.plain

/-- The text for a programmer. -/
def written (e : ModelError) : Except Failure String := do
  return e.family.errorName ++ "(" ++ (← e.rule.written) ++ ", " ++ Text.quoted (← e.plain) ++ ")"

end ModelError
end Csp
