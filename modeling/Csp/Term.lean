import Csp.Text.Numeral
import Csp.Value.Text

/-!
# Terms

Scopes and objectives mention variables by name. The name of a cell is that of
its array followed by indices in brackets, so some names can be taken apart: a
name that is not empty and has no brackets, then one or more groups of decimal
digits in brackets, then nothing, or one newline. Every other name is a term as
it stands. Indices are read as numerals, so a name of a cell is refused if one
of them has too many digits.
-/
namespace Csp

/-- A variable as a scope mentions it. -/
inductive Term where
  | name (text : String)
  | cell (array : String) (indices : List Nat)
deriving DecidableEq

namespace Term

/-- A square bracket of either kind. -/
def isBracket (c : Char) : Bool := c == '[' || c == ']'

mutual

/-- The digits of each index in a sequence of bracketed groups, the last digit first. A newline
may follow the last group. -/
def groups? : List Char → Option (List (List Nat))
  | [] | ['\n'] => some []
  | '[' :: digit :: rest => (Text.digitValue? digit).bind fun d => group? [d] rest
  | _ => none

/-- The digits of each index from the middle of a group on, given the digits before. -/
def group? (digits : List Nat) : List Char → Option (List (List Nat))
  | [] => none
  | ']' :: rest => (groups? rest).map (digits :: ·)
  | digit :: rest => (Text.digitValue? digit).bind fun d => group? (d :: digits) rest

end

/-- Takes the name of a cell apart, into the array and the digits of each index. The array ends
at the first bracket, so there is at most one way. -/
def parts? (text : String) : Option (String × List (List Nat)) :=
  let array := text.toList.takeWhile (!isBracket ·)
  match groups? (text.toList.dropWhile (!isBracket ·)) with
  | some (index :: indices) =>
    if array.isEmpty then none else some (.ofList array, index :: indices)
  | _ => none

/-- The number with given digits, the last digit first. -/
def index (digits : List Nat) : Nat := digits.foldr (fun digit above => 10 * above + digit) 0

/-- The term that a name stands for. Names that are not those of cells stand for themselves. -/
def ofName (text : String) : Term :=
  match parts? text with
  | some (array, indices) => .cell array (indices.map index)
  | none => .name text

/-- Whether a name is that of a cell with an index of more digits than a numeral may have. The
digits of each group are counted with leading zeros. -/
def isTooLong (text : String) : Bool :=
  match parts? text with
  | some (_, indices) => indices.any (Text.digitLimit < ·.length)
  | none => false

/-- The term that a name stands for, provided that its indices are numerals. The limit is that on
numerals, and a name over the limit is refused instead of being kept as a text. -/
def read (text : String) : Except Failure Term :=
  if isTooLong text then .error .badNumeral else .ok (ofName text)

example : ofName "x y[007][٣]\n" = .cell "x y" [7, 3] ∧ ofName "x[0]y" = .name "x[0]y" := by
  decide +kernel

/-- A term as a value: a text or a cell. -/
def toValue : Term → Value
  | .name text => .text text
  | .cell array indices => .entity (.cell ⟨.text array, indices.map Int.ofNat⟩)

end Term

/-- The term by which a variable is mentioned, which a text names directly and everything else
by its identifier. -/
def Value.term (v : Value) : Except Failure Value := do
  let id ← match v with
    | .text _ => pure v
    | v => v.identifier
  match id with
  | .text name => return (← Term.read name).toValue
  | _ => throw .notText

/-- The terms of the items of a value. -/
def Value.terms (v : Value) : Except Failure (List Value) := v.mapItems Value.term

end Csp
