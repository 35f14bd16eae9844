import Csp.Proofs.Contribution

/-!
# Notices that fail

A notice is made after its entity has been taken in, so a notice that fails
leaves a callback half done. With arguments of the types that a callback
declares this happens in two ways only. A bound of an interval may have too many
digits to be written, and the console may refuse the line.

The maker of an entity accepts more than the declared types, so the types of the
arguments that a notice looks into are conditions of their own here, and nothing
is asked of all the others.
-/
namespace Csp

namespace Value

/-- An integer. Truth values are integers as well. -/
def IsInteger : Value → Prop
  | .int _ | .bool _ => True
  | _ => False

/-- A list. Tuples and other collections are not meant, although they could be counted too. -/
def IsList : Value → Prop
  | .list _ => True
  | _ => False

/-- A text, or nothing at all. -/
def IsTextOrMissing : Value → Prop
  | .text _ | .null => True
  | _ => False

/-- What has a text for its identifier. -/
def IsNamed (v : Value) : Prop := ∃ name, v.identifier = .ok (.text name)

/-- An integer with too many digits to be written. -/
def TooLong (v : Value) : Prop := ∃ n, v = .int n ∧ Text.hasNumeral n = false

/-- Integers have a plain text unless they are too long. -/
theorem IsInteger.plain {v : Value} (integer : v.IsInteger) :
    (∃ text, v.plain = .ok text) ∨ (v.TooLong ∧ v.plain = .error .badNumeral) := by
  cases v with
  | int n =>
    cases written : Text.hasNumeral n with
    | true => exact .inl ⟨_, numeral_of_short written⟩
    | false => exact .inr ⟨⟨n, rfl, written⟩, numeral_of_long written⟩
  | bool b => exact .inl ⟨_, rfl⟩
  | _ => cases integer

/-- Integers can be compared. So the level of a notice can be compared with any integer
verbosity. -/
theorem IsInteger.atLeast {v : Value} (integer : v.IsInteger) (n : Int) :
    ∃ enough, v.atLeast (.int n) = .ok enough := by
  cases v with
  | int m => exact ⟨_, int_atLeast m n⟩
  | bool b => exact ⟨_, by simp only [Value.atLeast, number?]; rfl⟩
  | _ => cases integer

/-- A list has a size, which is all that a notice about a scope or about rows asks for. -/
theorem IsList.size {v : Value} (list : v.IsList) : ∃ count, v.size = .ok count := by
  cases v with
  | list items => exact ⟨_, rfl⟩
  | _ => cases list

end Value

namespace Notice

end Notice

namespace Callback

/-- The arguments that the notice of a callback looks into have the types declared for them.
Arguments that no notice looks into are left open, because the entity checks them by itself. -/
def WellTyped : Callback → Prop
  | .interval x low high => x.IsNamed ∧ low.IsInteger ∧ high.IsInteger
  | .values x domain => x.IsNamed ∧ domain.IsList
  | .intension scope _ => scope.IsList
  | .table scope rows _ => scope.IsList ∧ rows.IsList
  | .unaryTable .. | .regular .. | .mdd .. | .expression .. | .aggregate .. | .expressionLike ..
  | .aggregateLike .. => True

end Callback

namespace Collector

variable {c : Collector}

end Collector
end Csp
