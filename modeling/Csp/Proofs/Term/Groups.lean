import Csp.Term
import Mathlib.Data.List.Forall2

/-!
# Bracketed indices

The indices of a cell are written as decimal numerals in brackets, and a name is
taken apart by reading groups of digits in brackets. Reading a group needs
nothing of its digits but their values, so the law about one group holds for the
digits of any script; what is written in ASCII digits is one case of it.
-/
namespace Csp.Term

/-- The characters are decimal digits with these values. -/
def Spells (chars : List Char) (digits : List Nat) : Prop :=
  List.Forall₂ (fun c digit => Text.digitValue? c = some digit) chars digits

/-- The ASCII digits are among the digits of all scripts. So what is written can be read. -/
theorem digitValue?_digitChar {digit : Nat} (small : digit < 10) :
    Text.digitValue? (Nat.digitChar digit) = some digit := by
  have each : ∀ digit < 10, Text.digitValue? (Nat.digitChar digit) = some digit := by decide
  exact each digit small

/-- The last digit comes first in the list and is worth one. -/
theorem index_cons (digit : Nat) (above : List Nat) :
    index (digit :: above) = 10 * index above + digit := rfl

/-- The decimal numeral of a number spells the digits of that number. The last digit comes off the
end of the numeral and is the first of the digits that make the index. -/
theorem exists_spells (n : Nat) :
    ∃ digits, Spells (Nat.toDigits 10 n) digits ∧ index digits.reverse = n := by
  induction n using Nat.strongRecOn with
  | ind n inductionHypothesis =>
    rw [Nat.toDigits_eq_if (by decide)]
    split
    · rename_i small
      refine ⟨[n], .cons (digitValue?_digitChar small) .nil, ?_⟩
      simp [index]
    · obtain ⟨digits, spelled, value⟩ := inductionHypothesis (n / 10) (by omega)
      have last : Spells [Nat.digitChar (n % 10)] [n % 10] :=
        .cons (digitValue?_digitChar (Nat.mod_lt n (by decide))) .nil
      refine ⟨digits ++ [n % 10], List.rel_append spelled last, ?_⟩
      rw [List.reverse_append, List.reverse_singleton, List.singleton_append, index_cons, value]
      omega

/-- From the middle of a group on, the digits up to the bracket that closes it are read in front of
the digits before, since the last digit comes first. -/
theorem group?_of_spells {chars : List Char} {digits : List Nat} (spelled : Spells chars digits)
    (before : List Nat) (rest : List Char) :
    group? before (chars ++ ']' :: rest) =
      (groups? rest).map ((digits.reverse ++ before) :: ·) := by
  induction spelled generalizing before with
  | nil => rw [List.nil_append, group?, List.reverse_nil, List.nil_append]
  | @cons c digit chars digits value _ inductionHypothesis =>
    have noBracket : c ≠ ']' := by
      rintro rfl
      rw [Text.digitValue?_bracket.2] at value
      cases value
    rw [List.cons_append, group?, value, Option.bind_some, inductionHypothesis,
      List.reverse_cons, List.append_assoc, List.singleton_append]
    exact noBracket

/-- A group of digits in brackets is read before the groups that follow it. The bracket that closes
it ends the digits. -/
theorem groups?_of_spells {chars : List Char} {digits : List Nat} (spelled : Spells chars digits)
    (filled : chars ≠ []) (rest : List Char) :
    groups? ('[' :: (chars ++ ']' :: rest)) = (groups? rest).map (digits.reverse :: ·) := by
  cases spelled with
  | nil => exact absurd rfl filled
  | cons value others =>
    rw [List.cons_append, groups?, value, Option.bind_some, group?_of_spells others,
      List.reverse_cons]

/-- A numeral in its brackets. -/
def inBrackets (numeral : String) : String := "[" ++ numeral ++ "]"

/-- An index is written as its digits between brackets. -/
theorem toList_inBrackets (index : Nat) :
    (inBrackets (toString (Int.ofNat index))).toList =
      '[' :: (Nat.toDigits 10 index ++ [']']) := by
  have numeral : toString (Int.ofNat index) = Nat.repr index := rfl
  rw [inBrackets, numeral, String.toList_append, String.toList_append, Nat.toList_repr]
  rfl

/-- Written indices are read as groups, one for each of them, with the digits of their numerals. The
induction is on the indices. -/
theorem groups?_inBrackets (indices : List Nat) :
    ∃ groups, groups? ((indices.map fun i => inBrackets (toString (Int.ofNat i))).flatMap
        String.toList) = some groups ∧ groups.map index = indices ∧
      groups.map List.length = indices.map fun i => (toString i).length := by
  induction indices with
  | nil => exact ⟨[], rfl, rfl, rfl⟩
  | cons i rest inductionHypothesis =>
    obtain ⟨groups, read, values, lengths⟩ := inductionHypothesis
    obtain ⟨digits, spelled, value⟩ := exists_spells i
    have length : digits.length = (toString i).length := by
      rw [← spelled.length_eq, Nat.toString_eq_repr, ← String.length_toList, Nat.toList_repr]
    refine ⟨digits.reverse :: groups, ?_, ?_, ?_⟩
    · rw [List.map_cons, List.flatMap_cons, toList_inBrackets, List.cons_append, List.append_assoc,
        List.singleton_append, groups?_of_spells spelled Nat.toDigits_ne_nil, read, Option.map_some]
    · rw [List.map_cons, value, values]
    · rw [List.map_cons, List.map_cons, List.length_reverse, length, lengths]

end Csp.Term
