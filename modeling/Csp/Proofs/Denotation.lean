import Csp.Proofs.Equality
import Csp.Text.Numeral
import Csp.Value.Whole

/-!
# Values that denote integers

A value denotes an integer if it is equal to one, or if it is a text that is a
numeral of one. Where a whole number is needed, a value is taken for the integer
that it denotes, and hardly anything else is taken for a whole number: only from
a double with digits after the point, which denotes no integer, these digits are
cut off.
-/
namespace Csp

/-- Nothing is cut off a binary fraction that is an integer. Cutting off goes towards zero, and an
integer is already where this would lead. -/
theorem Double.integerPart_intCast (n : Int) : integerPart (n : Dyadic) = n := by
  generalize whole : (n : Dyadic) = x
  have exact : x.toRat = n := by rw [← whole, Dyadic.toRat_intCast]
  cases x with
  | zero =>
    have zero : n = 0 := by simpa using exact.symm
    rw [zero]
    rfl
  | ofOdd m precision odd =>
    cases precision with
    | ofNat k =>
      -- The fraction is kept in lowest terms, so its denominator is that of an integer.
      have single : 2 ^ k = 1 := congrArg Rat.den exact
      have same : m = n := congrArg Rat.num exact
      have none : k = 0 := by simpa using single
      subst none
      simp [integerPart, same]
    | negSucc k =>
      have same : m * 2 ^ (k + 1) = n := by
        rw [← Rat.intCast_inj, ← exact, Dyadic.toRat]
        simp
      rw [integerPart, if_pos (Int.le_of_lt (Int.negSucc_lt_zero k)), ← same]
      simp

namespace Value

/-- A value denotes an integer that it is equal to, and a text the integer that it is a numeral
of. -/
def Denotes (v : Value) (n : Int) : Prop :=
  v.same (.int n) = true ∨ ∃ s, v = .text s ∧ Text.wholeNumber? s = some n

/-- A double with digits after the point. -/
def Fractional (v : Value) : Prop := ∃ x : Dyadic, v = .double (.finite x) ∧ ∀ n : Int, x ≠ n

/-- Only numbers have the shape of a number. -/
theorem number?_of_shape {v : Value} {k : Number} (shape : v.shape = .number k) :
    v.number? = some k := by
  cases v with
  | bool b | int n | double x =>
    cases shape
    rfl
  | entity e =>
    obtain ⟨name, fields, record⟩ := entityShape_eq_record e
    rw [Value.shape, record] at shape
    cases shape
  | null | text s | list items | tuple items | progression r | dict entries | kind k | tag t
    | handle number id | tree number form => cases shape

/-- What is equal to an integer is a number with its exact value. The types may differ: an integer
also equals a truth value and a double. -/
theorem number?_of_same {v : Value} {n : Int} (same : v.same (.int n) = true) :
    ∃ k, v.number? = some k ∧ k.exact = .finite (n : Dyadic) := by
  have alike : Shape.alike v.shape (.number (.int n)) = true := same
  cases shape : v.shape with
  | number k =>
    rw [shape, Shape.alike, Number.same, decide_eq_true_eq] at alike
    exact ⟨k, number?_of_shape shape, alike⟩
  | null | text s | progression r | symbol family name form | handle number id | tree number form
    | list items | tuple items | mapping frozen entries | record name fields =>
    rw [shape] at alike
    simp [Shape.alike] at alike

/-- What has the exact number of an integer is equal to it, whether it is an integer, a truth value
or a double. -/
theorem same_of_exact {v : Value} {k : Number} {n : Int} (shape : v.shape = .number k)
    (exact : k.exact = .finite (n : Dyadic)) : v.same (.int n) = true := by
  change Shape.alike v.shape (.number (.int n)) = true
  rw [shape, Shape.alike, Number.same, exact]
  exact decide_eq_true rfl

/-- A value is taken for the integer that it denotes. For a text this is the reading of numerals,
and for a number it is the cutting off of what is not there. -/
theorem whole_of_denotes {v : Value} {n : Int} (denotes : v.Denotes n) : v.whole = .ok n := by
  rcases denotes with same | ⟨s, rfl, number⟩
  · obtain ⟨k, number, exact⟩ := number?_of_same same
    cases v with
    | bool b =>
      cases number
      cases b with
      | false => exact congrArg Except.ok ((finite_intCast_inj 0 n).mp exact)
      | true => exact congrArg Except.ok ((finite_intCast_inj 1 n).mp exact)
    | int m =>
      cases number
      exact congrArg Except.ok ((finite_intCast_inj m n).mp exact)
    | double x =>
      cases number
      cases x with
      | finite x =>
        cases exact
        rw [whole, Double.integerPart_intCast]
      | negativeZero => exact congrArg Except.ok ((finite_intCast_inj 0 n).mp exact)
      | infinite negative | notANumber occurrence => cases exact
    | _ => cases number
  · rw [whole, number]

/-- What a value is taken for is what it denotes, unless digits after the point are cut off. This is
the one case in which what is stored is not what was given. -/
theorem denotes_of_whole {v : Value} {n : Int} (taken : v.whole = .ok n)
    (exact : ¬ v.Fractional) : v.Denotes n := by
  cases v with
  | bool b =>
    cases taken
    cases b <;> exact .inl (same_of_exact rfl rfl)
  | int m =>
    cases taken
    exact .inl (same_of_exact rfl rfl)
  | double x =>
    cases x with
    | finite x =>
      by_cases integral : ∃ m : Int, x = m
      · obtain ⟨m, rfl⟩ := integral
        rw [whole, Double.integerPart_intCast] at taken
        cases taken
        exact .inl (same_of_exact rfl rfl)
      · exact absurd ⟨x, rfl, not_exists.mp integral⟩ exact
    | negativeZero =>
      cases taken
      exact .inl (same_of_exact rfl rfl)
    | infinite negative | notANumber occurrence => cases taken
  | text s =>
    rw [whole] at taken
    split at taken
    · rename_i number
      cases taken
      exact .inr ⟨s, rfl, number⟩
    · cases taken
  | null | list items | tuple items | progression r | dict entries | kind k | tag t
    | handle number id | tree number form | entity e => cases taken

/-- No integer is equal to a double with digits after the point. -/
theorem Fractional.not_denotes {v : Value} (cut : v.Fractional) (n : Int) : ¬ v.Denotes n := by
  obtain ⟨x, rfl, between⟩ := cut
  rintro (same | ⟨s, text, _⟩)
  · obtain ⟨k, number, exact⟩ := number?_of_same same
    cases number
    cases exact
    exact between n rfl
  · cases text

/-- A double with digits after the point is taken for some whole number all the same. So such a
value is not refused, and the number that is stored differs from it. -/
theorem Fractional.whole {v : Value} (cut : v.Fractional) : ∃ n, v.whole = .ok n := by
  obtain ⟨x, rfl, _⟩ := cut
  exact ⟨Double.integerPart x, rfl⟩

end Value
end Csp
