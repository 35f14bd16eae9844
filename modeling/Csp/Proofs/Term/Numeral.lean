import Csp.Proofs.Term.Groups
import Mathlib.Algebra.Group.Nat.Defs
import Mathlib.Data.List.Induction

/-!
# Numerals of any script

The index of a cell is given by decimal digits of any script. It is read by the
rule for numerals, under which the digits denote a number, provided that there
are not too many of them. A number is written in ASCII digits without zeros in
front. No other numeral of this form denotes the number, so a numeral is
written back as it was exactly when it is of this form.
-/
namespace Csp.Term

/-- At least one decimal digit of any script, and nothing else. Digits of different scripts may be
mixed. -/
structure IsNumeral (text : String) : Prop where
  filled : text ≠ ""
  digits : ∀ c ∈ text.toList, Text.isDigit c = true

/-- ASCII digits, with no zero in front of others. This is the form in which numbers are written. -/
structure IsPlain (text : String) : Prop where
  ascii : ∀ c ∈ text.toList, c.isDigit = true
  unpadded : text.toList.head? = some '0' → text = "0"

/-- A numeral has a digit. -/
theorem IsNumeral.toList_ne_nil {text : String} (numeral : IsNumeral text) : text.toList ≠ [] :=
  mt String.toList_eq_nil_iff.mp numeral.filled

/-- Each character of a numeral has a value as a digit. -/
theorem IsNumeral.exists_spells {text : String} (numeral : IsNumeral text) :
    ∃ digits, Spells text.toList digits := by
  have each : ∀ c ∈ text.toList, ∃ digit, Text.digitValue? c = some digit := fun c member =>
    Option.isSome_iff_exists.mp (numeral.digits c member)
  choose! value spelled using each
  refine ⟨text.toList.map value, ?_⟩
  rw [Spells, List.forall₂_map_right_iff, List.forall₂_same]
  exact spelled

section Digits

variable {chars : List Char} {digits : List Nat}

/-- What spells digits is made of digits. -/
theorem Spells.isDigit (spelled : Spells chars digits) : ∀ c ∈ chars, Text.isDigit c = true := by
  unfold Spells at spelled
  induction spelled with
  | nil => exact List.forall_mem_nil _
  | cons value _ inductionHypothesis =>
    refine List.forall_mem_cons.mpr ⟨?_, inductionHypothesis⟩
    rw [Text.isDigit, value]
    rfl

/-- The digits of a numeral as they are read one by one, from the first one on. -/
theorem index_reverse (digits : List Nat) :
    index digits.reverse = digits.foldl (fun above digit => 10 * above + digit) 0 :=
  List.foldr_reverse

/-- The digits that are spelled are decimal ones, of whatever script. -/
theorem Spells.digit_lt (spelled : Spells chars digits) : ∀ digit ∈ digits, digit < 10 := by
  unfold Spells at spelled
  induction spelled with
  | nil => exact List.forall_mem_nil _
  | cons value _ inductionHypothesis =>
    exact List.forall_mem_cons.mpr ⟨Text.digitValue?_lt value, inductionHypothesis⟩

/-- The number that some digits make is below the power of ten with as many zeros. So a number with
few digits is small, which bounds the length of its own numeral. -/
theorem index_lt (small : ∀ digit ∈ digits, digit < 10) : index digits < 10 ^ digits.length := by
  induction digits with
  | nil => exact Nat.one_pos
  | cons digit above inductionHypothesis =>
    obtain ⟨last, others⟩ := List.forall_mem_cons.mp small
    have higher := inductionHypothesis others
    rw [index_cons, List.length_cons, Nat.pow_succ]
    omega

/-- No blank lies among the ten digits of a script. The table of zeros is gone through, and the
ranges of blanks lie between them. -/
theorem not_isBlank_of_isDigit {c : Char} (digit : Text.isDigit c = true) :
    Text.isBlank c = false := by
  have apart : ∀ origin ∈ Text.digitZeros, origin = 0x30 ∨
      (0xa0 < origin ∧ origin + 10 ≤ 0x1680) ∨ (0x1680 < origin ∧ origin + 10 ≤ 0x2000) ∨
        0x3000 < origin := by decide
  obtain ⟨_, value⟩ := Option.isSome_iff_exists.mp digit
  obtain ⟨origin, found, _⟩ := Option.map_eq_some_iff.mp value
  have range := List.find?_some found
  have script := apart origin (List.mem_of_find?_eq_some found)
  simp only [Bool.and_eq_true, decide_eq_true_eq] at range
  simp only [Text.isBlank, Bool.or_eq_false_iff, Bool.and_eq_false_iff, beq_eq_false_iff_ne,
    decide_eq_false_iff_not]
  omega

/-- There are no blanks around digits, since no digit is a blank. -/
theorem trimmed_of_digits (digits : ∀ c ∈ chars, Text.isDigit c = true) :
    Text.trimmed chars = chars := by
  have unblank : ∀ {text : List Char}, (∀ c ∈ text, Text.isDigit c = true) →
      text.dropWhile Text.isBlank = text := by
    intro text digits
    cases text with
    | nil => rfl
    | cons c rest =>
      rw [List.dropWhile_cons_of_neg]
      rw [not_isBlank_of_isDigit (digits c List.mem_cons_self)]
      exact Bool.false_ne_true
  rw [Text.trimmed, unblank digits, unblank, List.reverse_reverse]
  intro c member
  exact digits c (List.mem_reverse.mp member)

/-- A digit is none of the characters without a value, such as the signs and the low line. -/
theorem ne_of_digitValue? {c other : Char} {digit : Nat} (value : Text.digitValue? c = some digit)
    (none : Text.digitValue? other = none) : c ≠ other := by
  rintro rfl
  rw [none] at value
  cases value

/-- The digits are read from the front, each making the number ten times as large. No low line is
met on the way. -/
theorem Spells.moreDigits (spelled : Spells chars digits) (value : Nat) :
    Text.moreDigits value chars =
      some (digits.foldl (fun above digit => 10 * above + digit) value) := by
  unfold Spells at spelled
  induction spelled generalizing value with
  | nil => rfl
  | @cons c digit chars digits known _ inductionHypothesis =>
    have noLowLine : c ≠ '_' := ne_of_digitValue? known (by decide)
    rw [Text.moreDigits, known, Option.bind_some, inductionHypothesis, List.foldl_cons]
    exact fun _ _ lowLine => absurd lowLine noLowLine

/-- Digits without a sign are read as a number that is not negative. -/
theorem Spells.signed? (spelled : Spells chars digits) (filled : chars ≠ []) :
    Text.signed? chars = some (index digits.reverse : Int) := by
  cases spelled with
  | nil => exact absurd rfl filled
  | @cons c digit chars digits known others =>
    have noPlus : c ≠ '+' := ne_of_digitValue? known (by decide)
    have noMinus : c ≠ '-' := ne_of_digitValue? known (by decide)
    have others : Spells chars digits := others
    rw [Text.signed?, Text.natural?, known, Option.bind_some, others.moreDigits, index_reverse,
      List.foldl_cons, Nat.mul_zero, Nat.zero_add]
    · rfl
    · exact fun _ plus => noPlus (List.cons.inj plus).1
    · exact fun _ minus => noMinus (List.cons.inj minus).1

end Digits

/-- A numeral denotes the number that its digits make, unless it has too many of them. Low lines and
signs do not occur. -/
theorem wholeNumber?_of_spells {text : String} {digits : List Nat} (numeral : IsNumeral text)
    (spelled : Spells text.toList digits) :
    Text.wholeNumber? text =
      if digits.length ≤ Text.digitLimit then some (index digits.reverse : Int) else none := by
  have count : Text.digitCount text.toList = digits.length := by
    rw [Text.digitCount, List.countP_eq_length.mpr numeral.digits, spelled.length_eq]
  rw [Text.wholeNumber?, count, trimmed_of_digits numeral.digits,
    spelled.signed? numeral.toList_ne_nil]

/-- Numerals with too many digits denote nothing. -/
theorem short_of_wholeNumber? {text : String} {n : Int} (numeral : IsNumeral text)
    (denotes : Text.wholeNumber? text = some n) : text.length ≤ Text.digitLimit := by
  obtain ⟨digits, spelled⟩ := numeral.exists_spells
  rw [wholeNumber?_of_spells numeral spelled] at denotes
  by_contra long
  rw [← String.length_toList, spelled.length_eq] at long
  rw [if_neg long] at denotes
  cases denotes

section Plain

variable {chars : List Char}

/-- The ASCII digits are the ten characters in which numbers are written. -/
theorem eq_digitChar_of_isDigit {c : Char} (ascii : c.isDigit = true) :
    ∃ digit < 10, c = Nat.digitChar digit := by
  have range : 48 ≤ c.toNat ∧ c.toNat ≤ 57 := by
    simpa [Char.isDigit, UInt32.le_iff_toNat_le] using ascii
  refine ⟨c.toNat - 48, by omega, ?_⟩
  have each : ∀ digit < 10, Char.ofNat (48 + digit) = Nat.digitChar digit := by decide
  rw [← each _ (by omega), Nat.add_sub_of_le range.1, Char.ofNat_toNat]

/-- What ASCII digits denote is what they are read as anyway. The two readings of digits agree on
these ten. -/
theorem index_of_ascii {digits : List Nat} (spelled : Spells chars digits)
    (ascii : ∀ c ∈ chars, c.isDigit = true) :
    index digits.reverse = Nat.ofDigitChars 10 chars 0 := by
  rw [index_reverse]
  generalize 0 = above
  unfold Spells at spelled
  induction spelled generalizing above with
  | nil => rfl
  | @cons c digit chars digits value _ inductionHypothesis =>
    obtain ⟨first, others⟩ := List.forall_mem_cons.mp ascii
    obtain ⟨known, small, rfl⟩ := eq_digitChar_of_isDigit first
    rw [digitValue?_digitChar small] at value
    cases value
    rw [List.foldl_cons, Nat.ofDigitChars_cons_digitChar_of_lt_ten small,
      inductionHypothesis others]

/-- ASCII digits are those of the number that they denote, if there is no zero in front of others.
Without the last of several digits there is none either, and what is left is not zero. -/
theorem toDigits_ofDigitChars (ascii : ∀ c ∈ chars, c.isDigit = true) (filled : chars ≠ [])
    (unpadded : chars.head? = some '0' → chars = ['0']) :
    Nat.toDigits 10 (Nat.ofDigitChars 10 chars 0) = chars := by
  induction chars using List.reverseRecOn with
  | nil => exact absurd rfl filled
  | append_singleton before c inductionHypothesis =>
    obtain ⟨digit, small, rfl⟩ := eq_digitChar_of_isDigit (ascii c (by simp))
    rw [Nat.ofDigitChars_append, Nat.ofDigitChars_cons_digitChar_of_lt_ten small,
      Nat.ofDigitChars_nil]
    by_cases alone : before = []
    · subst alone
      rw [Nat.ofDigitChars_nil, Nat.mul_zero, Nat.zero_add, Nat.toDigits_of_lt_base small]
      rfl
    · have noZero : before.head? ≠ some '0' := by
        intro zero
        have padded := unpadded (by rw [List.head?_append_of_ne_nil _ alone, zero])
        have short := congrArg List.length padded
        rw [List.length_append, List.length_singleton, List.length_singleton] at short
        exact alone (List.eq_nil_of_length_eq_zero (by omega))
      have rest := inductionHypothesis (fun c member => ascii c (List.mem_append_left _ member))
        alone (fun zero => absurd zero noZero)
      have positive : 0 < Nat.ofDigitChars 10 before 0 := by
        rw [Nat.pos_iff_ne_zero]
        intro zero
        rw [zero, Nat.toDigits_zero] at rest
        exact noZero (by rw [← rest]; rfl)
      rw [← Nat.toDigits_append_toDigits (by decide) positive small, rest,
        Nat.toDigits_of_lt_base small]

/-- Only zero is written with a zero at its front. -/
theorem toDigits_unpadded (n : Nat) (zero : (Nat.toDigits 10 n).head? = some '0') : n = 0 := by
  induction n using Nat.strongRecOn with
  | ind n inductionHypothesis =>
    rw [Nat.toDigits_eq_if (by decide)] at zero
    split at zero
    · exact Nat.digitChar_eq_zero.mp (Option.some.inj zero)
    · rw [List.head?_append_of_ne_nil _ Nat.toDigits_ne_nil] at zero
      have higher := inductionHypothesis (n / 10) (by omega) zero
      omega

/-- A number is written as a plain numeral. -/
theorem isPlain_toString (n : Nat) : IsPlain (toString n) := by
  constructor
  · rw [Nat.toString_eq_repr, Nat.toList_repr]
    exact fun c member => Nat.isDigit_of_mem_toDigits (by decide) (by decide) member
  · rw [Nat.toString_eq_repr, Nat.toList_repr]
    intro zero
    rw [toDigits_unpadded n zero]
    rfl

/-- A numeral is what the number that it denotes is written as exactly if it is plain. Leading zeros
and digits of other scripts are lost. -/
theorem toString_index_iff {text : String} {digits : List Nat} (numeral : IsNumeral text)
    (spelled : Spells text.toList digits) :
    toString (index digits.reverse) = text ↔ IsPlain text := by
  constructor
  · intro written
    rw [← written]
    exact isPlain_toString _
  · intro plain
    have unpadded : text.toList.head? = some '0' → text.toList = ['0'] := fun zero => by
      rw [plain.unpadded zero]
      rfl
    rw [index_of_ascii spelled plain.ascii, ← String.toList_inj, Nat.toString_eq_repr,
      Nat.toList_repr]
    exact toDigits_ofDigitChars plain.ascii numeral.toList_ne_nil unpadded

/-- A number is not written with more digits than a numeral that denotes it. Leading zeros only make
a numeral longer. -/
theorem length_toString_index {digits : List Nat} (spelled : Spells chars digits)
    (filled : chars ≠ []) : (toString (index digits.reverse)).length ≤ digits.length := by
  have some : 0 < digits.length := by
    rw [← spelled.length_eq]
    exact List.length_pos_iff.mpr filled
  have small : ∀ digit ∈ digits.reverse, digit < 10 := fun digit member =>
    spelled.digit_lt digit (List.mem_reverse.mp member)
  rw [Nat.toString_eq_repr, ← String.length_toList, Nat.toList_repr,
    Nat.length_toDigits_le_iff (by decide) some, ← List.length_reverse]
  exact index_lt small

/-- A number is written as a numeral. -/
theorem isNumeral_toString (n : Nat) : IsNumeral (toString n) := by
  obtain ⟨digits, spelled, _⟩ := exists_spells n
  constructor
  · rw [Nat.toString_eq_repr, ← String.toList_inj.ne, Nat.toList_repr]
    exact Nat.toDigits_ne_nil
  · rw [Nat.toString_eq_repr, Nat.toList_repr]
    exact spelled.isDigit

/-- A number is written as a numeral that denotes it, if that has not too many digits. -/
theorem wholeNumber?_toString {n : Nat} (short : (toString n).length ≤ Text.digitLimit) :
    Text.wholeNumber? (toString n) = some (n : Int) := by
  obtain ⟨digits, spelled, value⟩ := exists_spells n
  rw [← Nat.toList_repr, ← Nat.toString_eq_repr] at spelled
  rw [← String.length_toList, spelled.length_eq] at short
  rw [wholeNumber?_of_spells (isNumeral_toString n) spelled, if_pos short, value]

/-- What a numeral denotes is written with no more digits, and written as the numeral if that is
plain. -/
theorem exists_of_wholeNumber? {text : String} {index : Int} (numeral : IsNumeral text)
    (denotes : Text.wholeNumber? text = some index) :
    ∃ n : Nat, index = n ∧ (toString n).length ≤ Text.digitLimit ∧
      (IsPlain text → toString n = text) := by
  obtain ⟨digits, spelled⟩ := numeral.exists_spells
  have short := short_of_wholeNumber? numeral denotes
  rw [wholeNumber?_of_spells numeral spelled] at denotes
  rw [← String.length_toList, spelled.length_eq] at short
  rw [if_pos short] at denotes
  refine ⟨_, (Option.some.inj denotes).symm, ?_, (toString_index_iff numeral spelled).mpr⟩
  exact Nat.le_trans (length_toString_index spelled numeral.toList_ne_nil) short

end Plain
end Csp.Term
