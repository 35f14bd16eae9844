/-!
# Numerals

A numeral denotes a whole number: blanks, at most one sign, decimal digits of
any script, blanks. A low line may stand between two digits and nowhere else.
Leading zeros are digits too.

Unicode places the ten decimal digits of a script (general category `Nd`) next
to each other in increasing order, so a table of the zeros describes all of
them. The table is the one of version 14 of the standard.

A numeral has a limited number of digits, in both directions: a longer text is
not read as a number, and a number that takes more digits is not written.
-/
namespace Csp.Text

/-- The Unicode property `White_Space`, written out range by range. The four information
separators U+001C to U+001F, which some tools count as blanks, and the zero-width space, which is a
format character, are not members. -/
def isBlank (c : Char) : Bool :=
  let n := c.toNat
  (0x9 ≤ n && n ≤ 0xd) || n == 0x20 || n == 0x85 || n == 0xa0 || n == 0x1680 ||
    (0x2000 ≤ n && n ≤ 0x200a) || n == 0x2028 || n == 0x2029 || n == 0x202f ||
    n == 0x205f || n == 0x3000

/-- The code points of the digits zero. -/
def digitZeros : List Nat :=
  [0x30, 0x660, 0x6f0, 0x7c0, 0x966, 0x9e6, 0xa66, 0xae6, 0xb66, 0xbe6, 0xc66, 0xce6, 0xd66,
   0xde6, 0xe50, 0xed0, 0xf20, 0x1040, 0x1090, 0x17e0, 0x1810, 0x1946, 0x19d0, 0x1a80, 0x1a90,
   0x1b50, 0x1bb0, 0x1c40, 0x1c50, 0xa620, 0xa8d0, 0xa900, 0xa9d0, 0xa9f0, 0xaa50, 0xabf0,
   0xff10, 0x104a0, 0x10d30, 0x11066, 0x110f0, 0x11136, 0x111d0, 0x112f0, 0x11450, 0x114d0,
   0x11650, 0x116c0, 0x11730, 0x118e0, 0x11950, 0x11c50, 0x11d50, 0x11da0, 0x16a60, 0x16ac0,
   0x16b50, 0x1d7ce, 0x1d7d8, 0x1d7e2, 0x1d7ec, 0x1d7f6, 0x1e140, 0x1e2f0, 0x1e950, 0x1fbf0]

/-- The value of a decimal digit: its distance from the zero of its script. -/
def digitValue? (c : Char) : Option Nat :=
  (digitZeros.find? fun origin => origin ≤ c.toNat && c.toNat < origin + 10).map (c.toNat - ·)

/-- Whether a character is a decimal digit. -/
def isDigit (c : Char) : Bool := (digitValue? c).isSome

/-- A digit stands for a number below ten. -/
theorem digitValue?_lt {c : Char} {d : Nat} (value : digitValue? c = some d) : d < 10 := by
  obtain ⟨origin, found, rfl⟩ := Option.map_eq_some_iff.1 value
  have range := List.find?_some found
  simp only [Bool.and_eq_true, decide_eq_true_eq] at range
  omega

/-- Brackets are not digits, so a digit string ends at the first bracket. -/
theorem digitValue?_bracket :
    digitValue? '[' = none ∧ digitValue? ']' = none := by decide

/-- The digits after the first one, each worth ten times less than the one before it. -/
def moreDigits (value : Nat) : List Char → Option Nat
  | [] => some value
  | '_' :: digit :: rest => (digitValue? digit).bind fun d => moreDigits (10 * value + d) rest
  | digit :: rest => (digitValue? digit).bind fun d => moreDigits (10 * value + d) rest

/-- An unsigned numeral without blanks; there has to be a digit. -/
def natural? : List Char → Option Nat
  | [] => none
  | digit :: rest => (digitValue? digit).bind fun d => moreDigits d rest

/-- A numeral without blanks. -/
def signed? : List Char → Option Int
  | '+' :: rest => (natural? rest).map Int.ofNat
  | '-' :: rest => (natural? rest).map fun n => -Int.ofNat n
  | rest => (natural? rest).map Int.ofNat

/-- The text without the blanks at its two ends. Blanks inside the text stay. -/
def trimmed (text : List Char) : List Char :=
  ((text.dropWhile isBlank).reverse.dropWhile isBlank).reverse

/-- The text without its low lines, each of which has to stand between two digits. The flag tells
whether a digit comes before the text. -/
def withoutLowLines? : Bool → List Char → Option (List Char)
  | _, [] => some []
  | afterDigit, '_' :: c :: rest =>
    if afterDigit && isDigit c then (withoutLowLines? true rest).map (c :: ·) else none
  | _, c :: rest =>
    if c = '_' then none else (withoutLowLines? (isDigit c) rest).map (c :: ·)

/-- The greatest number of digits that a numeral may have. It holds for reading as well as for
writing. -/
def digitLimit : Nat := 4300

/-- The number of digits in a text. -/
def digitCount (text : List Char) : Nat := text.countP isDigit

/-- The number that a text denotes, if it is a numeral. The digits are counted first, wherever they
stand. -/
def wholeNumber? (text : String) : Option Int :=
  if digitCount text.toList ≤ digitLimit then signed? (trimmed text.toList) else none

example : wholeNumber? " +0_12\n" = some 12 ∧ wholeNumber? "1__2" = none := by decide +kernel

/-- Whether an integer can be written as a numeral. A sign is not a digit, so it does not count
against the limit. -/
def hasNumeral (n : Int) : Bool := decide ((Nat.toDigits 10 n.natAbs).length ≤ digitLimit)

end Csp.Text
