import Csp.Double.Shortest
import Csp.Text.Numeral

/-!
# The written form of a double

Numbers from one ten-thousandth up to, but not including, `10 ^ 16` are written
with a point and at least one digit on each side of it; all others with one
digit before the point and an exponent of at least two digits that always has a
sign. Reading accepts the same forms and more lenient ones, with any number of
digits.
-/
namespace Csp.Double

/-- The exponents of the first digit that are written with a point and no exponent. -/
def isPositional (first : Int) : Bool := -4 ≤ first && first < 16

/-- The digits of an exponent, at least two, after its sign. -/
def writtenExponent (exponent : Int) : String :=
  let digits := toString exponent.natAbs
  (if exponent < 0 then "e-" else "e+") ++ (if digits.length < 2 then "0" else "") ++ digits

/-- A run of zeros. -/
def zeros (count : Nat) : String := .ofList (List.replicate count '0')

/-- A positive decimal whose last digit is not zero. -/
def Decimal.written (decimal : Decimal) : String :=
  let digits := Nat.toDigits 10 decimal.digits
  let first := decimal.exponent + digits.length - 1
  if isPositional first then
    if first < 0 then "0." ++ zeros (-first - 1).toNat ++ .ofList digits
    else if 0 ≤ decimal.exponent then .ofList digits ++ zeros decimal.exponent.toNat ++ ".0"
    else .ofList (digits.take (first.toNat + 1)) ++ "." ++ .ofList (digits.drop (first.toNat + 1))
  else match digits with
    | [digit] => .ofList [digit] ++ writtenExponent first
    | digits => .ofList (digits.take 1) ++ "." ++ .ofList (digits.drop 1) ++ writtenExponent first

/-- A decimal without the zeros at its end; the number of digits bounds the search. -/
def Decimal.stripped (decimal : Decimal) : Decimal :=
  let ends := (Nat.toDigits 10 decimal.digits).reverse.takeWhile (· == '0')
  ⟨decimal.digits / Nat.pow 10 ends.length, decimal.exponent + ends.length⟩

/-- The written form of a positive binary fraction. -/
def writtenPositive (numerator : Nat) (precision : Int) : String :=
  let exponent := lastBit (numerator.log2 - precision)
  let shift := -precision - exponent
  let significand := if 0 ≤ shift then numerator * Nat.pow 2 shift.toNat
    else numerator / Nat.pow 2 (-shift).toNat
  (shortest significand exponent).stripped.written

/-- The written form of a double. -/
def written : Double → String
  | .finite .zero => "0.0"
  | .finite (.ofOdd n precision _) =>
    (if n < 0 then "-" else "") ++ writtenPositive n.natAbs precision
  | .negativeZero => "-0.0"
  | .infinite negative => if negative then "-inf" else "inf"
  | .notANumber _ => "nan"

/-- The digits at the start of a text, and the rest. -/
def leadingDigits (text : List Char) : List Char × List Char := text.span Text.isDigit

/-- The number that digits denote. -/
def digitsValue (digits : List Char) : Nat :=
  digits.foldl (fun value digit => 10 * value + (Text.digitValue? digit).getD 0) 0

/-- An exponent part, or nothing, which stands for the exponent zero. -/
def readExponent? : List Char → Option Int
  | [] => some 0
  | mark :: rest =>
    if mark = 'e' ∨ mark = 'E' then
      let (negative, digits) := match rest with
        | '-' :: digits => (true, digits)
        | '+' :: digits => (false, digits)
        | digits => (false, digits)
      if digits.isEmpty || !digits.all Text.isDigit then none
      else some (if negative then -(digitsValue digits) else digitsValue digits)
    else none

/-- A decimal numeral without sign: digits, perhaps a point and more digits, perhaps an exponent. -/
def readDecimal? (text : List Char) : Option Double :=
  let (whole, rest) := leadingDigits text
  let (fraction, rest) := match rest with
    | '.' :: rest => leadingDigits rest
    | rest => ([], rest)
  if whole.isEmpty && fraction.isEmpty then none
  else (readExponent? rest).map fun exponent =>
    ofDecimal (digitsValue (whole ++ fraction)) (exponent - fraction.length)

/-- A double without sign: one of the names of the doubles that are not finite, in letters of
either case, or a decimal numeral. -/
def readUnsigned? (occurrence : Nat) (text : List Char) : Option Double :=
  let name := String.ofList (text.map Char.toLower)
  if name = "nan" then some (.notANumber occurrence)
  else if name = "inf" ∨ name = "infinity" then some (.infinite false)
  else readDecimal? text

/-- Reads a double. Blanks around it and low lines between its digits do not count. The
occurrence number is used if the text is that of a not-a-number. -/
def read? (occurrence : Nat) (text : String) : Option Double :=
  (Text.withoutLowLines? false (Text.trimmed text.toList)).bind fun
    | '-' :: rest => (readUnsigned? occurrence rest).map opposite
    | '+' :: rest => readUnsigned? occurrence rest
    | text => readUnsigned? occurrence text

end Csp.Double
