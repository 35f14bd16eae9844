/-!
# Doubles

A floating-point number of 64 bits, held by its exact value. The finite values
are binary fractions with at most 53 significant bits, so comparison with an
integer is exact. Negative zero has a constructor of its own because its text
differs from that of zero although the two are equal as numbers.

A not-a-number is equal to nothing else; each carries the number of its
occurrence, so that a collection can still recognise the one it holds.

A fraction is rounded to the double nearest to it; of two equally near ones, to
the one whose last bit is zero. A double is `significand * 2 ^ exponent` with a
significand below `2 ^ 53` and an exponent of at least `-1074`.
-/
namespace Csp

/-- A double: an exact binary fraction, or one of the values without one. -/
inductive Double where
  | finite (value : Dyadic)
  | negativeZero
  | infinite (negative : Bool)
  | notANumber (occurrence : Nat)
deriving DecidableEq

namespace Double

/-- A binary fraction without its digits after the point, so truncation goes toward zero on both
sides of it. -/
def integerPart : Dyadic → Int
  | .zero => 0
  | .ofOdd n precision _ =>
    if precision ≤ 0 then n * Int.ofNat (Nat.pow 2 (-precision).toNat)
    else n.tdiv (Int.ofNat (Nat.pow 2 precision.toNat))

/-- The two zeros are one number. -/
def normal : Double → Double
  | .negativeZero => .finite 0
  | x => x

/-- Numerical order. A not-a-number is neither above nor below anything. -/
def atLeast : Double → Double → Bool
  | .notANumber _, _ | _, .notANumber _ => false
  | .infinite false, _ | _, .infinite true => true
  | .infinite true, _ | _, .infinite false => false
  | .finite x, .finite y => decide (y ≤ x)
  | .finite x, .negativeZero => decide (0 ≤ x)
  | .negativeZero, .finite y => decide (y ≤ 0)
  | .negativeZero, .negativeZero => true

/-- The least exponent of a double. -/
def leastExponent : Int := -1074

/-- The bits of a significand after its first one. -/
def fractionBits : Int := 52

/-- The exponent of the last bit of a double between `2 ^ binade` and `2 ^ (binade + 1)`. -/
def lastBit (binade : Int) : Int := max (binade - fractionBits) leastExponent

/-- The greatest power of two that does not exceed a positive fraction. -/
def binade (numerator denominator : Nat) : Int :=
  let estimate : Int := (numerator.log2 : Int) - denominator.log2
  let reached := if 0 ≤ estimate
    then denominator * Nat.pow 2 estimate.toNat ≤ numerator
    else denominator ≤ numerator * Nat.pow 2 (-estimate).toNat
  if reached then estimate else estimate - 1

/-- Division to the nearest integer, a half going to the even neighbour. This is the rounding of
arithmetic on doubles. -/
def divideToEven (numerator denominator : Nat) : Nat :=
  let quotient := numerator / denominator
  let twice := 2 * (numerator % denominator)
  if twice < denominator then quotient
  else if denominator < twice then quotient + 1
  else quotient + quotient % 2

/-- The double nearest to a positive fraction. A fraction that is too large becomes infinite. -/
def ofFraction (numerator denominator : Nat) : Double :=
  let exponent := lastBit (binade numerator denominator)
  let significand := if 0 ≤ exponent
    then divideToEven numerator (denominator * Nat.pow 2 exponent.toNat)
    else divideToEven (numerator * Nat.pow 2 (-exponent).toNat) denominator
  let value := Dyadic.ofIntWithPrec significand (-exponent)
  if (Dyadic.ofIntWithPrec 1 (-1024)) ≤ value then .infinite false else .finite value

/-- The double with the opposite sign. -/
def opposite : Double → Double
  | .finite x => if x = 0 then .negativeZero else .finite (-x)
  | .negativeZero => .finite 0
  | .infinite negative => .infinite (!negative)
  | .notANumber occurrence => .notANumber occurrence

/-- The decimal exponents outside which every number of a given length overflows or vanishes. They
bound the numbers that have to be computed exactly. -/
def decimalReach : Int := 400

/-- The double nearest to `digits * 10 ^ exponent`. Exponents far outside the range of
doubles are decided by the size of the number, so that no huge power is computed. -/
def ofDecimal (digits : Nat) (exponent : Int) : Double :=
  let size := exponent + (Nat.toDigits 10 digits).length
  if digits = 0 ∨ size < -decimalReach then .finite 0
  else if decimalReach < size then .infinite false
  else if 0 ≤ exponent then ofFraction (digits * Nat.pow 10 exponent.toNat) 1
  else ofFraction digits (Nat.pow 10 (-exponent).toNat)

end Double
end Csp
