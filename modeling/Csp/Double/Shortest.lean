import Csp.Double.Basic

/-!
# The shortest decimal of a double

A double is written with the fewest decimal digits that are read back as the
same double; of several such decimals the one nearest to the double is taken,
and of two equally near ones the even one.

Every decimal between the midpoints to the two neighbouring doubles is read
back as the double, the midpoints included when its significand is even. If a
decimal grid has a point in that interval, then one of the two grid points next
to the double lies in it, so only those two are tried on each grid.
-/
namespace Csp.Double

/-- A positive decimal number `digits * 10 ^ exponent`. -/
structure Decimal where
  digits : Nat
  exponent : Int
deriving DecidableEq

/-- The exponent of the first decimal digit of a positive fraction. -/
def decade (numerator denominator : Nat) : Int :=
  if denominator ≤ numerator
  then (Nat.toDigits 10 (numerator / denominator)).length - 1
  else -(Nat.toDigits 10 ((denominator - 1) / numerator)).length

/-- Powers with positive or negative exponents, as fractions. -/
def powerFraction (base : Nat) (exponent : Int) : Nat × Nat :=
  if 0 ≤ exponent then (Nat.pow base exponent.toNat, 1)
  else (1, Nat.pow base (-exponent).toNat)

/-- The interval of a double in quarters of its last bit: the double and both midpoints.
The lower neighbour of a power of two is only half as far away. -/
def midpoints (significand : Nat) (exponent : Int) : Nat × Nat × Nat :=
  let value := 4 * significand
  if significand = Nat.pow 2 fractionBits.toNat ∧ leastExponent < exponent
  then (value - 1, value, value + 2) else (value - 2, value, value + 2)

/-- The point of the decimal grid `10 ^ place` that stands for the double, if one does. -/
def onGrid? (significand : Nat) (exponent place : Int) : Option Decimal :=
  let (low, value, high) := midpoints significand exponent
  let (tenUp, tenDown) := powerFraction 10 place
  let (twoUp, twoDown) := powerFraction 2 (exponent - 2)
  let point := tenUp * twoDown
  let quarter := twoUp * tenDown
  let below := value * quarter / point
  let inside := fun candidate : Nat =>
    if significand % 2 = 0
    then low * quarter ≤ candidate * point && candidate * point ≤ high * quarter
    else low * quarter < candidate * point && candidate * point < high * quarter
  let twice := 2 * (value * quarter)
  let middle := (2 * below + 1) * point
  match inside below, inside (below + 1) with
  | true, true =>
    if twice < middle ∨ (twice = middle ∧ below % 2 = 0)
    then some ⟨below, place⟩ else some ⟨below + 1, place⟩
  | true, false => some ⟨below, place⟩
  | false, true => some ⟨below + 1, place⟩
  | false, false => none

/-- The number of digits that always suffices. So the search for a shortest decimal comes to an
end. -/
def enoughDigits : Nat := 17

/-- The shortest decimal of `significand * 2 ^ exponent`. Among decimals of that length, the nearest
one is taken. -/
def shortest (significand : Nat) (exponent : Int) : Decimal :=
  let (up, down) := powerFraction 2 exponent
  let first := decade (significand * up) down
  let grids := (List.range enoughDigits).map fun (places : Nat) => first - places
  (grids.findSome? (onGrid? significand exponent)).getD
    ⟨significand * up / down, 0⟩

example : shortest 7205759403792794 (-56) = ⟨1, -1⟩ := by decide +kernel

end Csp.Double
