import BoxLang.Binary64.Basic

/-!
# Shortest decimals

The decimal with the fewest digits that rounds back to a given word, and among
those the one nearest to the word's value.  A word stands for an interval of
reals; for one digit, two digits, … the two neighbours of the value on the grid
of decimals with that many digits are tested against the interval in exact
arithmetic.
-/

namespace BoxLang

/-- The number `digits * 10 ^ exponent`. -/
structure Decimal where
  digits : Nat
  exponent : Int
  deriving DecidableEq

namespace Decimal

/-- Moves trailing zeros of the digits into the exponent, at most `fuel` many. -/
def trimWithin : Nat → Decimal → Decimal
  | 0, decimal => decimal
  | fuel + 1, decimal =>
      if decimal.digits % 10 = 0 then
        trimWithin fuel ⟨decimal.digits / 10, decimal.exponent + 1⟩
      else decimal

/-- The same number without trailing zeros in its digits, when it is not zero. -/
def trim (decimal : Decimal) : Decimal :=
  decimal.trimWithin decimal.digits.log2

end Decimal

namespace Binary64

/-- The reals that round to a word, all in units of `2 ^ (-1076)`. -/
structure RoundingInterval where
  low : Nat
  value : Nat
  high : Nat
  /-- Whether the two ends round to the word as well. -/
  closed : Bool

namespace RoundingInterval

/-- The number of units in one. -/
def unitsPerOne : Nat :=
  Nat.pow 2 1076

/-- The gap below a power of two is half of the gap above it, except at the
smallest scale. -/
def ofWord (x : Binary64) : RoundingInterval :=
  let unit := Nat.pow 2 x.scale
  let gapBelow := if x.significand = exponentUnit ∧ 0 < x.scale then unit else 2 * unit
  let value := 4 * x.significand * unit
  { low := value - gapBelow
    value := value
    high := value + 2 * unit
    closed := decide (x.significand % 2 = 0) }

/-- Whether `numerator / denominator` units lie in the interval. -/
def holds (interval : RoundingInterval) (numerator denominator : Nat) : Bool :=
  if interval.closed then
    decide (interval.low * denominator ≤ numerator) &&
      decide (numerator ≤ interval.high * denominator)
  else
    decide (interval.low * denominator < numerator) &&
      decide (numerator < interval.high * denominator)

/-- The `place` with `10 ^ (place - 1) ≤ value < 10 ^ place`.  Every positive
value is at least `10 ^ (-340)`, so the digits before the point of
`value * 10 ^ 340` can be counted. -/
def leadingPlace (interval : RoundingInterval) : Int :=
  let shifted := interval.value * Nat.pow 10 340 / unitsPerOne
  (Nat.repr shifted).length - 340

/-- The better neighbour of the value on the grid of multiples of
`10 ^ exponent`, if one lies in the interval.  When both do, the nearer one is
taken, and the upper one when they are equally near. -/
def neighbour? (interval : RoundingInterval) (exponent : Int) : Option Decimal :=
  let step := unitsPerOne * Nat.pow 10 exponent.toNat
  let denominator := Nat.pow 10 (-exponent).toNat
  let target := interval.value * denominator
  let below := target / step
  let above := below + 1
  let belowHolds := interval.holds (below * step) denominator
  let aboveHolds := interval.holds (above * step) denominator
  if belowHolds && (!aboveHolds || decide (2 * (target % step) < step)) then
    some ⟨below, exponent⟩
  else if aboveHolds then some ⟨above, exponent⟩
  else none

/-- The decimal with the fewest digits in the interval. Seventeen digits always
suffice. -/
def shortest (interval : RoundingInterval) : Decimal :=
  let place := interval.leadingPlace
  let found := (List.range 17).findSome? fun (count : Nat) =>
    interval.neighbour? (place - 1 - count)
  (found.getD ⟨interval.value, -1076⟩).trim

end RoundingInterval

/-- The shortest decimal that rounds to the magnitude of a finite word. -/
def shortestDecimal (x : Binary64) : Decimal :=
  if x.isZero then ⟨0, 0⟩ else (RoundingInterval.ofWord x).shortest

end Binary64

end BoxLang
