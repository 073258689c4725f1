import BoxLang.Binary64.Basic

/-!
# Rounding a ratio to binary64

The nearest word to a quotient of natural numbers, found by exact division:
every finite word is an integer multiple of `2 ^ (-1074)`, and a quotient that
needs more than 53 bits is divided by a further power of two first.
-/

namespace BoxLang

/-- The integer nearest to `numerator / denominator`; halves go to the even
neighbour. -/
def roundToEven (numerator denominator : Nat) : Nat :=
  let quotient := numerator / denominator
  let remainder := numerator % denominator
  if 2 * remainder < denominator then quotient
  else if denominator < 2 * remainder then quotient + 1
  else if quotient % 2 = 0 then quotient
  else quotient + 1

namespace Binary64

/-- The magnitude of the word nearest to `numerator / denominator`.

With `scale` chosen so that the rounded significand has 53 bits, adding it to
`scale * exponentUnit` sets the exponent field, and a significand rounded up to
`2 ^ 53` carries into it.  Magnitudes past the largest finite one are infinite. -/
def nearestMagnitude (numerator denominator : Nat) : Nat :=
  let units := numerator * Nat.pow 2 1074
  let scale := (units / denominator).log2 - 52
  min infinityMagnitude
    (scale * exponentUnit + roundToEven units (denominator * Nat.pow 2 scale))

/-- The word nearest to `numerator / denominator` with the given sign. -/
def ofRatio (negative : Bool) (numerator denominator : Nat) : Binary64 :=
  ofMagnitude negative (nearestMagnitude numerator denominator)

end Binary64

end BoxLang
