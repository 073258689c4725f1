/-!
# Binary64 words

A real number of the language is an IEEE 754 binary64 word.  The fields of a
word are read off as natural numbers, so nothing here depends on a runtime
floating-point type.
-/

namespace BoxLang

/-- A binary64 word. Propositional equality is equality of bits. -/
structure Binary64 where
  bits : UInt64
  deriving DecidableEq

namespace Binary64

/-- The weight of the sign bit. -/
def signUnit : Nat :=
  0x8000000000000000

/-- The weight of the lowest bit of the exponent field. -/
def exponentUnit : Nat :=
  0x10000000000000

/-- The word without its sign bit. -/
def magnitude (x : Binary64) : Nat :=
  x.bits.toNat % signUnit

def isNegative (x : Binary64) : Bool :=
  decide (signUnit ≤ x.bits.toNat)

/-- The magnitude of an infinity; larger magnitudes are not numbers. -/
def infinityMagnitude : Nat :=
  2047 * exponentUnit

def isNaN (x : Binary64) : Bool :=
  decide (infinityMagnitude < x.magnitude)

def isFinite (x : Binary64) : Bool :=
  decide (x.magnitude < infinityMagnitude)

def isZero (x : Binary64) : Bool :=
  decide (x.magnitude = 0)

/-- The power of two a finite word is scaled by, counted from `2 ^ (-1074)`. -/
def scale (x : Binary64) : Nat :=
  x.magnitude / exponentUnit - 1

/-- A finite word denotes `significand * 2 ^ scale / 2 ^ 1074`, up to its sign. -/
def significand (x : Binary64) : Nat :=
  x.magnitude - x.scale * exponentUnit

/-- The word with the given sign and magnitude. -/
def ofMagnitude (negative : Bool) (magnitude : Nat) : Binary64 :=
  ⟨UInt64.ofNat ((if negative then signUnit else 0) + magnitude)⟩

/-- Equality of denoted numbers: the two zeros agree, and nothing agrees with a
word that is not a number. -/
def sameNumber (x y : Binary64) : Bool :=
  !x.isNaN && !y.isNaN && (decide (x = y) || (x.isZero && y.isZero))

theorem sameNumber_iff (x y : Binary64) :
    x.sameNumber y = true ↔
      x.isNaN = false ∧ y.isNaN = false ∧
        (x = y ∨ x.isZero = true ∧ y.isZero = true) := by
  simp [sameNumber, and_assoc]

end Binary64

end BoxLang
