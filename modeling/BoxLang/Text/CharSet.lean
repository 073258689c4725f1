/-!
# Sets of characters

A set of characters given by ascending, disjoint ranges of code points.
-/

namespace BoxLang

/-- Ranges of code points, both ends included. -/
structure CharSet where
  ranges : List (Nat × Nat)

namespace CharSet

def contains (set : CharSet) (char : Char) : Bool :=
  set.ranges.any fun (first, last) =>
    decide (first ≤ char.toNat) && decide (char.toNat ≤ last)

/-- Whether ranges ascend without overlap. -/
def areOrdered : List (Nat × Nat) → Bool
  | earlier :: later :: rest => decide (earlier.2 < later.1) && areOrdered (later :: rest)
  | _ => true

theorem contains_iff (set : CharSet) (char : Char) :
    set.contains char = true ↔
      ∃ range ∈ set.ranges, range.1 ≤ char.toNat ∧ char.toNat ≤ range.2 := by
  simp [contains]

end CharSet

end BoxLang
