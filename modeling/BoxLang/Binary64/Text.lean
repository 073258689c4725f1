import BoxLang.Binary64.Shortest

/-!
# The text of a real

Reals are written with their shortest digits.  Magnitudes from `10 ^ (-4)` up to
`10 ^ 16` are positional and keep at least one digit after the point; the others
have one digit before the point and an exponent.
-/

namespace BoxLang

namespace Decimal

/-- Which magnitudes are written positionally, by the place of their leading
digit: the number `0.d₁d₂… * 10 ^ place`. -/
structure Layout where
  leastPlace : Int
  greatestPlace : Int

/-- From `0.0001` to `9999999999999999.0`. -/
def Layout.real : Layout :=
  ⟨-3, 16⟩

def zeros (count : Nat) : String :=
  String.ofList (List.replicate count '0')

/-- Digits with a point at the given place, and a zero on a side without digits. -/
def positional (digits : String) (place : Int) : String :=
  if place ≤ 0 then
    "0." ++ zeros (-place).toNat ++ digits
  else
    let whole := place.toNat
    if digits.length ≤ whole then
      digits ++ zeros (whole - digits.length) ++ ".0"
    else
      String.ofList (digits.toList.take whole) ++ "." ++
        String.ofList (digits.toList.drop whole)

/-- One digit, a point if more digits follow, and the exponent after `e`. -/
def scientific (digits : String) (place : Int) : String :=
  let fraction := digits.toList.drop 1
  let mantissa :=
    if fraction.isEmpty then digits
    else String.ofList (digits.toList.take 1) ++ "." ++ String.ofList fraction
  mantissa ++ "e" ++ toString (place - 1)

def text (layout : Layout) (decimal : Decimal) : String :=
  if decimal.digits = 0 then "0.0"
  else
    let digits := Nat.repr decimal.digits
    let place := (digits.length : Int) + decimal.exponent
    if layout.leastPlace ≤ place ∧ place ≤ layout.greatestPlace then
      positional digits place
    else scientific digits place

end Decimal

namespace Binary64

/-- The text of a word. The sign of a zero is written, that of a NaN is not. -/
def text (x : Binary64) : String :=
  if x.isNaN then "NaN"
  else
    let sign := if x.isNegative then "-" else ""
    if x.isFinite then sign ++ x.shortestDecimal.text .real
    else sign ++ "inf"

end Binary64

end BoxLang
