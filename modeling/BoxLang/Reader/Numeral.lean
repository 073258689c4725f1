import BoxLang.Binary64.Rounding
import BoxLang.Expr.Basic
import BoxLang.Reader.Fault

/-!
# Numerals

An optional sign, digits, at most one point between digits, and separators `_`
between digits.  A numeral is read one character at a time, as far as digits,
points and separators go; with a point it denotes a real and without one an
integer.
-/

namespace BoxLang

/-- A numeral under reading: where it starts and its characters, newest first. -/
structure Numeral where
  start : Nat
  chars : List Char
  deriving DecidableEq

namespace Numeral

/-- What becomes of a numeral at the next character. -/
inductive Continuation
  | longer (numeral : Numeral)
  | malformed (reason : String)
  /-- The character does not belong to the numeral. -/
  | ended

def isSign (char : Char) : Bool :=
  char == '-' || char == '+'

def begin (start : Nat) (char : Char) : Numeral :=
  ⟨start, [char]⟩

def push (numeral : Numeral) (char : Char) : Numeral :=
  { numeral with chars := char :: numeral.chars }

/-- Whether the character read last is a digit. -/
def endsInDigit (numeral : Numeral) : Bool :=
  numeral.chars.head?.any Char.isDigit

/-- Whether only a sign has been read. -/
def lacksDigits (numeral : Numeral) : Bool :=
  numeral.chars.all isSign

def hasPoint (numeral : Numeral) : Bool :=
  numeral.chars.contains '.'

def noDigit : String :=
  "Expected digit to start number"

def next (numeral : Numeral) (char : Char) : Continuation :=
  if char.isDigit then .longer (numeral.push char)
  else if numeral.lacksDigits then .malformed noDigit
  else if char = '.' then
    if numeral.hasPoint then .malformed "Unexpected second `.` in number"
    else if numeral.endsInDigit then .longer (numeral.push char)
    else .malformed "Expected digit before `.` in number"
  else if char = '_' then
    if numeral.endsInDigit then .longer (numeral.push char)
    else .malformed "Expected digit before `_` in number"
  else .ended

/-- Why a numeral may not end where it does. -/
def endingFlaw? (numeral : Numeral) : Option String :=
  if numeral.lacksDigits then some noDigit
  else if numeral.chars.head? = some '_' then some "Trailing `_` in number"
  else if numeral.chars.head? = some '.' then some "Expected digit after `.` in number"
  else none

/-- The span of what has been read. Every character of a numeral is one byte. -/
def span (numeral : Numeral) : Span :=
  ⟨numeral.start, numeral.start + numeral.chars.length⟩

def text (numeral : Numeral) : String :=
  String.ofList numeral.chars.reverse

def isNegative (numeral : Numeral) : Bool :=
  numeral.chars.contains '-'

/-- The natural number written by the digits among some characters. -/
def digitsValue (chars : List Char) : Nat :=
  (chars.filter Char.isDigit).foldl (fun value char => 10 * value + (char.toNat - 48)) 0

/-- The number of digits after the point. -/
def fractionLength (numeral : Numeral) : Nat :=
  ((numeral.chars.takeWhile (· ≠ '.')).filter Char.isDigit).length

/-- The integer denoted by a numeral without a point. -/
def integer (numeral : Numeral) : Int :=
  let value : Int := digitsValue numeral.chars.reverse
  if numeral.isNegative then -value else value

/-- The real denoted by a numeral with a point. -/
def real (numeral : Numeral) : Binary64 :=
  .ofRatio numeral.isNegative (digitsValue numeral.chars.reverse)
    (Nat.pow 10 numeral.fractionLength)

/-- The literal a well-formed numeral denotes, unless it is out of range. -/
def literal? (numeral : Numeral) : Option Expr :=
  if numeral.hasPoint then
    if numeral.real.isFinite then some (.real numeral.real) else none
  else if Int64.minValue.toInt ≤ numeral.integer ∧
      numeral.integer ≤ Int64.maxValue.toInt then
    some (.integer (Int64.ofInt numeral.integer))
  else none

/-- Ends a numeral. -/
def close (numeral : Numeral) : Except Fault Expr :=
  match numeral.endingFlaw? with
  | some reason => .error ⟨.invalidNumber reason, numeral.span⟩
  | none =>
      match numeral.literal? with
      | some literal => .ok literal
      | none => .error ⟨.numberOutOfRange numeral.text, numeral.span⟩

end Numeral

end BoxLang
