/-!
# Spans

Ranges of byte offsets in a source text.
-/

namespace BoxLang

/-- From the byte at `start` up to, and without, the byte at `stop`. -/
structure Span where
  start : Nat
  stop : Nat
  deriving DecidableEq

namespace Span

/-- The empty span at an offset. -/
def point (offset : Nat) : Span :=
  ⟨offset, offset⟩

/-- The span of a character that starts at an offset. -/
def ofChar (offset : Nat) (char : Char) : Span :=
  ⟨offset, offset + char.utf8Size⟩

/-- Whether a span ends no earlier than it starts. -/
def isOrdered (span : Span) : Bool :=
  decide (span.start ≤ span.stop)

/-- From the start of one span to the end of another. -/
def combine (first last : Span) : Span :=
  ⟨first.start, last.stop⟩

/-- The span of the character `offset` bytes into a text that itself starts at
`base`. -/
def charAfter? (base : Nat) : List Char → Nat → Option Span
  | [], 0 => some (point base)
  | [], _ + 1 => none
  | char :: _, 0 => some (ofChar base char)
  | char :: rest, offset + 1 =>
      if char.utf8Size ≤ offset + 1 then
        charAfter? (base + char.utf8Size) rest (offset + 1 - char.utf8Size)
      else none

/-- The span of the character that starts at `offset` bytes into a text, empty at
the end of the text. There is none inside a character or past the end. -/
def charAt? (text : List Char) (offset : Nat) : Option Span :=
  charAfter? 0 text offset

end Span

end BoxLang
