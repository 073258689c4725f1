import BoxLang.Text.Blank
import BoxLang.Text.Columns
import BoxLang.Text.Lines

/-!
# Lines of a source text

A source text as a report shows it: lines end at any of the characters that end a
line in some convention, and keep them; offsets count characters.
-/

namespace BoxLang.Report

/-- A line of a source text. -/
structure SourceLine where
  /-- The number of lines before it. -/
  index : Nat
  /-- The number of characters before it. -/
  start : Nat
  /-- Its characters, with those that end it. -/
  chars : List Char

/-- Whether a character ends a line. -/
def endsLine (char : Char) : Bool :=
  char == '\n' || char == '\r' || char == '\x0b' || char == '\x0c' || char == '\x85' ||
    char == '\u2028' || char == '\u2029'

/-- The lines of a text with their ends. A carriage return and a line feed after it
are one end. -/
def splitKeepingEnds : List Char → List (List Char)
  | [] => []
  | char :: rest =>
      if endsLine char && !(char == '\r' && rest.head? == some '\n') then
        [char] :: splitKeepingEnds rest
      else consLine char (splitKeepingEnds rest)

namespace SourceLine

/-- Numbers lines from a given index and offset on. -/
def numbered (index start : Nat) : List (List Char) → List SourceLine
  | [] => []
  | chars :: rest => ⟨index, start, chars⟩ :: numbered (index + 1) (start + chars.length) rest

/-- The first line of a text, which may be empty, and the others. -/
def ofText (text : List Char) : SourceLine × List SourceLine :=
  match splitKeepingEnds text with
  | [] => (⟨0, 0, []⟩, [])
  | first :: rest => (⟨0, 0, first⟩, numbered 1 first.length rest)

/-- The last of some lines that starts at or before an offset. -/
def holding (offset : Nat) (line : SourceLine) : List SourceLine → SourceLine
  | [] => line
  | later :: rest => if later.start ≤ offset then holding offset later rest else line

/-- The offset after the line. -/
def stop (line : SourceLine) : Nat :=
  line.start + line.chars.length

/-- The characters of a line without the white space at its end. -/
def visible (line : SourceLine) : List Char :=
  (line.chars.reverse.dropWhile CharSet.whiteSpace.contains).reverse

/-- The columns up to the next multiple of four. -/
def tabWidth (position : Nat) : Nat :=
  4 - position % 4

/-- The columns that a character takes as the one at `position` in its line. -/
def charWidth (char : Char) (position : Nat) : Nat :=
  if char = '\t' then tabWidth position
  else if CharSet.whiteSpace.contains char then 1
  else columns char

/-- The columns that the first `count` positions of a line take; positions after
the visible characters take one each. -/
def widths (line : SourceLine) (count : Nat) : List Nat :=
  (line.visible.zipIdx.map (fun (char, position) => charWidth char position) ++
    List.replicate count 1).take count

end SourceLine

end BoxLang.Report
