import BoxLang.Reader.Span
import BoxLang.Report.Piece
import BoxLang.Report.SourceLine

/-!
# Snippets

The part of a source text that a diagnostic is about, with a label below it.  A
span within one line is underlined; one over several lines is shown by its first
and its last line.
-/

namespace BoxLang.Report

/-- A span of a source text, with the lines it starts and ends in. -/
structure Snippet where
  /-- Offsets of characters. -/
  span : Span
  /-- The first line of the source text. -/
  opening : SourceLine
  first : SourceLine
  last : SourceLine

namespace Snippet

/-- The snippet of a span, unless the span goes past the end of the text. -/
def ofSpan? (text : List Char) (span : Span) : Option Snippet :=
  let ending := if span.start < span.stop then span.stop - 1 else span.start
  if text.length < span.start ∨ text.length < ending then none
  else
    let (opening, rest) := SourceLine.ofText text
    some ⟨span, opening, opening.holding span.start rest, opening.holding ending rest⟩

/-- The width of the line numbers. -/
def numberWidth (snippet : Snippet) : Nat :=
  (Nat.toDigits 10 (snippet.last.index + 1)).length

def isOneLine (snippet : Snippet) : Bool :=
  snippet.first.index == snippet.last.index

def marks (snippet : Snippet) (offset : Nat) : Bool :=
  decide (snippet.span.start ≤ offset) && decide (offset < snippet.span.stop)

/-- Whether a span ends after the last line it reaches. -/
def overruns (snippet : Snippet) : Bool :=
  decide (snippet.last.stop < snippet.span.stop)

/-- Where the snippet starts, by line and column. -/
def location (snippet : Snippet) : List Char :=
  let line := Nat.toDigits 10 (snippet.first.index + 1)
  let column := Nat.toDigits 10 (snippet.span.start - snippet.first.start + 1)
  " <unknown>:".toList ++ line ++ [':'] ++ column ++ [' ']

/-- The rows above the source lines. -/
def top (snippet : Snippet) : List Row :=
  let indent := Piece.spaces (snippet.numberWidth + 2)
  [[indent, .border '╭', .border '─', .border '[', .plain snippet.location, .border ']'],
    [indent, .border '│']]

/-- The row below everything. -/
def bottom (snippet : Snippet) : Row :=
  [.painted .border (List.replicate (snippet.numberWidth + 2) '─' ++ ['╯'])]

/-- The start of a row without a line number. -/
def marginOf (snippet : Snippet) (bar : Char) : Row :=
  [.spaces 1, .painted .margin (List.replicate (snippet.numberWidth + 1) ' ' ++ [bar]),
    .spaces 1]

def margin (snippet : Snippet) : Row :=
  snippet.marginOf '│'

/-- The start of a row with the number of a line. -/
def numberedMargin (snippet : Snippet) (line : SourceLine) : Row :=
  let number := Nat.toDigits 10 (line.index + 1)
  let padding := List.replicate (snippet.numberWidth - number.length) ' '
  [.spaces 1, .painted .border (padding ++ number ++ [' ', '│']), .spaces 1]

/-- One character of a line as it is shown. -/
def shownChar (snippet : Snippet) (line : SourceLine) (char : Char) (position : Nat) : Row :=
  let colour := if snippet.marks (line.start + position) then Colour.label else .source
  if char = '\t' then
    List.replicate (SourceLine.tabWidth position) (.painted colour [' '])
  else if CharSet.whiteSpace.contains char then [.painted colour [' ']]
  else [.painted colour [char]]

/-- A line as it is shown. -/
def shownLine (snippet : Snippet) (line : SourceLine) : Row :=
  line.visible.zipIdx.flatMap fun (char, position) => snippet.shownChar line char position

/-- The position in a line that the label of a span points to. -/
def pointer (snippet : Snippet) : Nat :=
  max ((snippet.span.start + snippet.span.stop) / 2) snippet.span.start - snippet.first.start

/-- The widths of the positions under which the label of a span is drawn. -/
def labelWidths (snippet : Snippet) : List Nat :=
  snippet.first.widths (snippet.span.stop + 2 - snippet.first.start)

/-- A position of a row: one piece in its first column, and another one in each
further column. A position without columns is not drawn. -/
def cell (piece extra : Piece) : Nat → Row
  | 0 => []
  | width + 1 => piece :: List.replicate width extra

/-- The row with a cell at each position under which the label of a span is drawn,
given the cell for a width and a position. -/
def cells (snippet : Snippet) (draw : Nat → Nat → Row) : Row :=
  snippet.labelWidths.zipIdx.flatMap fun entry => draw entry.1 entry.2

/-- What is below a position in the row that underlines a span. The position that
the label points to is part of the label in all its columns. -/
def underlineCell (snippet : Snippet) (width position : Nat) : Row :=
  match decide (position = snippet.pointer),
      snippet.marks (snippet.first.start + position) with
  | true, true => cell (.label '┬') (.label '─') width
  | true, false => cell (.label '│') (.label ' ') width
  | false, true => cell (.label '─') (.label '─') width
  | false, false => cell (.spaces 1) (.spaces 1) width

/-- The row that underlines a span. -/
def underline (snippet : Snippet) : Row :=
  snippet.cells snippet.underlineCell

/-- What is below a position in the row that leads from a span to its message. -/
def leadCell (snippet : Snippet) (width position : Nat) : Row :=
  if position < snippet.pointer then cell (.spaces 1) (.spaces 1) width
  else if position = snippet.pointer then cell (.label '╰') (.label '─') width
  else cell (.label '─') (.label '─') width

/-- The row that leads from a span to its message. -/
def lead (snippet : Snippet) : Row :=
  snippet.cells snippet.leadCell

/-- The rows of a span within one line. A span that ends after the line has none
but an empty one. -/
def oneLine (snippet : Snippet) (message : List Char) : List Row :=
  if snippet.overruns then [snippet.margin]
  else
    [snippet.numberedMargin snippet.first ++ snippet.shownLine snippet.first,
      snippet.margin ++ snippet.underline,
      snippet.margin ++ snippet.lead ++ [.plain (' ' :: message)]]

/-- The first line of a span over several lines. -/
def openingRow (snippet : Snippet) : Row :=
  snippet.numberedMargin snippet.first ++ Piece.labels ['╭', '─', '▶', ' '] ++
    snippet.shownLine snippet.first

/-- What stands for the lines of a span that are not shown. -/
def skippedRow (snippet : Snippet) : Row :=
  snippet.marginOf '┆' ++ [.label '┆', .spaces 3]

/-- The last line of a span over several lines, with the label below it. -/
def closingRows (snippet : Snippet) (message : List Char) : List Row :=
  let reach := (snippet.last.widths (snippet.last.chars.length + 2)).foldl (· + ·) 0
  [snippet.numberedMargin snippet.last ++ Piece.labels ['├', '─', '▶', ' '] ++
      snippet.shownLine snippet.last,
    snippet.margin ++ [.label '│', .spaces (reach + 3)],
    snippet.margin ++ Piece.labels ('╰' :: List.replicate (reach + 3) '─') ++
      [.plain (' ' :: message)]]

/-- The rows of a span over several lines. One that ends after its last line does
not close: all lines after the first are skipped. -/
def severalLines (snippet : Snippet) (message : List Char) : List Row :=
  if snippet.overruns then [snippet.openingRow, snippet.skippedRow]
  else
    let skipped :=
      if snippet.last.index - snippet.first.index > 1 then [snippet.skippedRow] else []
    snippet.openingRow :: skipped ++ snippet.closingRows message

def body (snippet : Snippet) (message : List Char) : List Row :=
  if snippet.isOneLine then snippet.oneLine message else snippet.severalLines message

/-- What stands between the margin and advice. Below several lines it is blank,
but the bar of the label goes on when the span starts at the end of the first
line of the text. -/
def helpIndent (snippet : Snippet) : Row :=
  if snippet.isOneLine then []
  else if snippet.span.start = snippet.opening.chars.length then [.label '│', .spaces 3]
  else [.spaces 4]

/-- The rows of an advice. -/
def help (snippet : Snippet) (text : List Char) : List Row :=
  let start := snippet.margin ++ snippet.helpIndent
  start ::
    match textLines text with
    | [] => []
    | line :: rest =>
        (start ++ [.painted .help "Help".toList, .plain ([':', ' '] ++ line)]) ::
          rest.map fun line => start ++ [.spaces 6, .plain line]

end Snippet

end BoxLang.Report
