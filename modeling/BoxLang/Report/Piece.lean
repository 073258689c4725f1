/-!
# Painted text

A report is made of rows of pieces, some of them painted.  Whether paint shows is
decided only when the rows are written out.
-/

namespace BoxLang.Report

inductive Colour
  | red
  | yellow
  /-- A colour of the palette of 256. -/
  | palette (index : Nat)
  deriving DecidableEq

structure Piece where
  colour : Option Colour
  text : List Char

abbrev Row := List Piece

namespace Colour

/-- The parameters that select a colour for the text that follows. -/
def parameters : Colour → List Char
  | red => ['3', '1']
  | yellow => ['3', '3']
  | palette index => ['3', '8', ';', '5', ';'] ++ Nat.toDigits 10 index

/-- The lines around a snippet, and its line numbers. -/
def border : Colour := .palette 246

/-- The margin beside rows without a line number. -/
def margin : Colour := .palette 240

/-- The marked part of a source text, and the label that points to it. -/
def label : Colour := .palette 155

/-- The part of a source text that is not marked. -/
def source : Colour := .palette 249

/-- The word before advice. -/
def help : Colour := .palette 115

/-- The kind of a report that only informs. -/
def advice : Colour := .palette 147

end Colour

namespace Piece

def plain (text : List Char) : Piece :=
  ⟨none, text⟩

def painted (colour : Colour) (text : List Char) : Piece :=
  ⟨some colour, text⟩

def spaces (count : Nat) : Piece :=
  plain (List.replicate count ' ')

/-- A character of the border. -/
def border (char : Char) : Piece :=
  painted .border [char]

/-- A character of a label. -/
def label (char : Char) : Piece :=
  painted .label [char]

/-- Characters of a label, each a piece of its own. -/
def labels (chars : List Char) : Row :=
  chars.map label

/-- The sequence that starts a colour, or ends it when it has no parameters but `0`. -/
def control (parameters : List Char) : List Char :=
  ['\x1b', '['] ++ parameters ++ ['m']

/-- The characters of a piece, with or without its paint. -/
def chars (coloured : Bool) (piece : Piece) : List Char :=
  match coloured, piece.colour with
  | true, some colour => control colour.parameters ++ piece.text ++ control ['0']
  | _, _ => piece.text

end Piece

/-- The characters of a row and the end of its line. -/
def Row.chars (coloured : Bool) (row : Row) : List Char :=
  row.flatMap (Piece.chars coloured) ++ ['\n']

/-- The text of some rows, with or without their paint. -/
def write (coloured : Bool) (rows : List Row) : String :=
  String.ofList (rows.flatMap (Row.chars coloured))

end BoxLang.Report
