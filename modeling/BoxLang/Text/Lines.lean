/-!
# Lines

A text is split at line feeds; a carriage return right before a line feed belongs
to the end of the line.  Nothing follows a final line feed.
-/

namespace BoxLang

/-- Puts an item at the start of the first line. -/
def consLine {α : Type} (item : α) : List (List α) → List (List α)
  | [] => [[item]]
  | line :: rest => (item :: line) :: rest

/-- The lines of a text over any alphabet with the two line end symbols. -/
def splitLines {α : Type} [DecidableEq α] (lineFeed carriageReturn : α) :
    List α → List (List α)
  | [] => []
  | item :: rest =>
      if item = lineFeed then [] :: splitLines lineFeed carriageReturn rest
      else if item = carriageReturn ∧ rest.head? = some lineFeed then
        splitLines lineFeed carriageReturn rest
      else consLine item (splitLines lineFeed carriageReturn rest)

/-- The lines of a text. -/
def textLines (text : List Char) : List (List Char) :=
  splitLines '\n' '\r' text

end BoxLang
