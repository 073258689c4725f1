import BoxLang.Reader.Numeral
import BoxLang.Text.Utf8

/-!
# Reading states

A program is read one character at a time.  A reading state holds the boxes and
assignments that are still open, with the statements already read in each box,
and what the next character may continue.
-/

namespace BoxLang.Reader

/-- What surrounds the reading position. Statements are newest first. -/
inductive Context
  | program (statements : List Expr)
  /-- Inside a box that was opened at an offset. -/
  | box (opening : Nat) (statements : List Expr) (outer : Context)
  /-- Inside the value assigned to a name. -/
  | assignment (name : String) (outer : Context)

/-- What the text read last leaves open. -/
inductive Mode
  /-- An expression may start. -/
  | ready
  /-- An expression has just ended. -/
  | complete
  /-- A string that its quote has not closed, newest character first. -/
  | string (opening : Nat) (quote : Char) (content : List Char)
  | numeral (numeral : Numeral)
  /-- A name that may go on, newest character first. -/
  | name (chars : List Char)
  /-- A name that has ended, so that `=` may follow. -/
  | named (name : String)
  /-- The context was nested too deeply by the last character. -/
  | tooDeep

structure State where
  /-- The number of bytes read. -/
  offset : Nat
  context : Context
  mode : Mode

namespace Context

/-- The number of open boxes and assignments. -/
def depth : Context → Nat
  | .program _ => 0
  | .box _ _ outer => outer.depth + 1
  | .assignment _ outer => outer.depth + 1

/-- Adds an expression that has ended. It is the value of every assignment that
directly surrounds it, and a statement of the box or program around those. -/
def add (context : Context) (expr : Expr) : Context :=
  match context with
  | .program statements => .program (expr :: statements)
  | .box opening statements outer => .box opening (expr :: statements) outer
  | .assignment name outer => outer.add (.assign name expr)

/-- What is expected after `=`. -/
def expectedValue : String :=
  "expression after `=`"

/-- The fault of a character that has no place in a context. -/
def misplaced (char : Char) : Context → FaultKind
  | .program _ => .trailingInput char
  | .box _ _ _ => .unclosedBox (some char)
  | .assignment _ _ => .unexpectedChar expectedValue char

end Context

/-- The six characters that may stand between any two parts of a program. -/
def isSpace (char : Char) : Bool :=
  char == ' ' || char == '\t' || char == '\x0b' || char == '\x0c' || char == '\r' ||
    char == '\n'

def startsName (char : Char) : Bool :=
  char.isAlpha || char == '_'

def continuesName (char : Char) : Bool :=
  char.isAlphanum || char == '_'

namespace State

def initial : State :=
  ⟨0, .program [], .ready⟩

end State

end BoxLang.Reader
