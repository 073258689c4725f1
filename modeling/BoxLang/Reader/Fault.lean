import BoxLang.Reader.Span

/-!
# Faults in program text

Why a text is not a program, and where.
-/

namespace BoxLang

/-- The reason a text is not a program. -/
inductive FaultKind
  /-- A character that cannot start what is expected. -/
  | unexpectedChar (expected : String) (found : Char)
  /-- The text ends where something is expected. -/
  | unexpectedEnd (expected : String)
  | unterminatedString
  /-- A misplaced point or separator, or a missing digit. -/
  | invalidNumber (reason : String)
  /-- A number that its type cannot hold. -/
  | numberOutOfRange (text : String)
  /-- A box that another character, or the end of the text, stands in the way of closing. -/
  | unclosedBox (found : Option Char)
  /-- A character after a complete program. -/
  | trailingInput (found : Char)
  /-- Boxes and assignments nested deeper than allowed. -/
  | maxDepthExceeded (depth maxDepth : Nat)
  deriving DecidableEq

/-- A reason together with its place. -/
structure Fault where
  kind : FaultKind
  span : Span
  deriving DecidableEq

/-- A fault together with the text it was found in. -/
structure ParseError extends Fault where
  source : String
  deriving DecidableEq

namespace FaultKind

def message : FaultKind → String
  | .unexpectedChar expected found => s!"Expected {expected}, got `{found}`"
  | .unexpectedEnd expected => s!"Expected {expected}, got end of input"
  | .unterminatedString => "Expected end of string, got end of input"
  | .invalidNumber reason => reason
  | .numberOutOfRange text => s!"Number `{text}` is out of range"
  | .unclosedBox (some found) => "Expected `\x7d` to end box, got " ++ s!"`{found}`"
  | .unclosedBox none => "Expected `\x7d` to end box, got end of input"
  | .trailingInput found => s!"Expected `;`, got `{found}`"
  | .maxDepthExceeded _ maxDepth =>
      s!"Expression nesting depth exceeds maximum of {maxDepth} levels"

/-- A short code for the family of faults. -/
def code : FaultKind → String
  | .unexpectedChar _ _ | .unexpectedEnd _ => "P001"
  | .unterminatedString => "P002"
  | .invalidNumber _ | .numberOutOfRange _ => "P003"
  | .unclosedBox _ => "P004"
  | .trailingInput _ => "P005"
  | .maxDepthExceeded _ _ => "P006"

/-- Advice on how to mend the text. -/
def help? : FaultKind → Option String
  | .unexpectedChar _ _ | .unexpectedEnd _ => none
  | .unterminatedString => some "Add the missing closing quote"
  | .invalidNumber _ | .numberOutOfRange _ => some "Check the number format"
  | .unclosedBox _ => some "Add the missing `\x7d`"
  | .trailingInput _ => some "Separate expressions with `;`"
  | .maxDepthExceeded _ _ => some "Reduce nesting or simplify the expression"

end FaultKind

end BoxLang
