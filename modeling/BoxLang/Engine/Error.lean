import BoxLang.Machine.Error
import BoxLang.Reader.Fault

/-!
# Errors of the engine

What a host is told when a program cannot be compiled or run.
-/

namespace BoxLang

inductive Severity
  | error
  | warning
  | info
  deriving DecidableEq

/-- A message about a place in a source text. -/
structure Diagnostic where
  severity : Severity
  message : String
  span : Span
  help : Option String
  code : Option String
  deriving DecidableEq

inductive Error
  /-- The text is not a program. The text is kept for reports. -/
  | compilation (diagnostics : List Diagnostic) (source : String)
  | runtime (message : String)
  | resourceExceeded (message : String)
  | unsupported (feature : String)
  deriving DecidableEq

namespace Severity

def name : Severity → String
  | error => "error"
  | warning => "warning"
  | info => "info"

end Severity

namespace ParseError

def diagnostic (error : ParseError) : Diagnostic where
  severity := .error
  message := error.kind.message
  span := error.span
  help := error.kind.help?
  code := some error.kind.code

end ParseError

namespace Error

def ofParseError (error : ParseError) : Error :=
  .compilation [error.diagnostic] error.source

def ofEvalError (error : EvalError) : Error :=
  match error with
  | .frameLimit _ | .stepLimit _ => .resourceExceeded error.message
  | .unsupported feature => .unsupported feature
  | .variableNotFound _ | .notCallable | .delegationCycle | .internal _ =>
      .runtime error.message

/-- The number of diagnostics that are errors. -/
def errorCount (diagnostics : List Diagnostic) : Nat :=
  diagnostics.countP fun diagnostic => diagnostic.severity = .error

def message : Error → String
  | .compilation diagnostics _ =>
      s!"Compilation failed with {errorCount diagnostics} error(s)"
  | .runtime message => s!"Runtime error: {message}"
  | .resourceExceeded message => s!"Resource limit exceeded: {message}"
  | .unsupported feature => s!"Unsupported: {feature}"

end Error

end BoxLang
