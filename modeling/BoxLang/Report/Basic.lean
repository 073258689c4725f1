import BoxLang.Engine.Error
import BoxLang.Report.Snippet

/-!
# Reports

What a person is shown for an error of the engine.  The diagnostics of a
compilation are shown with snippets of the source text; other errors are one line.
-/

namespace BoxLang

namespace Diagnostic

open Report

def title (diagnostic : Diagnostic) : String :=
  match diagnostic.severity with
  | .error => "Error"
  | .warning => "Warning"
  | .info => "Advice"

def colour (diagnostic : Diagnostic) : Colour :=
  match diagnostic.severity with
  | .error => .red
  | .warning => .yellow
  | .info => .advice

/-- The code in brackets, at least two characters wide. -/
def bracketedCode (diagnostic : Diagnostic) : List Char :=
  match diagnostic.code with
  | none => []
  | some code =>
      ['['] ++ code.toList ++ List.replicate (2 - code.toList.length) ' ' ++ [']', ' ']

def header (diagnostic : Diagnostic) : Row :=
  [.painted diagnostic.colour
      (diagnostic.bracketedCode ++ diagnostic.title.toList ++ [':']),
    .plain (' ' :: diagnostic.message.toList)]

/-- The rows of a diagnostic. Offsets of its span count characters of the text. -/
def report (text : List Char) (diagnostic : Diagnostic) : List Row :=
  diagnostic.header ::
    match Snippet.ofSpan? text diagnostic.span with
    | none => []
    | some snippet =>
        let help :=
          match diagnostic.help with
          | none => []
          | some help => snippet.help help.toList
        snippet.top ++ snippet.body diagnostic.message.toList ++ help ++ [snippet.bottom]

end Diagnostic

namespace Error

/-- The rows of an error. -/
def report (error : Error) : List Report.Row :=
  match error with
  | .compilation diagnostics source =>
      diagnostics.flatMap (Diagnostic.report source.toList)
  | .runtime _ | .resourceExceeded _ | .unsupported _ => [[.plain error.message.toList]]

/-- The text of an error, with or without colours. -/
def render (coloured : Bool) (error : Error) : String :=
  Report.write coloured error.report

/-- Whether no diagnostic of an error has a span that ends before it starts. -/
def hasOrderedSpans : Error → Bool
  | .compilation diagnostics _ => diagnostics.all fun diagnostic => diagnostic.span.isOrdered
  | .runtime _ | .resourceExceeded _ | .unsupported _ => true

/-- The text of an error made by a host. There is none if a span cannot be
underlined because it ends before it starts. -/
def render? (coloured : Bool) (error : Error) : Option String :=
  if error.hasOrderedSpans then some (error.render coloured) else none

end Error

end BoxLang
