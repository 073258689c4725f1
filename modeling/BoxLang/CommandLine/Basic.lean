import BoxLang.CommandLine.Arguments
import BoxLang.Engine.Basic
import BoxLang.Heap.Show
import BoxLang.Report.Basic

/-!
# The command

Runs the program given as an argument or in a file, or else every line of the
standard input as a program of its own, all in one scope.
-/

namespace BoxLang.CommandLine

/-- What a command writes and the code it exits with. -/
structure Output where
  exitCode : UInt8
  standardOutput : String
  standardError : String

/-- The state between programs. -/
structure Session where
  heap : Heap
  scope : BoxId
  standardOutput : String
  standardError : String

namespace Session

def initial : Session :=
  let (heap, scope) := Heap.initial.newBox
  ⟨heap, scope, "", ""⟩

def print (session : Session) (line : String) : Session :=
  { session with standardOutput := session.standardOutput ++ line ++ "\n" }

def report (session : Session) (error : Error) : Session :=
  { session with standardError := session.standardError ++ error.render true }

def exit (session : Session) (exitCode : UInt8) : Output :=
  ⟨exitCode, session.standardOutput, session.standardError⟩

end Session

namespace Arguments

def engine (arguments : Arguments) : Engine :=
  ⟨defaultMaxDepth, ⟨.none, arguments.maxSteps⟩⟩

/-- Shows the tree of a program if that is asked for. -/
def showTree (arguments : Arguments) (program : Program) (session : Session) : Session :=
  if arguments.debugParse then
    ((session.print "=== Parsed Expression ===").print program.expr.outline.indented).print ""
  else session

/-- Runs one program, and tells whether it succeeded. -/
def interpret (arguments : Arguments) (session : Session) (source : String) :
    Session × Bool :=
  match arguments.engine.compile source with
  | .error error => (session.report error, false)
  | .ok program =>
      match arguments.showTree program session with
      | ⟨heap, scope, standardOutput, standardError⟩ =>
          match arguments.engine.runIn heap scope program with
          | (heap, .ok value) =>
              let shown := heap.display value
              (Session.print ⟨heap, scope, standardOutput, standardError⟩ shown, true)
          | (heap, .error error) =>
              (Session.report ⟨heap, scope, standardOutput, standardError⟩ error, false)

/-- Runs a single program. -/
def runProgram (arguments : Arguments) (source : String) : Output :=
  match arguments.interpret .initial source with
  | (session, true) => session.exit 0
  | (session, false) => session.exit 1

/-- Runs lines as programs, except blank ones, until one is not UTF-8. -/
def runLines (arguments : Arguments) (session : Session) : List (List UInt8) → Output
  | [] => session.exit 0
  | line :: rest =>
      match String.fromUTF8? ⟨line.toArray⟩ with
      | .none =>
          { session with
            standardError := session.standardError ++ "Error reading line from stdin\n" }.exit 1
      | some source =>
          if isBlank source.toList then arguments.runLines session rest
          else arguments.runLines (arguments.interpret session source).1 rest

/-- Runs what the arguments ask for, given a way to read files as text and the
bytes of the standard input. -/
def run (arguments : Arguments) (readFile : String → Option String)
    (standardInput : List UInt8) : Output :=
  match arguments.expression, arguments.file with
  | some source, _ => arguments.runProgram source
  | .none, some path =>
      match readFile path with
      | some source => arguments.runProgram source
      | .none => ⟨1, "", "Failed to read " ++ path ++ "\n"⟩
  | .none, .none => arguments.runLines .initial (splitLines 10 13 standardInput)

end Arguments

/-- How the command is used. -/
def synopsis : String :=
  "Usage: [--debug-parse] [--max-steps COUNT] [--file PATH | EXPRESSION]\n"

namespace Refusal

def output : Refusal → Output
  | help => ⟨0, synopsis, ""⟩
  | usage => ⟨2, "", synopsis⟩

end Refusal

/-- Runs a command line. -/
def respond (words : List String) (readFile : String → Option String)
    (standardInput : List UInt8) : Output :=
  match Arguments.ofWords words with
  | .ok arguments => arguments.run readFile standardInput
  | .error refusal => refusal.output

end BoxLang.CommandLine
