import BoxLang.Engine.Error
import BoxLang.Expr.Cost
import BoxLang.Machine.Basic
import BoxLang.Reader.Basic

/-!
# The engine

An engine compiles source texts to programs and runs programs in a scope, within
the bounds it was given.
-/

namespace BoxLang

structure Engine where
  /-- How deeply boxes and assignments may nest in a source text. -/
  maxDepth : Nat
  /-- The bounds on each run. -/
  limits : Limits
  deriving DecidableEq

/-- A source text with the tree it reads as. -/
structure Program where
  source : String
  expr : Expr
  isRead : ∃ maxDepth, parseWithin maxDepth source = .ok expr

namespace Engine

def standard : Engine :=
  ⟨defaultMaxDepth, .unlimited⟩

/-- Compiles a source text whose nesting is bounded by `maxDepth`. -/
def compileWithin (maxDepth : Nat) (source : String) : Except Error Program :=
  match read : parseWithin maxDepth source with
  | .ok expr => .ok ⟨source, expr, maxDepth, read⟩
  | .error error => .error (.ofParseError error)

def compile (engine : Engine) (source : String) : Except Error Program :=
  compileWithin engine.maxDepth source

/-- Runs a program in a scope. A program holds no calls, so its run takes no more
steps than its tree costs, and one more finds that it has ended. -/
def runIn (engine : Engine) (heap : Heap) (scope : BoxId) (program : Program) :
    Heap × Except Error BoxId :=
  let allotted := program.expr.cost + 1
  let outcome :=
    (Machine.evaluate engine.limits allotted heap scope program.expr).settle allotted
  (outcome.heap, outcome.result.mapError .ofEvalError)

/-- Runs a program in a new, empty box. -/
def run (engine : Engine) (heap : Heap) (program : Program) : Heap × Except Error BoxId :=
  let (heap, scope) := heap.newBox
  engine.runIn heap scope program

/-- Compiles a source text and runs it in a new, empty box. -/
def runSource (engine : Engine) (heap : Heap) (source : String) : Heap × Except Error BoxId :=
  match engine.compile source with
  | .ok program => engine.run heap program
  | .error error => (heap, .error error)

/-- Compiles a source text and runs it in a scope. -/
def execute (engine : Engine) (heap : Heap) (scope : BoxId) (source : String) :
    Heap × Except Error BoxId :=
  match engine.compile source with
  | .ok program => engine.runIn heap scope program
  | .error error => (heap, .error error)

end Engine

end BoxLang
