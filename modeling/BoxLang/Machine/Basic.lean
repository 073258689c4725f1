import BoxLang.Machine.Frame

/-!
# The machine

An evaluation is a stack of frames over a heap and a stack of values.  Each step
of the machine is a step of the topmost frame.  An evaluation never nests on the
stack of the host, and it may be given limits on its steps and on its frames.
-/

namespace BoxLang

/-- Bounds on an evaluation, where `none` is no bound. -/
structure Limits where
  maxFrames : Option Nat
  maxSteps : Option Nat
  deriving DecidableEq

/-- How an evaluation ends: with a value or an error, and with a heap in any case. -/
structure Outcome where
  result : Except EvalError BoxId
  heap : Heap

/-- An evaluation under way. -/
structure Machine where
  heap : Heap
  values : Stack BoxId
  frames : Stack Machine.Frame
  /-- The number of steps taken. -/
  steps : Nat

namespace Limits

def unlimited : Limits :=
  ⟨none, none⟩

/-- The limit that forbids a frame above `count` others. -/
def fullAt? (limits : Limits) (count : Nat) : Option Nat :=
  limits.maxFrames.filter (· ≤ count)

/-- The limit that forbids a step after `count` others. -/
def spentAt? (limits : Limits) (count : Nat) : Option Nat :=
  limits.maxSteps.filter (· ≤ count)

end Limits

namespace Machine

inductive Status
  | running (machine : Machine)
  | halted (outcome : Outcome)

def Status.fail (heap : Heap) (error : EvalError) : Status :=
  .halted ⟨.error error, heap⟩

/-- Enters an expression, unless there are too many frames. -/
def enter (limits : Limits) (machine : Machine) (scope : BoxId) (expr : Expr) : Status :=
  match machine with
  | ⟨heap, values, frames, steps⟩ =>
      match limits.fullAt? frames.size with
      | some maxFrames => .fail heap (.frameLimit maxFrames)
      | none => .running ⟨heap, values, frames.push ⟨scope, expr, 0, values.size⟩, steps⟩

/-- The machine that is about to evaluate an expression in a scope. The Null box
at the bottom of the values is the result if nothing else is left there. -/
def start (limits : Limits) (heap : Heap) (scope : BoxId) (expr : Expr) : Status :=
  enter limits ⟨heap, Stack.empty.push Kind.null.box, .empty, 0⟩ scope expr

/-- The end of an evaluation. -/
def halt (heap : Heap) (values : Stack BoxId) : Status :=
  match values.pop? with
  | some (value, _) => .halted ⟨.ok value, heap⟩
  | none => .fail heap (.internal "value stack empty at end of evaluation")

/-- Carries out what a step of the frame on top of `below` did. -/
def follow (limits : Limits) (frame : Frame) (below : Stack Frame) (steps : Nat)
    (effect : Effect) : Status :=
  match effect with
  | ⟨heap, _, .error error⟩ => .fail heap error
  | ⟨heap, values, .ok .advance⟩ =>
      .running ⟨heap, values, below.push { frame with phase := frame.phase + 1 }, steps⟩
  | ⟨heap, values, .ok (.enter scope expr)⟩ =>
      enter limits
        ⟨heap, values, below.push { frame with phase := frame.phase + 1 }, steps⟩ scope expr
  | ⟨heap, values, .ok .leave⟩ => .running ⟨heap, values, below, steps⟩

/-- One step of the machine. -/
def next (limits : Limits) (machine : Machine) : Status :=
  match machine with
  | ⟨heap, values, frames, steps⟩ =>
      match frames.pop? with
      | none => halt heap values
      | some (frame, below) =>
          match limits.spentAt? steps with
          | some maxSteps => .fail heap (.stepLimit maxSteps)
          | none => follow limits frame below (steps + 1) (frame.step heap values)

namespace Status

/-- The status after a number of steps. -/
def run (limits : Limits) : Nat → Status → Status
  | 0, status => status
  | _ + 1, .halted outcome => .halted outcome
  | count + 1, .running machine => run limits count (machine.next limits)

/-- The outcome of an evaluation that is given up if it has not halted, as if the
steps allotted to it were a limit. -/
def settle (allotted : Nat) : Status → Outcome
  | .halted outcome => outcome
  | .running machine => ⟨.error (.stepLimit allotted), machine.heap⟩

theorem run_halted (limits : Limits) (count : Nat) (outcome : Outcome) :
    (halted outcome).run limits count = .halted outcome := by
  cases count <;> rfl

theorem run_add (limits : Limits) (first second : Nat) (status : Status) :
    status.run limits (first + second) = (status.run limits first).run limits second := by
  induction first generalizing status with
  | zero => simp [run]
  | succ count inductionHypothesis =>
      rw [Nat.add_right_comm]
      cases status with
      | halted outcome => simp [run_halted]
      | running machine => exact inductionHypothesis (machine.next limits)

end Status

/-- Evaluates an expression in a scope for at most `count` steps. -/
def evaluate (limits : Limits) (count : Nat) (heap : Heap) (scope : BoxId) (expr : Expr) :
    Status :=
  (start limits heap scope expr).run limits count

/-- An evaluation halts with an outcome. -/
def HaltsWith (limits : Limits) (heap : Heap) (scope : BoxId) (expr : Expr)
    (outcome : Outcome) : Prop :=
  ∃ count, evaluate limits count heap scope expr = .halted outcome

end Machine

end BoxLang
