import BoxLang.Machine.Call
import BoxLang.Machine.Error
import BoxLang.Machine.Stack

/-!
# Frames

A frame is an expression under evaluation.  It takes its steps phase by phase:
in each it may use the heap and the values left by other frames, have another
expression evaluated, or leave.  A frame that leaves has put one value on top of
those it found.
-/

namespace BoxLang.Machine

structure Frame where
  scope : BoxId
  expr : Expr
  /-- How many steps the frame has taken. -/
  phase : Nat
  /-- How many values there were when the frame was entered. -/
  baseline : Nat

/-- What happens to a frame after a step. -/
inductive Move
  /-- It goes on with its next phase. -/
  | advance
  /-- It goes on with its next phase after another expression. -/
  | enter (scope : BoxId) (expr : Expr)
  /-- It is done. -/
  | leave

/-- What a step does. A step that fails leaves the heap as it was. -/
structure Effect where
  heap : Heap
  values : Stack BoxId
  move : Except EvalError Move

namespace Effect

def next (heap : Heap) (values : Stack BoxId) (move : Move) : Effect :=
  ⟨heap, values, .ok move⟩

def fail (heap : Heap) (values : Stack BoxId) (error : EvalError) : Effect :=
  ⟨heap, values, .error error⟩

/-- Pushes a value and goes on. -/
def value (values : Stack BoxId) (result : Heap × BoxId) : Effect :=
  next result.1 (values.push result.2) .advance

/-- Pushes the value of a variable and goes on. -/
def lookup (heap : Heap) (values : Stack BoxId) (box : BoxId) (name : String) : Effect :=
  match heap.lookup? box name with
  | some found => next heap (values.push found) .advance
  | none => fail heap values (.variableNotFound name)

/-- Sets a variable, pushes its value and goes on. -/
def assign (heap : Heap) (values : Stack BoxId) (box : BoxId) (name : String)
    (assigned : BoxId) : Effect :=
  next (heap.setVariable box name assigned) (values.push assigned) .advance

/-- Takes the topmost value. -/
def withValue (heap : Heap) (values : Stack BoxId)
    (act : Heap → Stack BoxId → BoxId → Effect) : Effect :=
  match values.pop? with
  | some (value, values) => act heap values value
  | none => fail heap values (.internal "value stack underflow")

/-- Calls a box. -/
def call (heap : Heap) (values : Stack BoxId) (target argument : BoxId) : Effect :=
  match heap.resolve? target with
  | none => fail heap values .delegationCycle
  | some method =>
      match method.body with
      | none => fail heap values .notCallable
      | some body =>
          let (heap, scope) := heap.callScope target method argument
          next heap values (.enter scope body)

end Effect

namespace Frame

open Effect

/-- One step of a frame. -/
def step (frame : Frame) (heap : Heap) (values : Stack BoxId) : Effect :=
  let scope := frame.scope
  match frame.expr with
  | .sequence items =>
      match items[frame.phase]? with
      | some item => next heap (values.truncate frame.baseline) (.enter scope item)
      | none =>
          if items.isEmpty then next heap (values.push Kind.null.box) .leave
          else next heap values .leave
  | .get name =>
      match frame.phase with
      | 0 => lookup heap values scope name
      | _ => next heap values .leave
  | .getFrom target name =>
      match frame.phase with
      | 0 => next heap values (.enter scope target)
      | 1 => withValue heap values fun heap values target => lookup heap values target name
      | _ => next heap values .leave
  | .assign name value =>
      match frame.phase with
      | 0 => next heap values (.enter scope value)
      | 1 => withValue heap values fun heap values value => assign heap values scope name value
      | _ => next heap values .leave
  | .assignTo target name value =>
      match frame.phase with
      | 0 => next heap values (.enter scope target)
      | 1 => next heap values (.enter scope value)
      | 2 =>
          withValue heap values fun heap values value =>
            withValue heap values fun heap values target =>
              assign heap values target name value
      | _ => next heap values .leave
  | .call target argument =>
      match frame.phase with
      | 0 => next heap values (.enter scope target)
      | 1 => next heap values (.enter scope argument)
      | 2 =>
          withValue heap values fun heap values argument =>
            withValue heap values fun heap values target =>
              Effect.call heap values target argument
      | _ => next heap values .leave
  | .emptyBox =>
      match frame.phase with
      | 0 => value values heap.newBox
      | 1 => next heap (values.truncate (frame.baseline + 1)) .advance
      | _ => next heap values .leave
  | .box body =>
      match frame.phase with
      | 0 =>
          let (heap, child) := heap.newBox
          next heap (values.push child) (.enter child body)
      | 1 => next heap (values.truncate (frame.baseline + 1)) .advance
      | _ => next heap values .leave
  | .text bytes =>
      match frame.phase with
      | 0 => value values (heap.newValue (.string bytes))
      | _ => next heap values .leave
  | .integer number =>
      match frame.phase with
      | 0 => value values (heap.newValue (.integer number))
      | _ => next heap values .leave
  | .real number =>
      match frame.phase with
      | 0 => value values (heap.newValue (.real number))
      | _ => next heap values .leave
  | .external _ => fail heap values (.unsupported "external calls")

end Frame

end BoxLang.Machine
