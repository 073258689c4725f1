import BoxLang.Machine.Basic

/-!
# Evaluation rules

What an expression evaluates to, said by recursion on the expression and without
steps, frames or limits.  An error of a part is the error of the whole, and the
heap is kept as the error left it.
-/

namespace BoxLang

/-- An expression, evaluated in a scope on a heap, ends with an outcome. -/
inductive Evaluates : Heap → BoxId → Expr → Outcome → Prop
  | sequenceNil {heap : Heap} {scope : BoxId} :
      Evaluates heap scope (.sequence []) ⟨.ok Kind.null.box, heap⟩
  | sequenceLast {heap : Heap} {scope : BoxId} {item : Expr} {outcome : Outcome} :
      Evaluates heap scope item outcome →
      Evaluates heap scope (.sequence [item]) outcome
  | sequenceCons {heap after : Heap} {scope value : BoxId} {item next : Expr}
      {rest : List Expr} {outcome : Outcome} :
      Evaluates heap scope item ⟨.ok value, after⟩ →
      Evaluates after scope (.sequence (next :: rest)) outcome →
      Evaluates heap scope (.sequence (item :: next :: rest)) outcome
  | sequenceError {heap after : Heap} {scope : BoxId} {item next : Expr}
      {rest : List Expr} {error : EvalError} :
      Evaluates heap scope item ⟨.error error, after⟩ →
      Evaluates heap scope (.sequence (item :: next :: rest)) ⟨.error error, after⟩
  | get {heap : Heap} {scope value : BoxId} {name : String} :
      heap.lookup? scope name = some value →
      Evaluates heap scope (.get name) ⟨.ok value, heap⟩
  | getMissing {heap : Heap} {scope : BoxId} {name : String} :
      heap.lookup? scope name = none →
      Evaluates heap scope (.get name) ⟨.error (.variableNotFound name), heap⟩
  | getFrom {heap after : Heap} {scope box value : BoxId} {target : Expr} {name : String} :
      Evaluates heap scope target ⟨.ok box, after⟩ →
      after.lookup? box name = some value →
      Evaluates heap scope (.getFrom target name) ⟨.ok value, after⟩
  | getFromMissing {heap after : Heap} {scope box : BoxId} {target : Expr} {name : String} :
      Evaluates heap scope target ⟨.ok box, after⟩ →
      after.lookup? box name = none →
      Evaluates heap scope (.getFrom target name) ⟨.error (.variableNotFound name), after⟩
  | getFromError {heap after : Heap} {scope : BoxId} {target : Expr} {name : String}
      {error : EvalError} :
      Evaluates heap scope target ⟨.error error, after⟩ →
      Evaluates heap scope (.getFrom target name) ⟨.error error, after⟩
  | assign {heap after : Heap} {scope box : BoxId} {name : String} {value : Expr} :
      Evaluates heap scope value ⟨.ok box, after⟩ →
      Evaluates heap scope (.assign name value) ⟨.ok box, after.setVariable scope name box⟩
  | assignError {heap after : Heap} {scope : BoxId} {name : String} {value : Expr}
      {error : EvalError} :
      Evaluates heap scope value ⟨.error error, after⟩ →
      Evaluates heap scope (.assign name value) ⟨.error error, after⟩
  | assignTo {heap middle after : Heap} {scope owner box : BoxId} {target value : Expr}
      {name : String} :
      Evaluates heap scope target ⟨.ok owner, middle⟩ →
      Evaluates middle scope value ⟨.ok box, after⟩ →
      Evaluates heap scope (.assignTo target name value)
        ⟨.ok box, after.setVariable owner name box⟩
  | assignToTargetError {heap after : Heap} {scope : BoxId} {target value : Expr}
      {name : String} {error : EvalError} :
      Evaluates heap scope target ⟨.error error, after⟩ →
      Evaluates heap scope (.assignTo target name value) ⟨.error error, after⟩
  | assignToValueError {heap middle after : Heap} {scope owner : BoxId}
      {target value : Expr} {name : String} {error : EvalError} :
      Evaluates heap scope target ⟨.ok owner, middle⟩ →
      Evaluates middle scope value ⟨.error error, after⟩ →
      Evaluates heap scope (.assignTo target name value) ⟨.error error, after⟩
  | call {heap middle after : Heap} {scope callee box : BoxId} {target argument body : Expr}
      {method : Method} {outcome : Outcome} :
      Evaluates heap scope target ⟨.ok callee, middle⟩ →
      Evaluates middle scope argument ⟨.ok box, after⟩ →
      after.resolve? callee = some method →
      method.body = some body →
      Evaluates (after.callScope callee method box).1 (after.callScope callee method box).2
        body outcome →
      Evaluates heap scope (.call target argument) outcome
  | callCycle {heap middle after : Heap} {scope callee box : BoxId}
      {target argument : Expr} :
      Evaluates heap scope target ⟨.ok callee, middle⟩ →
      Evaluates middle scope argument ⟨.ok box, after⟩ →
      after.resolve? callee = none →
      Evaluates heap scope (.call target argument) ⟨.error .delegationCycle, after⟩
  | callBodiless {heap middle after : Heap} {scope callee box : BoxId}
      {target argument : Expr} {method : Method} :
      Evaluates heap scope target ⟨.ok callee, middle⟩ →
      Evaluates middle scope argument ⟨.ok box, after⟩ →
      after.resolve? callee = some method →
      method.body = none →
      Evaluates heap scope (.call target argument) ⟨.error .notCallable, after⟩
  | callTargetError {heap after : Heap} {scope : BoxId} {target argument : Expr}
      {error : EvalError} :
      Evaluates heap scope target ⟨.error error, after⟩ →
      Evaluates heap scope (.call target argument) ⟨.error error, after⟩
  | callArgumentError {heap middle after : Heap} {scope callee : BoxId}
      {target argument : Expr} {error : EvalError} :
      Evaluates heap scope target ⟨.ok callee, middle⟩ →
      Evaluates middle scope argument ⟨.error error, after⟩ →
      Evaluates heap scope (.call target argument) ⟨.error error, after⟩
  | emptyBox {heap : Heap} {scope : BoxId} :
      Evaluates heap scope .emptyBox ⟨.ok heap.newBox.2, heap.newBox.1⟩
  | box {heap after : Heap} {scope value : BoxId} {body : Expr} :
      Evaluates heap.newBox.1 heap.newBox.2 body ⟨.ok value, after⟩ →
      Evaluates heap scope (.box body) ⟨.ok heap.newBox.2, after⟩
  | boxError {heap after : Heap} {scope : BoxId} {body : Expr} {error : EvalError} :
      Evaluates heap.newBox.1 heap.newBox.2 body ⟨.error error, after⟩ →
      Evaluates heap scope (.box body) ⟨.error error, after⟩
  | text {heap : Heap} {scope : BoxId} {bytes : List UInt8} :
      Evaluates heap scope (.text bytes)
        ⟨.ok (heap.newValue (.string bytes)).2, (heap.newValue (.string bytes)).1⟩
  | integer {heap : Heap} {scope : BoxId} {number : Int64} :
      Evaluates heap scope (.integer number)
        ⟨.ok (heap.newValue (.integer number)).2, (heap.newValue (.integer number)).1⟩
  | real {heap : Heap} {scope : BoxId} {number : Binary64} :
      Evaluates heap scope (.real number)
        ⟨.ok (heap.newValue (.real number)).2, (heap.newValue (.real number)).1⟩
  | external {heap : Heap} {scope : BoxId} {function : HostFunction} :
      Evaluates heap scope (.external function)
        ⟨.error (.unsupported "external calls"), heap⟩

namespace Evaluates

/-- An expression has at most one outcome. -/
theorem deterministic {heap : Heap} {scope : BoxId} {expr : Expr} {first second : Outcome}
    (evaluates : Evaluates heap scope expr first)
    (evaluates' : Evaluates heap scope expr second) : first = second := by
  induction evaluates generalizing second with
  | sequenceNil => cases evaluates'; rfl
  | sequenceLast _ item =>
      cases evaluates' with
      | sequenceLast item' => exact item item'
  | sequenceCons _ _ item rest =>
      cases evaluates' with
      | sequenceCons item' rest' => cases item item'; exact rest rest'
      | sequenceError item' => cases item item'
  | sequenceError _ item =>
      cases evaluates' with
      | sequenceCons item' _ => cases item item'
      | sequenceError item' => exact item item'
  | get found =>
      cases evaluates' with
      | get found' => cases found.symm.trans found'; rfl
      | getMissing missing' => cases found.symm.trans missing'
  | getMissing missing =>
      cases evaluates' with
      | get found' => cases missing.symm.trans found'
      | getMissing _ => rfl
  | getFrom _ found target =>
      cases evaluates' with
      | getFrom target' found' => cases target target'; cases found.symm.trans found'; rfl
      | getFromMissing target' missing' =>
          cases target target'; cases found.symm.trans missing'
      | getFromError target' => cases target target'
  | getFromMissing _ missing target =>
      cases evaluates' with
      | getFrom target' found' => cases target target'; cases missing.symm.trans found'
      | getFromMissing target' _ => cases target target'; rfl
      | getFromError target' => cases target target'
  | getFromError _ target =>
      cases evaluates' with
      | getFrom target' _ => cases target target'
      | getFromMissing target' _ => cases target target'
      | getFromError target' => exact target target'
  | assign _ value =>
      cases evaluates' with
      | assign value' => cases value value'; rfl
      | assignError value' => cases value value'
  | assignError _ value =>
      cases evaluates' with
      | assign value' => cases value value'
      | assignError value' => exact value value'
  | assignTo _ _ target value =>
      cases evaluates' with
      | assignTo target' value' => cases target target'; cases value value'; rfl
      | assignToTargetError target' => cases target target'
      | assignToValueError target' value' => cases target target'; cases value value'
  | assignToTargetError _ target =>
      cases evaluates' with
      | assignTo target' _ => cases target target'
      | assignToTargetError target' => exact target target'
      | assignToValueError target' _ => cases target target'
  | assignToValueError _ _ target value =>
      cases evaluates' with
      | assignTo target' value' => cases target target'; cases value value'
      | assignToTargetError target' => cases target target'
      | assignToValueError target' value' => cases target target'; exact value value'
  | call _ _ resolved bodied _ target argument body =>
      cases evaluates' with
      | call target' argument' resolved' bodied' body' =>
          cases target target'; cases argument argument'
          cases resolved.symm.trans resolved'; cases bodied.symm.trans bodied'
          exact body body'
      | callCycle target' argument' cyclic' =>
          cases target target'; cases argument argument'
          cases resolved.symm.trans cyclic'
      | callBodiless target' argument' resolved' bodiless' =>
          cases target target'; cases argument argument'
          cases resolved.symm.trans resolved'; cases bodied.symm.trans bodiless'
      | callTargetError target' => cases target target'
      | callArgumentError target' argument' =>
          cases target target'; cases argument argument'
  | callCycle _ _ cyclic target argument =>
      cases evaluates' with
      | call target' argument' resolved' _ _ =>
          cases target target'; cases argument argument'
          cases cyclic.symm.trans resolved'
      | callCycle target' argument' _ =>
          cases target target'; cases argument argument'; rfl
      | callBodiless target' argument' resolved' _ =>
          cases target target'; cases argument argument'
          cases cyclic.symm.trans resolved'
      | callTargetError target' => cases target target'
      | callArgumentError target' argument' =>
          cases target target'; cases argument argument'
  | callBodiless _ _ resolved bodiless target argument =>
      cases evaluates' with
      | call target' argument' resolved' bodied' _ =>
          cases target target'; cases argument argument'
          cases resolved.symm.trans resolved'; cases bodiless.symm.trans bodied'
      | callCycle target' argument' cyclic' =>
          cases target target'; cases argument argument'
          cases resolved.symm.trans cyclic'
      | callBodiless target' argument' _ _ =>
          cases target target'; cases argument argument'; rfl
      | callTargetError target' => cases target target'
      | callArgumentError target' argument' =>
          cases target target'; cases argument argument'
  | callTargetError _ target =>
      cases evaluates' with
      | call target' _ _ _ _ => cases target target'
      | callCycle target' _ _ => cases target target'
      | callBodiless target' _ _ _ => cases target target'
      | callTargetError target' => exact target target'
      | callArgumentError target' _ => cases target target'
  | callArgumentError _ _ target argument =>
      cases evaluates' with
      | call target' argument' _ _ _ => cases target target'; cases argument argument'
      | callCycle target' argument' _ => cases target target'; cases argument argument'
      | callBodiless target' argument' _ _ =>
          cases target target'; cases argument argument'
      | callTargetError target' => cases target target'
      | callArgumentError target' argument' =>
          cases target target'; exact argument argument'
  | emptyBox => cases evaluates'; rfl
  | box _ body =>
      cases evaluates' with
      | box body' => cases body body'; rfl
      | boxError body' => cases body body'
  | boxError _ body =>
      cases evaluates' with
      | box body' => cases body body'
      | boxError body' => exact body body'
  | text => cases evaluates'; rfl
  | integer => cases evaluates'; rfl
  | real => cases evaluates'; rfl
  | external => cases evaluates'; rfl

end Evaluates

end BoxLang
