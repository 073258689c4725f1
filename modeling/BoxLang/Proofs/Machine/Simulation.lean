import BoxLang.Machine.Semantics
import BoxLang.Proofs.Machine.Running

/-!
# The machine follows the evaluation rules

A frame entered on top of other frames and values is evaluated without touching
them: it ends with its value on top of theirs, or its error ends the run.  By
induction on the rules this holds whatever the expression calls.  Conversely, a
run that halts has evaluated every expression it entered, by induction on the
number of its steps.
-/

namespace BoxLang

open Machine

/-- The status in which an evaluation on top of values and frames ends. -/
def Outcome.resume (outcome : Outcome) (values : Stack BoxId) (frames : Stack Frame)
    (steps : Nat) : Status :=
  match outcome with
  | ⟨.ok value, heap⟩ => .running ⟨heap, values.push value, frames, steps⟩
  | ⟨.error error, heap⟩ => .fail heap error

namespace Machine

/-- A machine with the topmost frame `frame` goes on until that frame has left its
outcome on top of `base` and of the frames below. -/
def Settles (heap : Heap) (values : Stack BoxId) (frame : Frame) (base : Stack BoxId)
    (outcome : Outcome) : Prop :=
  ∀ (below : Stack Frame) (steps : Nat), ∃ count,
    (Status.running ⟨heap, values, below.push frame, steps⟩).run .unlimited count =
      outcome.resume base below (steps + count)

/-- What is left to evaluate of the topmost frame: all of its expression, or the
items of a sequence from its phase on, whatever the items before have left. -/
inductive Awaits (base : Stack BoxId) (scope : BoxId) :
    Frame → Stack BoxId → Expr → Prop
  | fresh {expr : Expr} : Awaits base scope ⟨scope, expr, 0, base.size⟩ base expr
  | rest {earlier : List Expr} {item : Expr} {items : List Expr} {values : Stack BoxId} :
      values.truncate base.size = base →
      Awaits base scope ⟨scope, .sequence (earlier ++ item :: items), earlier.length,
        base.size⟩ values (.sequence (item :: items))

theorem Awaits.sequence {base values : Stack BoxId} {scope : BoxId} {frame : Frame}
    {item : Expr} {items : List Expr}
    (awaits : Awaits base scope frame values (.sequence (item :: items))) :
    ∃ earlier, values.truncate base.size = base ∧
      frame = ⟨scope, .sequence (earlier ++ item :: items), earlier.length, base.size⟩ := by
  cases awaits with
  | fresh => exact ⟨[], Stack.truncate_size base, rfl⟩
  | rest truncated => exact ⟨_, truncated, rfl⟩

theorem Awaits.tail {base : Stack BoxId} {scope : BoxId} (earlier : List Expr)
    (item next : Expr) (items : List Expr) (value : BoxId) :
    Awaits base scope
      ⟨scope, .sequence (earlier ++ item :: next :: items), earlier.length + 1, base.size⟩
      (base.push value) (.sequence (next :: items)) := by
  have awaits := @Awaits.rest base scope (earlier ++ [item]) next items (base.push value)
    (Stack.truncate_push_size base value)
  simpa using awaits

theorem Frame.step_item {base values : Stack BoxId} {scope : BoxId} {earlier : List Expr}
    {item : Expr} {items : List Expr} (truncated : values.truncate base.size = base)
    (heap : Heap) :
    Frame.step ⟨scope, .sequence (earlier ++ item :: items), earlier.length, base.size⟩
      heap values = .next heap base (.enter scope item) := by
  simp [Frame.step, truncated]

namespace Effect

variable {heap : Heap} {box : BoxId} {name : String}

theorem lookup_of_some {found : BoxId} (stored : heap.lookup? box name = some found)
    (values : Stack BoxId) :
    lookup heap values box name = .next heap (values.push found) .advance := by
  simp [lookup, stored]

theorem lookup_of_none (missing : heap.lookup? box name = none) (values : Stack BoxId) :
    lookup heap values box name = .fail heap values (.variableNotFound name) := by
  simp [lookup, missing]

theorem call_of_body {method : Method} {body : Expr} (resolved : heap.resolve? box = some method)
    (bodied : method.body = some body) (values : Stack BoxId) (argument : BoxId) :
    call heap values box argument =
      .next (heap.callScope box method argument).1 values
        (.enter (heap.callScope box method argument).2 body) := by
  simp [call, resolved, bodied]

theorem call_of_cycle (cyclic : heap.resolve? box = none) (values : Stack BoxId)
    (argument : BoxId) : call heap values box argument = .fail heap values .delegationCycle := by
  simp [call, cyclic]

theorem call_of_bodiless {method : Method} (resolved : heap.resolve? box = some method)
    (bodiless : method.body = none) (values : Stack BoxId) (argument : BoxId) :
    call heap values box argument = .fail heap values .notCallable := by
  simp [call, resolved, bodiless]

end Effect

section Steps

variable {heap heap' after : Heap} {values values' base : Stack BoxId} {frame : Frame}
  {scope value : BoxId} {expr : Expr} {outcome : Outcome} {error : EvalError}

theorem run_succ_push (below : Stack Frame) (steps count : Nat) :
    (Status.running ⟨heap, values, below.push frame, steps⟩).run .unlimited (count + 1) =
      (follow .unlimited frame below (steps + 1) (frame.step heap values)).run
        .unlimited count := by
  rw [← next_push rfl]
  rfl

theorem Settles.fail (stepped : frame.step heap values = .fail heap' values' error) :
    Settles heap values frame base ⟨.error error, heap'⟩ := by
  intro below steps
  refine ⟨1, ?_⟩
  rw [run_succ_push, stepped]
  rfl

theorem Settles.leave (stepped : frame.step heap values = .next heap' (base.push value) .leave) :
    Settles heap values frame base ⟨.ok value, heap'⟩ := by
  intro below steps
  refine ⟨1, ?_⟩
  rw [run_succ_push, stepped]
  rfl

theorem Settles.advance (stepped : frame.step heap values = .next heap' values' .advance)
    (settles : Settles heap' values' { frame with phase := frame.phase + 1 } base outcome) :
    Settles heap values frame base outcome := by
  intro below steps
  obtain ⟨count, ran⟩ := settles below (steps + 1)
  refine ⟨count + 1, ?_⟩
  rw [run_succ_push, stepped, ← Nat.add_assoc, Nat.add_right_comm]
  exact ran

/-- The frame entered by a step is evaluated first. -/
theorem exists_run_of_enter
    (stepped : frame.step heap values = .next heap' values' (.enter scope expr))
    (entered : Settles heap' values' ⟨scope, expr, 0, values'.size⟩ values' outcome)
    (below : Stack Frame) (steps : Nat) :
    ∃ count, (Status.running ⟨heap, values, below.push frame, steps⟩).run .unlimited count =
      outcome.resume values' (below.push { frame with phase := frame.phase + 1 })
        (steps + count) := by
  obtain ⟨count, ran⟩ := entered (below.push { frame with phase := frame.phase + 1 }) (steps + 1)
  refine ⟨count + 1, ?_⟩
  rw [run_succ_push, stepped, ← Nat.add_assoc, Nat.add_right_comm]
  exact ran

theorem Settles.enterError
    (stepped : frame.step heap values = .next heap' values' (.enter scope expr))
    (entered : Settles heap' values' ⟨scope, expr, 0, values'.size⟩ values'
      ⟨.error error, after⟩) :
    Settles heap values frame base ⟨.error error, after⟩ := by
  intro below steps
  exact exists_run_of_enter stepped entered below steps

theorem Settles.enter
    (stepped : frame.step heap values = .next heap' values' (.enter scope expr))
    (entered : Settles heap' values' ⟨scope, expr, 0, values'.size⟩ values'
      ⟨.ok value, after⟩)
    (settles : Settles after (values'.push value) { frame with phase := frame.phase + 1 }
      base outcome) :
    Settles heap values frame base outcome := by
  intro below steps
  obtain ⟨first, ranFirst⟩ := exists_run_of_enter stepped entered below steps
  obtain ⟨second, ranSecond⟩ := settles below (steps + first)
  refine ⟨first + second, ?_⟩
  rw [Status.run_add, ranFirst, ← Nat.add_assoc]
  exact ranSecond

/-- A frame that leaves after the one it entered has the outcome of that one. -/
theorem Settles.enterLast
    (stepped : frame.step heap values = .next heap' base (.enter scope expr))
    (entered : Settles heap' base ⟨scope, expr, 0, base.size⟩ base outcome)
    (leaves : ∀ (heap : Heap) (values : Stack BoxId),
      { frame with phase := frame.phase + 1 }.step heap values = .next heap values .leave) :
    Settles heap values frame base outcome := by
  obtain ⟨result, after⟩ := outcome
  cases result with
  | error error => exact .enterError stepped entered
  | ok value => exact .enter stepped entered (.leave (leaves after (base.push value)))

end Steps

end Machine

/-- The topmost frame settles with the outcome that the rules give for what is left
to evaluate of it. -/
theorem Evaluates.settles {heap : Heap} {scope : BoxId} {expr : Expr} {outcome : Outcome}
    (evaluates : Evaluates heap scope expr outcome) {frame : Frame}
    {values base : Stack BoxId} (awaits : Awaits base scope frame values expr) :
    Settles heap values frame base outcome := by
  induction evaluates generalizing frame values base with
  | sequenceNil =>
      cases awaits
      exact .leave rfl
  | sequenceLast _ item =>
      obtain ⟨earlier, truncated, rfl⟩ := awaits.sequence
      refine .enterLast (Frame.step_item truncated _) (item .fresh) ?_
      intro heap values
      simp [Frame.step]
  | sequenceCons _ _ item rest =>
      obtain ⟨earlier, truncated, rfl⟩ := awaits.sequence
      exact .enter (Frame.step_item truncated _) (item .fresh) (rest (.tail earlier _ _ _ _))
  | sequenceError _ item =>
      obtain ⟨earlier, truncated, rfl⟩ := awaits.sequence
      exact .enterError (Frame.step_item truncated _) (item .fresh)
  | get found =>
      cases awaits
      exact .advance (Effect.lookup_of_some found _) (.leave rfl)
  | getMissing missing =>
      cases awaits
      exact .fail (Effect.lookup_of_none missing _)
  | getFrom _ found target =>
      cases awaits
      exact .enter rfl (target .fresh) (.advance (Effect.lookup_of_some found _) (.leave rfl))
  | getFromMissing _ missing target =>
      cases awaits
      exact .enter rfl (target .fresh) (.fail (Effect.lookup_of_none missing _))
  | getFromError _ target =>
      cases awaits
      exact .enterError rfl (target .fresh)
  | assign _ value =>
      cases awaits
      exact .enter rfl (value .fresh) (.advance rfl (.leave rfl))
  | assignError _ value =>
      cases awaits
      exact .enterError rfl (value .fresh)
  | assignTo _ _ target value =>
      cases awaits
      exact .enter rfl (target .fresh) (.enter rfl (value .fresh) (.advance rfl (.leave rfl)))
  | assignToTargetError _ target =>
      cases awaits
      exact .enterError rfl (target .fresh)
  | assignToValueError _ _ target value =>
      cases awaits
      exact .enter rfl (target .fresh) (.enterError rfl (value .fresh))
  | call _ _ resolved bodied _ target argument body =>
      cases awaits
      refine .enter rfl (target .fresh) (.enter rfl (argument .fresh) ?_)
      exact .enterLast (Effect.call_of_body resolved bodied _ _) (body .fresh) fun _ _ => rfl
  | callCycle _ _ cyclic target argument =>
      cases awaits
      refine .enter rfl (target .fresh) (.enter rfl (argument .fresh) ?_)
      exact .fail (Effect.call_of_cycle cyclic _ _)
  | callBodiless _ _ resolved bodiless target argument =>
      cases awaits
      refine .enter rfl (target .fresh) (.enter rfl (argument .fresh) ?_)
      exact .fail (Effect.call_of_bodiless resolved bodiless _ _)
  | callTargetError _ target =>
      cases awaits
      exact .enterError rfl (target .fresh)
  | callArgumentError _ _ target argument =>
      cases awaits
      exact .enter rfl (target .fresh) (.enterError rfl (argument .fresh))
  | @emptyBox heap _ =>
      cases awaits
      have kept := Stack.truncate_size (values.push heap.newBox.2)
      exact .advance rfl (.advance (congrArg (Effect.next _ · .advance) kept) (.leave rfl))
  | @box heap after _ value _ _ body =>
      cases awaits
      have dropped := Stack.truncate_push_size (values.push heap.newBox.2) value
      exact .enter rfl (body .fresh)
        (.advance (congrArg (Effect.next after · .advance) dropped) (.leave rfl))
  | boxError _ body =>
      cases awaits
      exact .enterError rfl (body .fresh)
  | text | integer | real =>
      cases awaits
      exact .advance rfl (.leave rfl)
  | external =>
      cases awaits
      exact .fail rfl

section Halting

variable {heap heap' after : Heap} {values values' base : Stack BoxId} {frame : Frame}
  {below : Stack Frame} {scope value : BoxId} {expr : Expr} {steps count : Nat}

theorem Machine.haltsWithin_enter
    (halts : (Status.running ⟨heap, values, below.push frame, steps⟩).HaltsWithin
      .unlimited count)
    (stepped : frame.step heap values = .next heap' values' (.enter scope expr)) :
    ∃ less < count, (Status.running ⟨heap', values',
      (below.push { frame with phase := frame.phase + 1 }).push ⟨scope, expr, 0, values'.size⟩,
      steps + 1⟩).HaltsWithin .unlimited less := by
  obtain ⟨less, smaller, halts⟩ := halts.next
  rw [next_push rfl, stepped] at halts
  exact ⟨less, smaller, halts⟩

theorem Evaluates.haltsWithin_resume (evaluates : Evaluates heap scope expr ⟨.ok value, after⟩)
    (halts : (Status.running ⟨heap, values, below.push ⟨scope, expr, 0, values.size⟩,
      steps⟩).HaltsWithin .unlimited count) :
    ∃ steps, (Status.running ⟨after, values.push value, below, steps⟩).HaltsWithin
      .unlimited count := by
  obtain ⟨first, ran⟩ := evaluates.settles .fresh below steps
  refine ⟨steps + first, ?_⟩
  have resumed := halts.run first
  rw [ran] at resumed
  exact resumed

/-- What is left to evaluate of the topmost frame has an outcome if the run halts. -/
theorem exists_evaluates_of_haltsWithin (awaits : Awaits base scope frame values expr)
    (halts : (Status.running ⟨heap, values, below.push frame, steps⟩).HaltsWithin
      .unlimited count) :
    ∃ outcome, Evaluates heap scope expr outcome := by
  induction count using Nat.strongRecOn
    generalizing heap values frame base below steps scope expr with
  | _ count inductionHypothesis =>
  cases expr with
  | sequence items =>
      cases items with
      | nil => exact ⟨_, .sequenceNil⟩
      | cons item items =>
          obtain ⟨earlier, truncated, rfl⟩ := awaits.sequence
          obtain ⟨less, smaller, halts⟩ := haltsWithin_enter halts (Frame.step_item truncated _)
          obtain ⟨⟨result, after⟩, evaluates⟩ := inductionHypothesis less smaller .fresh halts
          cases items with
          | nil => exact ⟨_, .sequenceLast evaluates⟩
          | cons next items =>
              cases result with
              | error error => exact ⟨_, .sequenceError evaluates⟩
              | ok value =>
                  obtain ⟨_, halts⟩ := evaluates.haltsWithin_resume halts
                  obtain ⟨outcome, rest⟩ :=
                    inductionHypothesis less smaller (.tail earlier _ _ _ _) halts
                  exact ⟨outcome, .sequenceCons evaluates rest⟩
  | get name =>
      cases found : heap.lookup? scope name with
      | none => exact ⟨_, .getMissing found⟩
      | some value => exact ⟨_, .get found⟩
  | getFrom target name =>
      cases awaits
      obtain ⟨less, smaller, halts⟩ := haltsWithin_enter halts rfl
      obtain ⟨⟨result, after⟩, evaluates⟩ := inductionHypothesis less smaller .fresh halts
      cases result with
      | error error => exact ⟨_, .getFromError evaluates⟩
      | ok box =>
          cases found : after.lookup? box name with
          | none => exact ⟨_, .getFromMissing evaluates found⟩
          | some value => exact ⟨_, .getFrom evaluates found⟩
  | assign name value =>
      cases awaits
      obtain ⟨less, smaller, halts⟩ := haltsWithin_enter halts rfl
      obtain ⟨⟨result, after⟩, evaluates⟩ := inductionHypothesis less smaller .fresh halts
      cases result with
      | error error => exact ⟨_, .assignError evaluates⟩
      | ok box => exact ⟨_, .assign evaluates⟩
  | assignTo target name value =>
      cases awaits
      obtain ⟨less, smaller, halts⟩ := haltsWithin_enter halts rfl
      obtain ⟨⟨result, middle⟩, targetEvaluates⟩ :=
        inductionHypothesis less smaller .fresh halts
      cases result with
      | error error => exact ⟨_, .assignToTargetError targetEvaluates⟩
      | ok owner =>
          obtain ⟨_, halts⟩ := targetEvaluates.haltsWithin_resume halts
          obtain ⟨less', smaller', halts⟩ := haltsWithin_enter halts rfl
          obtain ⟨⟨result, after⟩, evaluates⟩ :=
            inductionHypothesis less' (Nat.lt_trans smaller' smaller) .fresh halts
          cases result with
          | error error => exact ⟨_, .assignToValueError targetEvaluates evaluates⟩
          | ok box => exact ⟨_, .assignTo targetEvaluates evaluates⟩
  | call target argument =>
      cases awaits
      obtain ⟨less, smaller, halts⟩ := haltsWithin_enter halts rfl
      obtain ⟨⟨result, middle⟩, targetEvaluates⟩ :=
        inductionHypothesis less smaller .fresh halts
      cases result with
      | error error => exact ⟨_, .callTargetError targetEvaluates⟩
      | ok callee =>
          obtain ⟨_, halts⟩ := targetEvaluates.haltsWithin_resume halts
          obtain ⟨less', smaller', halts⟩ := haltsWithin_enter halts rfl
          obtain ⟨⟨result, after⟩, evaluates⟩ :=
            inductionHypothesis less' (Nat.lt_trans smaller' smaller) .fresh halts
          cases result with
          | error error => exact ⟨_, .callArgumentError targetEvaluates evaluates⟩
          | ok box =>
              cases resolved : after.resolve? callee with
              | none => exact ⟨_, .callCycle targetEvaluates evaluates resolved⟩
              | some method =>
                  cases bodied : method.body with
                  | none => exact ⟨_, .callBodiless targetEvaluates evaluates resolved bodied⟩
                  | some body =>
                      obtain ⟨_, halts⟩ := evaluates.haltsWithin_resume halts
                      obtain ⟨less'', smaller'', halts⟩ :=
                        haltsWithin_enter halts (Effect.call_of_body resolved bodied _ _)
                      obtain ⟨outcome, bodyEvaluates⟩ := inductionHypothesis less''
                        (Nat.lt_trans smaller'' (Nat.lt_trans smaller' smaller)) .fresh halts
                      exact ⟨outcome, .call targetEvaluates evaluates resolved bodied bodyEvaluates⟩
  | emptyBox => exact ⟨_, .emptyBox⟩
  | box body =>
      cases awaits
      obtain ⟨less, smaller, halts⟩ := haltsWithin_enter halts rfl
      obtain ⟨⟨result, after⟩, evaluates⟩ := inductionHypothesis less smaller .fresh halts
      cases result with
      | error error => exact ⟨_, .boxError evaluates⟩
      | ok value => exact ⟨_, .box evaluates⟩
  | text bytes => exact ⟨_, .text⟩
  | integer value => exact ⟨_, .integer⟩
  | real value => exact ⟨_, .real⟩
  | external function => exact ⟨_, .external⟩

end Halting

section Whole

variable {heap : Heap} {scope : BoxId} {expr : Expr} {outcome : Outcome}

theorem Evaluates.haltsWith (evaluates : Evaluates heap scope expr outcome) :
    HaltsWith .unlimited heap scope expr outcome := by
  let sentinel : Stack BoxId := Stack.empty.push Kind.null.box
  have settled : Settles heap sentinel ⟨scope, expr, 0, sentinel.size⟩ sentinel outcome :=
    evaluates.settles .fresh
  obtain ⟨count, ran⟩ := settled .empty 0
  obtain ⟨result, after⟩ := outcome
  cases result with
  | error error => exact ⟨count, ran⟩
  | ok value =>
      -- The frame has left; one more step finds that none is there.
      refine ⟨count + 1, ?_⟩
      exact Status.run_succ_of_running ran

theorem Machine.HaltsWith.evaluates (halts : HaltsWith .unlimited heap scope expr outcome) :
    Evaluates heap scope expr outcome := by
  obtain ⟨count, ran⟩ := halts
  have halted : (start .unlimited heap scope expr).HaltsWithin .unlimited count :=
    ⟨outcome, ran⟩
  obtain ⟨outcome', evaluates⟩ := exists_evaluates_of_haltsWithin .fresh halted
  have same := evaluates.haltsWith.unique ⟨count, ran⟩
  subst same
  exact evaluates

/-- The machine without limits ends an evaluation exactly as the rules say, and runs
forever exactly when the rules give no outcome. -/
theorem evaluate_unlimited_iff (heap : Heap) (scope : BoxId) (expr : Expr) :
    (∀ outcome, HaltsWith .unlimited heap scope expr outcome ↔
      Evaluates heap scope expr outcome) ∧
    ((∀ count, ∃ machine, evaluate .unlimited count heap scope expr = .running machine) ↔
      ∀ outcome, ¬Evaluates heap scope expr outcome) := by
  refine ⟨fun outcome => ⟨HaltsWith.evaluates, Evaluates.haltsWith⟩, ?_⟩
  constructor
  · intro runs outcome evaluates
    obtain ⟨count, halted⟩ := evaluates.haltsWith
    obtain ⟨machine, running⟩ := runs count
    cases halted.symm.trans running
  · intro none count
    cases ran : evaluate .unlimited count heap scope expr with
    | running machine => exact ⟨machine, rfl⟩
    | halted outcome => exact absurd (HaltsWith.evaluates ⟨count, ran⟩) (none outcome)

end Whole

end BoxLang
