import BoxLang.Proofs.Machine.Cost
import BoxLang.Proofs.Machine.Discipline

/-!
# The extent of evaluations that succeed

An evaluation of a tree without calls that succeeds has visited every part of the tree, so
nothing of the cost is left to its frames, and it has been at the deepest leaf with one frame
for each node above it.  The cost and the height of a tree are then the exact limits that it
needs.
-/

namespace BoxLang

open Machine Limits

namespace Machine

/-- A machine with the topmost frame `frame` comes to have `height` frames, this one
included, on top of those below. -/
def Climbs (heap : Heap) (values : Stack BoxId) (frame : Frame) (height : Nat) : Prop :=
  ∀ (below : Stack Frame) (steps : Nat), ∃ count machine,
    (Status.running ⟨heap, values, below.push frame, steps⟩).run .unlimited count =
      .running machine ∧ machine.frames.size = below.size + height

section Climbing

variable {heap heap' after : Heap} {values values' : Stack BoxId} {frame : Frame}
  {scope value : BoxId} {expr : Expr} {height rest : Nat}

theorem Climbs.here : Climbs heap values frame 1 := by
  intro below steps
  exact ⟨0, _, rfl, rfl⟩

theorem Climbs.enter
    (stepped : frame.step heap values = .next heap' values' (.enter scope expr))
    (climbs : Climbs heap' values' ⟨scope, expr, 0, values'.size⟩ height) :
    Climbs heap values frame (height + 1) := by
  intro below steps
  obtain ⟨count, machine, ran, size_eq⟩ :=
    climbs (below.push { frame with phase := frame.phase + 1 }) (steps + 1)
  refine ⟨count + 1, machine, ?_, ?_⟩
  · rw [run_succ_push, stepped]
    exact ran
  · rw [size_eq, Stack.size_push, Nat.add_assoc, Nat.add_comm 1]

/-- The frame comes as high after the one that it entered as without it. -/
theorem Climbs.later
    (stepped : frame.step heap values = .next heap' values' (.enter scope expr))
    (entered : Settles heap' values' ⟨scope, expr, 0, values'.size⟩ values' ⟨.ok value, after⟩)
    (climbs : Climbs after (values'.push value) { frame with phase := frame.phase + 1 } height) :
    Climbs heap values frame height := by
  intro below steps
  obtain ⟨first, ranFirst⟩ := exists_run_of_enter stepped entered below steps
  obtain ⟨second, machine, ran, size_eq⟩ := climbs below (steps + first)
  refine ⟨first + second, machine, ?_, size_eq⟩
  rw [Status.run_add, ranFirst]
  exact ran

/-- A frame that goes on after the one it entered comes as high as the higher of the two. -/
theorem Climbs.enterMax
    (stepped : frame.step heap values = .next heap' values' (.enter scope expr))
    (climbs : Climbs heap' values' ⟨scope, expr, 0, values'.size⟩ height)
    (entered : Settles heap' values' ⟨scope, expr, 0, values'.size⟩ values' ⟨.ok value, after⟩)
    (climbsLater : Climbs after (values'.push value) { frame with phase := frame.phase + 1 }
      (rest + 1)) :
    Climbs heap values frame (max height rest + 1) := by
  rcases Nat.le_total height rest with lower | higher
  · rw [Nat.max_eq_right lower]
    exact .later stepped entered climbsLater
  · rw [Nat.max_eq_left higher]
    exact .enter stepped climbs

end Climbing

end Machine

/-- The topmost frame climbs by the height of what is left to evaluate of it, if this
succeeds. -/
theorem Evaluates.climbs {heap : Heap} {scope result : BoxId} {expr : Expr} {outcome : Outcome}
    (evaluates : Evaluates heap scope expr outcome) (succeeded : outcome.result = .ok result)
    (callFree : expr.isCallFree = true) {frame : Frame} {values base : Stack BoxId}
    (awaits : Awaits base scope frame values expr) :
    Climbs heap values frame expr.height := by
  induction evaluates generalizing frame values base result with
  | sequenceNil => exact .here
  | sequenceLast _ item =>
      obtain ⟨itemFree, -⟩ := (Bool.and_eq_true _ _).mp callFree
      obtain ⟨earlier, truncated, rfl⟩ := awaits.sequence
      rw [Expr.height, Expr.heightAll, Expr.heightAll, Nat.max_zero]
      exact .enter (Frame.step_item truncated _) (item succeeded itemFree .fresh)
  | sequenceCons evaluatesItem _ item rest =>
      obtain ⟨itemFree, restFree⟩ := (Bool.and_eq_true _ _).mp callFree
      obtain ⟨earlier, truncated, rfl⟩ := awaits.sequence
      exact .enterMax (Frame.step_item truncated _) (item rfl itemFree .fresh)
        (evaluatesItem.settles .fresh) (rest succeeded restFree (.tail earlier _ _ _ _))
  | getFrom _ _ target =>
      cases awaits
      exact .enter rfl (target rfl callFree .fresh)
  | assign _ value =>
      cases awaits
      exact .enter rfl (value rfl callFree .fresh)
  | assignTo evaluatesTarget _ target value =>
      obtain ⟨targetFree, valueFree⟩ := (Bool.and_eq_true _ _).mp callFree
      cases awaits
      exact .enterMax rfl (target rfl targetFree .fresh) (evaluatesTarget.settles .fresh)
        (.enter rfl (value rfl valueFree .fresh))
  | box _ body =>
      cases awaits
      exact .enter rfl (body rfl callFree .fresh)
  | get | emptyBox | text | integer | real => exact .here
  | call | callCycle | callBodiless | callTargetError | callArgumentError => cases callFree
  | sequenceError | getMissing | getFromMissing | getFromError | assignError
  | assignToTargetError | assignToValueError | boxError | external => cases succeeded

namespace Machine

section Evaluation

variable {heap after : Heap} {scope value : BoxId} {expr : Expr}

theorem Extent.peak_le {steps peak : Nat} (extent : Extent heap scope expr steps peak)
    (callFree : expr.isCallFree = true) : peak ≤ expr.height := by
  obtain ⟨count, machine, ran, rfl⟩ := extent.peak_reached
  exact frames_size_le_height callFree ran

theorem Extent.steps_le {steps peak : Nat} (extent : Extent heap scope expr steps peak)
    (callFree : expr.isCallFree = true) : steps ≤ expr.cost := by
  apply Nat.le_of_not_lt
  intro more
  obtain ⟨machine, ran, nonempty⟩ := (extent.lt_steps_iff expr.cost).mp more
  exact Nat.lt_irrefl _ (lt_cost_of_frames callFree ran nonempty)

/-- Nothing is left of the cost of a tree when no frame is left. -/
theorem eq_cost_of_no_frames {count : Nat} {machine : Machine} (callFree : expr.isCallFree = true)
    (ran : evaluate .unlimited count heap scope expr = .running machine)
    (done : machine.frames = .empty) : count = expr.cost := by
  obtain ⟨left, priced, total⟩ := accounts_of_evaluate callFree ran
  rw [done] at priced
  cases priced
  rw [← total, steps_eq_of_evaluate ran, Nat.add_zero]

/-- An evaluation that succeeds takes all of the cost and reaches all of the height. -/
theorem extent_of_success (callFree : expr.isCallFree = true)
    (halts : HaltsWith .unlimited heap scope expr ⟨.ok value, after⟩) :
    Extent heap scope expr expr.cost expr.height := by
  obtain ⟨steps, peak, extent⟩ := halts.exists_extent
  have steps_eq : steps = expr.cost := by
    obtain ⟨count, ran⟩ := halts
    obtain ⟨last, machine, ranLast, -, done, -⟩ := exists_values_of_result_ok ran rfl
    cases eq_cost_of_no_frames callFree ranLast done
    refine Nat.le_antisymm (extent.steps_le callFree) (Nat.le_of_not_lt ?_)
    intro fewer
    -- After so few steps the evaluation goes on, so it still has frames.
    obtain ⟨earlier, ranEarlier⟩ : ∃ earlier,
        evaluate .unlimited steps heap scope expr = .running earlier := by
      cases ranEarlier : evaluate .unlimited steps heap scope expr with
      | running earlier => exact ⟨earlier, rfl⟩
      | halted outcome =>
          cases ranLast.symm.trans (evaluate_of_halted ranEarlier (Nat.le_of_lt fewer))
    have nonempty := frames_ne_empty_of_evaluate ranLast ranEarlier fewer
    exact Nat.lt_irrefl _ ((extent.lt_steps_iff steps).mpr ⟨earlier, ranEarlier, nonempty⟩)
  have peak_eq : peak = expr.height := by
    refine Nat.le_antisymm (extent.peak_le callFree) ?_
    obtain ⟨count, machine, ran, size_eq⟩ := halts.evaluates.climbs rfl callFree .fresh .empty 0
    have highest := extent.le_peak count machine ran
    rw [size_eq] at highest
    exact Nat.le_trans (Nat.le_add_left _ _) highest
  rwa [steps_eq, peak_eq] at extent

theorem haltsWith_ok_iff (callFree : expr.isCallFree = true) (limits : Limits) :
    HaltsWith limits heap scope expr ⟨.ok value, after⟩ ↔
      HaltsWith .unlimited heap scope expr ⟨.ok value, after⟩ ∧
        Allows limits.maxSteps expr.cost ∧ Allows limits.maxFrames expr.height := by
  constructor
  · intro halts
    have enough := enough_of_haltsWith halts nofun
    obtain ⟨count, ran⟩ := halts
    have unlimited : HaltsWith .unlimited heap scope expr ⟨.ok value, after⟩ :=
      ⟨count, by rw [← evaluate_eq_of_enough enough, ran]⟩
    exact ⟨unlimited, (extent_of_success callFree unlimited).enough_iff.mp enough⟩
  · rintro ⟨halts, allowed⟩
    have enough := (extent_of_success callFree halts).enough_iff.mpr allowed
    obtain ⟨count, ran⟩ := halts
    exact ⟨count, by rw [evaluate_eq_of_enough enough, ran]⟩

end Evaluation

/-- The evaluation of a tree without calls ends within its cost and its height.  If it succeeds,
it takes as many steps as the cost and as many frames as the height, so that it succeeds under
limits exactly if they allow both. -/
theorem evaluate_extent_exact {expr : Expr} (callFree : expr.isCallFree = true) (heap : Heap)
    (scope : BoxId) :
    (∃ outcome steps peak, HaltsWith .unlimited heap scope expr outcome ∧
      Extent heap scope expr steps peak ∧ steps ≤ expr.cost ∧ peak ≤ expr.height) ∧
    (∀ value after, HaltsWith .unlimited heap scope expr ⟨.ok value, after⟩ →
      Extent heap scope expr expr.cost expr.height) ∧
    ∀ limits value after, HaltsWith limits heap scope expr ⟨.ok value, after⟩ ↔
      HaltsWith .unlimited heap scope expr ⟨.ok value, after⟩ ∧
        Allows limits.maxSteps expr.cost ∧ Allows limits.maxFrames expr.height := by
  refine ⟨?_, fun value after => extent_of_success callFree, ?_⟩
  · obtain ⟨outcome, ran⟩ := exists_halted_of_cost callFree
    have halts : HaltsWith .unlimited heap scope expr outcome := ⟨_, ran⟩
    obtain ⟨steps, peak, extent⟩ := halts.exists_extent
    exact ⟨outcome, steps, peak, halts, extent, extent.steps_le callFree,
      extent.peak_le callFree⟩
  · intro limits value after
    exact haltsWith_ok_iff callFree limits

/-- Reading a variable of a box that was just filled takes nineteen steps and five frames, and
no fewer. -/
theorem evaluate_extent_exact_filled_box :
    ∃ (expr : Expr) (heap : Heap) (value : BoxId) (after : Heap),
      expr.isCallFree = true ∧ expr.cost = 19 ∧ expr.height = 5 ∧
      Extent heap 7 expr 19 5 ∧
      HaltsWith ⟨some 5, some 19⟩ heap 7 expr ⟨.ok value, after⟩ ∧
      ¬HaltsWith ⟨some 5, some 18⟩ heap 7 expr ⟨.ok value, after⟩ ∧
      ¬HaltsWith ⟨some 4, some 19⟩ heap 7 expr ⟨.ok value, after⟩ := by
  let expr : Expr := .sequence [.assign "a" (.box (.assign "b" (.integer 1))),
    .getFrom (.get "a") "b"]
  have callFree : expr.isCallFree = true := rfl
  have halts : HaltsWith .unlimited Heap.initial.newBox.1 7 expr ⟨.ok 10, _⟩ := ⟨20, rfl⟩
  obtain ⟨-, exact, within⟩ := evaluate_extent_exact callFree Heap.initial.newBox.1 7
  refine ⟨expr, _, 10, _, callFree, rfl, rfl, exact _ _ halts,
    (within _ _ _).mpr ⟨halts, by decide, by decide⟩, ?_, ?_⟩
  · intro halts'
    exact absurd ((within _ _ _).mp halts').2.1 (by decide)
  · intro halts'
    exact absurd ((within _ _ _).mp halts').2.2 (by decide)

end Machine

end BoxLang
