import BoxLang.Expr.Cost
import BoxLang.Expr.Scoping
import BoxLang.Proofs.Machine.Limits

/-!
# Steps and frames without calls

A frame for a tree without calls enters parts of its tree and nothing else.  The cost
that is left to the frames goes down by one with each step, and the height that is left
above a frame is that of its tree.  So the cost and the height of a tree bound the steps
and the frames of its evaluation, whether it succeeds or not.
-/

namespace BoxLang

namespace Expr

/-- The cost of a tree without calls from a phase of its frame on. -/
def costFrom : Expr → Nat → Nat
  | .sequence items, phase => costAll (items.drop phase) + 1
  | .get _, 0 | .text _, 0 | .integer _, 0 | .real _, 0 => 2
  | .getFrom target _, 0 => target.cost + 3
  | .assign _ value, 0 => value.cost + 3
  | .assignTo target _ value, 0 => target.cost + value.cost + 4
  | .assignTo _ _ value, 1 => value.cost + 3
  | .emptyBox, 0 => 3
  | .box body, 0 => body.cost + 3
  | .getFrom _ _, 1 | .assign _ _, 1 | .assignTo _ _ _, 2 | .emptyBox, 1 | .box _, 1 => 2
  | _, _ => 1

theorem costFrom_zero {expr : Expr} (callFree : expr.isCallFree = true) :
    expr.costFrom 0 = expr.cost := by
  cases expr with
  | call => cases callFree
  | external => cases callFree
  | _ => rfl

theorem costFrom_pos (expr : Expr) (phase : Nat) : 0 < expr.costFrom phase := by
  unfold costFrom
  split <;> omega

theorem height_pos (expr : Expr) : 0 < expr.height := by
  cases expr <;> simp [height]

theorem areCallFree_iff {items : List Expr} :
    areCallFree items = true ↔ ∀ item ∈ items, item.isCallFree = true := by
  induction items with
  | nil => simp [areCallFree]
  | cons item items inductionHypothesis => simp [areCallFree, inductionHypothesis]

theorem IsLocal.isCallFree {expr : Expr} (isLocal : expr.IsLocal) : expr.isCallFree = true := by
  induction isLocal with
  | sequence _ items => exact areCallFree_iff.mpr items
  | assign _ value => exact value
  | box _ body => exact body
  | _ => rfl

end Expr

namespace Machine

namespace Frame

/-- What a move of a frame costs, and what it may enter. -/
inductive Spends (frame : Frame) : Move → Prop
  | advance :
      frame.expr.costFrom frame.phase = frame.expr.costFrom (frame.phase + 1) + 1 →
      Spends frame .advance
  | enter {scope : BoxId} {part : Expr} :
      part.isCallFree = true → part.height < frame.expr.height →
      frame.expr.costFrom frame.phase = part.cost + frame.expr.costFrom (frame.phase + 1) + 1 →
      Spends frame (.enter scope part)
  | leave : frame.expr.costFrom frame.phase = 1 → Spends frame .leave

theorem move_lookup {heap : Heap} {values : Stack BoxId} {box : BoxId} {name : String}
    {move : Move} (moved : (Effect.lookup heap values box name).move = .ok move) :
    move = .advance := by
  unfold Effect.lookup at moved
  split at moved
  · cases moved
    rfl
  · cases moved

theorem move_withValue {heap : Heap} {values : Stack BoxId} {move : Move}
    {act : Heap → Stack BoxId → BoxId → Effect}
    (moved : (Effect.withValue heap values act).move = .ok move) :
    ∃ below value, (act heap below value).move = .ok move := by
  unfold Effect.withValue at moved
  split at moved
  case h_1 value below _ => exact ⟨below, value, moved⟩
  case h_2 => cases moved

theorem spends_of_step_sequence {scope : BoxId} {items : List Expr} {phase baseline : Nat}
    {heap : Heap} {values : Stack BoxId} {move : Move} (callFree : Expr.areCallFree items = true)
    (moved : (step ⟨scope, .sequence items, phase, baseline⟩ heap values).move = .ok move) :
    Spends ⟨scope, .sequence items, phase, baseline⟩ move := by
  simp only [step] at moved
  split at moved
  case h_1 item found =>
    cases moved
    obtain ⟨inside, rfl⟩ := List.getElem?_eq_some_iff.mp found
    have member : items[phase] ∈ items := List.getElem_mem inside
    refine .enter (Expr.areCallFree_iff.mp callFree _ member) ?_ ?_
    · exact Nat.lt_succ_of_le (Expr.heightAll_le_iff.mp (Nat.le_refl _) _ member)
    · simp only [Expr.costFrom, List.drop_eq_getElem_cons inside, Expr.costAll]
      omega
  case h_2 ended =>
    have last := List.getElem?_eq_none_iff.mp ended
    have spent : (Expr.sequence items).costFrom phase = 1 := by
      rw [Expr.costFrom, List.drop_eq_nil_of_le last, Expr.costAll]
    split at moved
    · cases moved
      exact .leave spent
    · cases moved
      exact .leave spent

theorem spends_of_step {frame : Frame} {heap : Heap} {values : Stack BoxId} {move : Move}
    (callFree : frame.expr.isCallFree = true)
    (moved : (frame.step heap values).move = .ok move) : frame.Spends move := by
  obtain ⟨scope, expr, phase, baseline⟩ := frame
  cases expr with
  | sequence items => exact spends_of_step_sequence callFree moved
  | get name =>
      rcases phase with _ | phase
      · cases move_lookup moved
        exact .advance rfl
      · cases moved
        exact .leave rfl
  | getFrom target name =>
      rcases phase with _ | _ | phase
      · cases moved
        exact .enter callFree (Nat.lt_succ_self _) rfl
      · obtain ⟨below, value, moved⟩ := move_withValue moved
        cases move_lookup moved
        exact .advance rfl
      · cases moved
        exact .leave rfl
  | assign name value =>
      rcases phase with _ | _ | phase
      · cases moved
        exact .enter callFree (Nat.lt_succ_self _) rfl
      · obtain ⟨below, box, moved⟩ := move_withValue moved
        cases moved
        exact .advance rfl
      · cases moved
        exact .leave rfl
  | assignTo target name value =>
      obtain ⟨targetFree, valueFree⟩ := (Bool.and_eq_true _ _).mp callFree
      rcases phase with _ | _ | _ | phase
      · cases moved
        refine .enter targetFree (Nat.lt_succ_of_le (Nat.le_max_left _ _)) ?_
        simp only [Expr.costFrom]
        omega
      · cases moved
        exact .enter valueFree (Nat.lt_succ_of_le (Nat.le_max_right _ _)) rfl
      · obtain ⟨lower, box, moved⟩ := move_withValue moved
        obtain ⟨below, owner, moved⟩ := move_withValue moved
        cases moved
        exact .advance rfl
      · cases moved
        exact .leave rfl
  | call target argument => cases callFree
  | emptyBox =>
      rcases phase with _ | _ | phase
      · cases moved
        exact .advance rfl
      · cases moved
        exact .advance rfl
      · cases moved
        exact .leave rfl
  | box body =>
      rcases phase with _ | _ | phase
      · cases moved
        exact .enter callFree (Nat.lt_succ_self _) rfl
      · cases moved
        exact .advance rfl
      · cases moved
        exact .leave rfl
  | text _ | integer _ | real _ =>
      rcases phase with _ | phase
      · cases moved
        exact .advance rfl
      · cases moved
        exact .leave rfl
  | external function => cases callFree

end Frame

/-- Frames for trees without calls, topmost first, with the cost that is left to them,
where no tree is higher than the room above its frame. -/
inductive Priced (height : Nat) : List Frame → Nat → Prop
  | none : Priced height [] 0
  | frame {frame : Frame} {below : List Frame} {cost : Nat} :
      frame.expr.isCallFree = true → below.length + frame.expr.height ≤ height →
      Priced height below cost →
      Priced height (frame :: below) (frame.expr.costFrom frame.phase + cost)

/-- The steps that were taken and the cost that is left make up the cost of a tree. -/
def Accounts (expr : Expr) (machine : Machine) : Prop :=
  ∃ left, Priced expr.height machine.frames.items left ∧ machine.steps + left = expr.cost

theorem Accounts.next {limits : Limits} {expr : Expr} {machine later : Machine}
    (accounts : Accounts expr machine) (stepped : machine.next limits = .running later) :
    Accounts expr later := by
  obtain ⟨left, priced, total⟩ := accounts
  obtain ⟨frame, below, frames_eq, followed⟩ := next_eq_running stepped
  rw [frames_eq] at priced
  cases priced with
  | @frame _ _ cost callFree room priced =>
  rcases follow_eq_running followed with
    ⟨moved, rfl⟩ | ⟨scope, part, moved, -, rfl⟩ | ⟨moved, rfl⟩
  · cases Frame.spends_of_step callFree moved with
    | advance spent =>
        refine ⟨_, .frame callFree room priced, ?_⟩
        simp only [← total, spent]
        omega
  · cases Frame.spends_of_step callFree moved with
    | enter partFree lower spent =>
        refine ⟨_, .frame partFree ?_ (.frame callFree room priced), ?_⟩
        · simp only [Stack.items_push, List.length_cons]
          omega
        · simp only [← total, spent, Expr.costFrom_zero partFree]
          omega
  · cases Frame.spends_of_step callFree moved with
    | leave spent =>
        refine ⟨cost, priced, ?_⟩
        simp only [← total, spent]
        omega

section Evaluation

variable {limits : Limits} {heap : Heap} {scope : BoxId} {expr : Expr} {count : Nat}
  {machine : Machine}

theorem accounts_of_evaluate (callFree : expr.isCallFree = true)
    (ran : evaluate limits count heap scope expr = .running machine) : Accounts expr machine := by
  refine Status.running_of_invariant ?_ (fun _ _ => Accounts.next) ran
  intro machine started
  obtain ⟨-, rfl⟩ := start_eq_running started
  refine ⟨_, .frame callFree (Nat.zero_add _).le .none, ?_⟩
  simp only [Expr.costFrom_zero callFree]
  omega

theorem frames_size_le_height (callFree : expr.isCallFree = true)
    (ran : evaluate limits count heap scope expr = .running machine) :
    machine.frames.size ≤ expr.height := by
  obtain ⟨left, priced, -⟩ := accounts_of_evaluate callFree ran
  rw [machine.frames.size_eq]
  generalize machine.frames.items = frames at priced
  cases priced with
  | none => exact Nat.zero_le _
  | @frame frame below _ _ room _ =>
      have high := frame.expr.height_pos
      rw [List.length_cons]
      omega

theorem lt_cost_of_frames (callFree : expr.isCallFree = true)
    (ran : evaluate limits count heap scope expr = .running machine)
    (nonempty : machine.frames ≠ .empty) : count < expr.cost := by
  obtain ⟨left, priced, total⟩ := accounts_of_evaluate callFree ran
  rw [steps_eq_of_evaluate ran] at total
  generalize frames_eq : machine.frames.items = frames at priced
  cases priced with
  | none => exact absurd (Stack.ext frames_eq) nonempty
  | @frame frame below _ _ _ _ =>
      have positive := frame.expr.costFrom_pos frame.phase
      omega

/-- Limits that allow the cost and the height of a tree without calls do not matter. -/
theorem enough_of_cost (callFree : expr.isCallFree = true)
    (steps : Limits.Allows limits.maxSteps expr.cost)
    (frames : Limits.Allows limits.maxFrames expr.height) (count : Nat) :
    Enough limits heap scope expr count := by
  intro earlier _ machine ran
  refine ⟨frames.le (frames_size_le_height callFree ran), ?_⟩
  intro _ nonempty
  exact steps.le (lt_cost_of_frames callFree ran nonempty)

/-- Under any limits, the evaluation of a tree without calls has ended one step after its
cost, the step that finds no frame. -/
theorem exists_halted_of_cost (callFree : expr.isCallFree = true) :
    ∃ outcome, evaluate limits (expr.cost + 1) heap scope expr = .halted outcome := by
  cases ran : evaluate limits (expr.cost + 1) heap scope expr with
  | halted outcome => exact ⟨outcome, rfl⟩
  | running machine =>
      obtain ⟨left, -, total⟩ := accounts_of_evaluate callFree ran
      rw [steps_eq_of_evaluate ran] at total
      omega

end Evaluation

end Machine

end BoxLang
