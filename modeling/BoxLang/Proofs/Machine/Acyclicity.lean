import BoxLang.Proofs.Heap.References
import BoxLang.Proofs.Machine.Discipline
import BoxLang.Proofs.Machine.LocalSteps

/-!
# Evaluation without reference cycles

A local expression only fills its own scope, and only with values that were made after the
scope was.  The frames on the stack are in scopes that get younger towards the top, so the
values that a frame has above its baseline are younger than its scope, those of the frames
above it included.  Hence every assignment points from an older box to a younger one.
-/

namespace BoxLang

namespace Stack

variable {α : Type}

/-- The items above the lowest `count`. -/
def above (stack : Stack α) (count : Nat) : List α :=
  stack.items.take (stack.size - count)

theorem above_size (stack : Stack α) : stack.above stack.size = [] := by
  simp [above]

theorem above_zero (stack : Stack α) : stack.above 0 = stack.items := by
  simp [above, stack.size_eq]

theorem above_push {stack : Stack α} {count : Nat} (bounded : count ≤ stack.size) (item : α) :
    (stack.push item).above count = item :: stack.above count := by
  rw [above, size_push, items_push, Nat.succ_sub bounded, List.take_succ_cons, above]

theorem mem_above_of_truncate {stack : Stack α} {count bound : Nat} {item : α}
    (ordered : count ≤ bound) (member : item ∈ (stack.truncate bound).above count) :
    item ∈ stack.above count := by
  rw [above, items_truncate, size_truncate, List.take_drop] at member
  have taken := List.mem_of_mem_drop member
  have fewer : stack.size - bound + (min stack.size bound - count) ≤ stack.size - count := by
    omega
  exact List.take_subset_take_left _ fewer taken

end Stack

namespace Machine

/-- What a step of a frame does to a heap without cycles. -/
structure Preserves (frame : Frame) (heap : Heap) (values : Stack BoxId) (effect : Effect) :
    Prop where
  ordered : effect.heap.Ordered
  grows : heap.Grows effect.heap
  /-- A value that was not there before may be put into the scope of the frame. -/
  mayHold : ∀ count ≤ frame.baseline, ∀ value ∈ effect.values.above count,
    value ∈ values.above count ∨ effect.heap.MayHold frame.scope value
  enters : ∀ scope expr, effect.move = .ok (.enter scope expr) →
    expr.IsLocal ∧ effect.heap.IsScope scope ∧ frame.scope ≤ scope

section Preservation

variable {frame : Frame} {heap heap' : Heap} {values base : Stack BoxId} {value : BoxId}
  {move : Move}

theorem preserves_push (ordered : heap'.Ordered) (grows : heap.Grows heap')
    (owned : frame.baseline ≤ values.size) (mayHold : heap'.MayHold frame.scope value)
    (enters : ∀ scope expr, move = .enter scope expr →
      expr.IsLocal ∧ heap'.IsScope scope ∧ frame.scope ≤ scope) :
    Preserves frame heap values (.next heap' (values.push value) move) where
  ordered := ordered
  grows := grows
  mayHold count bounded other member := by
    change other ∈ (values.push value).above count at member
    rw [Stack.above_push (Nat.le_trans bounded owned)] at member
    rcases List.mem_cons.mp member with rfl | member
    · exact Or.inr mayHold
    · exact Or.inl member
  enters scope expr entered := enters scope expr (Except.ok.inj entered)

end Preservation

/-- A local frame with its share of values, in a heap without cycles, makes none. -/
theorem Frame.Acts.preserves {frame : Frame} {heap : Heap} {values : Stack BoxId}
    {effect : Effect} (acts : frame.Acts heap values effect) (ordered : heap.Ordered)
    (isScope : heap.IsScope frame.scope) (owned : frame.baseline ≤ values.size)
    (holds : ∀ value ∈ values.above frame.baseline, heap.MayHold frame.scope value) :
    Preserves frame heap values effect := by
  cases acts with
  | fail error => exact ⟨ordered, .refl heap, fun _ _ _ member => Or.inl member, nofun⟩
  | drop kept stays =>
      refine ⟨ordered, .refl heap, ?_, ?_⟩
      · intro count bounded value member
        exact Or.inl (Stack.mem_above_of_truncate (Nat.le_trans bounded kept) member)
      · intro scope expr entered
        obtain ⟨rfl, isLocal⟩ := stays scope expr (Except.ok.inj entered)
        exact ⟨isLocal, isScope, Nat.le_refl _⟩
  | null => exact preserves_push ordered (.refl heap) owned (ordered.mayHold_kind .null _) nofun
  | get found =>
      exact preserves_push ordered (.refl heap) owned (ordered.mayHold (Or.inl ⟨_, found⟩)) nofun
  | @assign name value base values_eq found =>
      subst values_eq
      have mayHold : heap.MayHold frame.scope value := by
        apply holds
        rw [found, Stack.above_push (Nat.le_refl _)]
        exact List.mem_cons_self
      exact ⟨ordered.setVariable isScope mayHold name, heap.grows_setVariable _ _ _,
        fun _ _ _ member => Or.inl member, nofun⟩
  | box stays =>
      have younger : frame.scope < heap.newBox.2 := isScope.inUse
      refine preserves_push ordered.newBox (heap.grows_alloc _) owned
        ⟨heap.newBox_lt_size, Or.inr younger⟩ ?_
      intro scope expr entered
      obtain ⟨rfl, isLocal⟩ := stays scope expr entered
      exact ⟨isLocal, ordered.isScope_newBox, Nat.le_of_lt younger⟩
  | literal isLiteral =>
      exact preserves_push (ordered.newOfKind isLiteral.boxes_eq) (heap.grows_newOfKind _) owned
        (heap.mayHold_newOfKind _ _) nofun

/-- The values that a frame has on top of those it found may be put into its scope. -/
def Frame.Holds (heap : Heap) (values : Stack BoxId) (frame : Frame) : Prop :=
  ∀ value ∈ values.above frame.baseline, heap.MayHold frame.scope value

/-- What every step keeps: local frames, in scopes that get younger towards the top, on a
heap without cycles. -/
structure Layered (root : BoxId) (machine : Machine) : Prop where
  ordered : machine.heap.Ordered
  rooted : machine.heap.IsScope root
  frames : ∀ frame ∈ machine.frames.items, frame.expr.IsLocal ∧
    machine.heap.IsScope frame.scope ∧ root ≤ frame.scope ∧
    frame.Holds machine.heap machine.values
  nested : machine.frames.items.Pairwise fun upper lower => lower.scope ≤ upper.scope
  values : ∀ value ∈ machine.values.items, machine.heap.MayHold root value

section Steps

variable {root : BoxId} {limits : Limits} {machine later : Machine} {frame : Frame}
  {below : Stack Frame}

theorem Layered.preserves (layered : Layered root machine)
    (balanced : Balanced machine.frames.items machine.values)
    (frames_eq : machine.frames = below.push frame) :
    Preserves frame machine.heap machine.values (frame.step machine.heap machine.values) := by
  have member : frame ∈ machine.frames.items := by simp [frames_eq]
  obtain ⟨isLocal, isScope, -, holds⟩ := layered.frames frame member
  rw [frames_eq] at balanced
  cases balanced with
  | top sits fills =>
      exact (sits.acts isLocal machine.heap).preserves layered.ordered isScope
        sits.baseline_le holds

/-- The frames below the one that takes a step still hold what they may. -/
theorem Preserves.holds {heap : Heap} {values : Stack BoxId} {effect : Effect} {lower : Frame}
    (preserves : Preserves frame heap values effect) (holds : lower.Holds heap values)
    (older : lower.scope ≤ frame.scope) (below : lower.baseline ≤ frame.baseline) :
    lower.Holds effect.heap effect.values := by
  intro value member
  rcases preserves.mayHold lower.baseline below value member with member | mayHold
  · exact preserves.grows.mayHold (holds value member)
  · exact mayHold.outer older

theorem Layered.next (layered : Layered root machine)
    (balanced : Balanced machine.frames.items machine.values)
    (stepped : machine.next limits = .running later) : Layered root later := by
  obtain ⟨frame, below, frames_eq, followed⟩ := next_eq_running stepped
  have preserves := layered.preserves balanced frames_eq
  have items_eq : machine.frames.items = frame :: below.items := by rw [frames_eq]; rfl
  have nested := layered.nested
  rw [items_eq] at nested
  obtain ⟨older, nestedBelow⟩ := List.pairwise_cons.mp nested
  generalize frame.step machine.heap machine.values = effect at preserves followed
  -- What is known of the frames that were there before holds of them on the new heap.
  have kept : ∀ lower ∈ frame :: below.items, lower.expr.IsLocal ∧
      effect.heap.IsScope lower.scope ∧ root ≤ lower.scope ∧
      lower.Holds effect.heap effect.values := by
    intro lower member
    have ordered : lower.scope ≤ frame.scope := by
      rcases List.mem_cons.mp member with rfl | member
      · exact Nat.le_refl _
      · exact older lower member
    rw [items_eq] at balanced
    have under := balanced.baseline_le member
    rw [← items_eq] at member
    obtain ⟨isLocal, isScope, least, holds⟩ := layered.frames lower member
    exact ⟨isLocal, preserves.grows.isScope isScope, least,
      preserves.holds holds ordered under⟩
  obtain ⟨top, lower⟩ := List.forall_mem_cons.mp kept
  have rooted := preserves.grows.isScope layered.rooted
  have values : ∀ value ∈ effect.values.items, effect.heap.MayHold root value := by
    intro value member
    rw [← Stack.above_zero] at member
    rcases preserves.mayHold 0 (Nat.zero_le _) value member with member | mayHold
    · rw [Stack.above_zero] at member
      exact preserves.grows.mayHold (layered.values value member)
    · exact mayHold.outer top.2.2.1
  -- A frame that goes on differs from what it was in its phase only.
  have frames : ∀ lower ∈ (below.push { frame with phase := frame.phase + 1 }).items,
      lower.expr.IsLocal ∧ effect.heap.IsScope lower.scope ∧ root ≤ lower.scope ∧
        lower.Holds effect.heap effect.values :=
    List.forall_mem_cons.mpr ⟨top, lower⟩
  have advanced : (below.push { frame with phase := frame.phase + 1 }).items.Pairwise
      fun upper lower => lower.scope ≤ upper.scope :=
    List.pairwise_cons.mpr ⟨older, nestedBelow⟩
  rcases follow_eq_running followed with
    ⟨-, rfl⟩ | ⟨scope, expr, moved, -, rfl⟩ | ⟨-, rfl⟩
  · exact ⟨preserves.ordered, rooted, frames, advanced, values⟩
  · obtain ⟨isLocal, isScope, younger⟩ := preserves.enters scope expr moved
    have least := Nat.le_trans top.2.2.1 younger
    refine ⟨preserves.ordered, rooted,
      List.forall_mem_cons.mpr ⟨⟨isLocal, isScope, least, ?_⟩, frames⟩,
      List.pairwise_cons.mpr ⟨?_, advanced⟩, values⟩
    · intro value member
      rw [Stack.above_size] at member
      cases member
    · intro lower member
      rcases List.mem_cons.mp member with rfl | member
      · exact younger
      · exact Nat.le_trans (older lower member) younger
  · exact ⟨preserves.ordered, rooted, lower, nestedBelow, values⟩

/-- The heap that a machine halts with has no cycles either. -/
theorem Layered.of_halted (layered : Layered root machine)
    (balanced : Balanced machine.frames.items machine.values) {outcome : Outcome}
    (stepped : machine.next limits = .halted outcome) :
    outcome.heap.Ordered ∧ outcome.heap.IsScope root := by
  rcases heap_eq_of_next_halted stepped with heap_eq | ⟨frame, below, frames_eq, heap_eq⟩
  · rw [heap_eq]
    exact ⟨layered.ordered, layered.rooted⟩
  · have preserves := layered.preserves balanced frames_eq
    rw [heap_eq]
    exact ⟨preserves.ordered, preserves.grows.isScope layered.rooted⟩

end Steps

section Evaluation

variable {limits : Limits} {heap : Heap} {root : BoxId} {expr : Expr} {count : Nat}

theorem layered_of_evaluate (ordered : heap.Ordered) (rooted : heap.IsScope root)
    (isLocal : expr.IsLocal) {machine : Machine}
    (ran : evaluate limits count heap root expr = .running machine) :
    Layered root machine := by
  induction count generalizing machine with
  | zero =>
      obtain ⟨-, rfl⟩ := start_eq_running ran
      refine ⟨ordered, rooted,
        List.forall_mem_singleton.mpr ⟨isLocal, rooted, Nat.le_refl _, ?_⟩,
        List.pairwise_singleton _ _,
        List.forall_mem_singleton.mpr (ordered.mayHold_kind .null root)⟩
      intro value member
      cases member
  | succ count inductionHypothesis =>
      obtain ⟨earlier, ranEarlier, stepped⟩ := Status.exists_earlier_of_running ran
      have balanced := (steady_of_evaluate ranEarlier).balanced
      exact (inductionHypothesis ranEarlier).next balanced stepped

theorem ordered_of_halted (ordered : heap.Ordered) (rooted : heap.IsScope root)
    (isLocal : expr.IsLocal) {outcome : Outcome}
    (ran : evaluate limits count heap root expr = .halted outcome) :
    outcome.heap.Ordered ∧ outcome.heap.IsScope root := by
  rcases Status.exists_earlier_of_halted ran with started | ⟨earlier, machine, ran, stepped⟩
  · obtain ⟨maxFrames, rfl⟩ := start_eq_halted started
    exact ⟨ordered, rooted⟩
  · have balanced := (steady_of_evaluate ran).balanced
    exact (layered_of_evaluate ordered rooted isLocal ran).of_halted balanced stepped

theorem mayHold_of_halted (ordered : heap.Ordered) (rooted : heap.IsScope root)
    (isLocal : expr.IsLocal) {outcome : Outcome} {value : BoxId}
    (ran : evaluate limits count heap root expr = .halted outcome)
    (result_eq : outcome.result = .ok value) : outcome.heap.MayHold root value := by
  obtain ⟨last, machine, ranLast, heap_eq, -, values_eq⟩ :=
    exists_values_of_result_ok ran result_eq
  rw [← heap_eq]
  apply (layered_of_evaluate ordered rooted isLocal ranLast).values
  rw [values_eq]
  exact List.mem_cons_self

end Evaluation

end Machine

end BoxLang
