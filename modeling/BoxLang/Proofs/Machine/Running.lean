import BoxLang.Machine.Basic

/-!
# Runs

A run is made of its steps.  A run that goes on comes from a machine one step
earlier; a run that has halted did so in one of its steps and has one outcome.
-/

namespace BoxLang.Machine

/-- The step of a machine is the step of its topmost frame. -/
theorem next_push {limits : Limits} (unspent : limits.maxSteps = none) (heap : Heap)
    (values : Stack BoxId) (frame : Frame) (below : Stack Frame) (steps : Nat) :
    next limits ⟨heap, values, below.push frame, steps⟩ =
      follow limits frame below (steps + 1) (frame.step heap values) := by
  simp [next, Limits.spentAt?, unspent]

/-- A step after which the run goes on stays on the topmost frame, enters a frame on
top of it or leaves it. -/
theorem follow_eq_running {limits : Limits} {frame : Frame} {below : Stack Frame}
    {steps : Nat} {effect : Effect} {later : Machine}
    (followed : follow limits frame below steps effect = .running later) :
    (effect.move = .ok .advance ∧ later = ⟨effect.heap, effect.values,
      below.push { frame with phase := frame.phase + 1 }, steps⟩) ∨
    (∃ scope expr, effect.move = .ok (.enter scope expr) ∧
      limits.fullAt? (below.size + 1) = none ∧
      later = ⟨effect.heap, effect.values,
        (below.push { frame with phase := frame.phase + 1 }).push
          ⟨scope, expr, 0, effect.values.size⟩, steps⟩) ∨
    (effect.move = .ok .leave ∧ later = ⟨effect.heap, effect.values, below, steps⟩) := by
  obtain ⟨heap, values, error | move⟩ := effect
  · cases followed
  · cases move with
    | advance =>
        cases followed
        exact Or.inl ⟨rfl, rfl⟩
    | enter scope expr =>
        simp only [follow, enter, Stack.size_push] at followed
        split at followed
        case h_1 => cases followed
        case h_2 free =>
          cases followed
          exact Or.inr (Or.inl ⟨scope, expr, rfl, free, rfl⟩)
    | leave =>
        cases followed
        exact Or.inr (Or.inr ⟨rfl, rfl⟩)

theorem follow_eq_halted {limits : Limits} {frame : Frame} {below : Stack Frame}
    {steps : Nat} {effect : Effect} {outcome : Outcome}
    (followed : follow limits frame below steps effect = .halted outcome) :
    outcome.heap = effect.heap ∧
      ((∃ error, effect.move = .error error ∧ outcome.result = .error error) ∨
        ∃ maxFrames, limits.fullAt? (below.size + 1) = some maxFrames ∧
          outcome.result = .error (.frameLimit maxFrames)) := by
  obtain ⟨heap, values, error | move⟩ := effect
  · cases followed
    exact ⟨rfl, Or.inl ⟨error, rfl, rfl⟩⟩
  · cases move with
    | advance => cases followed
    | enter scope expr =>
        simp only [follow, enter, Stack.size_push] at followed
        split at followed
        case h_1 maxFrames full =>
          cases followed
          exact ⟨rfl, Or.inr ⟨maxFrames, full, rfl⟩⟩
        case h_2 => cases followed
    | leave => cases followed

/-- A machine that goes on has carried out a step of its topmost frame. -/
theorem next_eq_running {limits : Limits} {machine later : Machine}
    (stepped : machine.next limits = .running later) :
    ∃ frame below, machine.frames = below.push frame ∧
      follow limits frame below (machine.steps + 1)
        (frame.step machine.heap machine.values) = .running later := by
  obtain ⟨heap, values, frames, steps⟩ := machine
  simp only [next] at stepped
  cases popped : frames.pop? with
  | none =>
      simp only [popped, halt, Status.fail] at stepped
      split at stepped <;> cases stepped
  | some top =>
      obtain ⟨frame, below⟩ := top
      simp only [popped] at stepped
      refine ⟨frame, below, (Stack.pop?_eq_some_iff ..).mp popped, ?_⟩
      split at stepped
      · cases stepped
      · exact stepped

/-- A machine halts without frames, out of steps, or in a step of its topmost frame. -/
theorem next_eq_halted {limits : Limits} {machine : Machine} {outcome : Outcome}
    (stepped : machine.next limits = .halted outcome) :
    (machine.frames = .empty ∧ halt machine.heap machine.values = .halted outcome) ∨
    (∃ maxSteps, outcome = ⟨.error (.stepLimit maxSteps), machine.heap⟩) ∨
    ∃ frame below, machine.frames = below.push frame ∧
      follow limits frame below (machine.steps + 1)
        (frame.step machine.heap machine.values) = .halted outcome := by
  obtain ⟨heap, values, frames, steps⟩ := machine
  simp only [next] at stepped
  cases popped : frames.pop? with
  | none =>
      simp only [popped] at stepped
      exact Or.inl ⟨(Stack.pop?_eq_none_iff _).mp popped, stepped⟩
  | some top =>
      obtain ⟨frame, below⟩ := top
      simp only [popped] at stepped
      split at stepped
      case h_1 maxSteps spent =>
        cases stepped
        exact Or.inr (Or.inl ⟨maxSteps, rfl⟩)
      case h_2 =>
        exact Or.inr (Or.inr ⟨frame, below, (Stack.pop?_eq_some_iff ..).mp popped, stepped⟩)

/-- A machine halts with the heap that it has or that the last step leads to. -/
theorem heap_eq_of_next_halted {limits : Limits} {machine : Machine} {outcome : Outcome}
    (stepped : machine.next limits = .halted outcome) :
    outcome.heap = machine.heap ∨
      ∃ (frame : Frame) (below : Stack Frame), machine.frames = below.push frame ∧
        outcome.heap = (frame.step machine.heap machine.values).heap := by
  rcases next_eq_halted stepped with
    ⟨-, halted⟩ | ⟨maxSteps, rfl⟩ | ⟨frame, below, frames_eq, followed⟩
  · unfold halt Status.fail at halted
    split at halted <;> cases halted <;> exact Or.inl rfl
  · exact Or.inl rfl
  · exact Or.inr ⟨frame, below, frames_eq, (follow_eq_halted followed).1⟩

theorem start_eq_running {limits : Limits} {heap : Heap} {scope : BoxId} {expr : Expr}
    {machine : Machine} (started : start limits heap scope expr = .running machine) :
    limits.fullAt? 0 = none ∧ machine =
      ⟨heap, Stack.empty.push Kind.null.box, Stack.empty.push ⟨scope, expr, 0, 1⟩, 0⟩ := by
  simp only [start, enter] at started
  split at started
  case h_1 => cases started
  case h_2 free =>
    cases started
    exact ⟨free, rfl⟩

theorem start_eq_halted {limits : Limits} {heap : Heap} {scope : BoxId} {expr : Expr}
    {outcome : Outcome} (started : start limits heap scope expr = .halted outcome) :
    ∃ maxFrames, outcome = ⟨.error (.frameLimit maxFrames), heap⟩ := by
  simp only [start, enter] at started
  split at started
  · cases started
    exact ⟨_, rfl⟩
  · cases started

namespace Status

variable {limits : Limits} {status : Status} {count : Nat}

theorem run_succ_of_running {machine : Machine}
    (ran : status.run limits count = .running machine) :
    status.run limits (count + 1) = machine.next limits := by
  rw [run_add, ran]
  rfl

/-- A run that goes on comes from a machine one step earlier. -/
theorem exists_earlier_of_running {machine : Machine}
    (ran : status.run limits (count + 1) = .running machine) :
    ∃ earlier, status.run limits count = .running earlier ∧
      earlier.next limits = .running machine := by
  cases ranEarlier : status.run limits count with
  | halted outcome =>
      rw [run_add, ranEarlier, run_halted] at ran
      cases ran
  | running earlier =>
      rw [run_succ_of_running ranEarlier] at ran
      exact ⟨earlier, rfl, ran⟩

/-- What holds at first and is kept by each step holds as long as a run goes on. -/
theorem running_of_invariant {Holds : Machine → Prop}
    (initial : ∀ machine, status = .running machine → Holds machine)
    (kept : ∀ machine later, Holds machine → machine.next limits = .running later →
      Holds later)
    {machine : Machine} (ran : status.run limits count = .running machine) :
    Holds machine := by
  induction count generalizing machine with
  | zero => exact initial machine ran
  | succ count inductionHypothesis =>
      obtain ⟨earlier, ranEarlier, stepped⟩ := exists_earlier_of_running ran
      exact kept earlier machine (inductionHypothesis ranEarlier) stepped

/-- A run that has halted was over from the start or halted in one of its steps. -/
theorem exists_earlier_of_halted {outcome : Outcome}
    (ran : status.run limits count = .halted outcome) :
    status = .halted outcome ∨
      ∃ earlier machine, status.run limits earlier = .running machine ∧
        machine.next limits = .halted outcome := by
  induction count with
  | zero => exact Or.inl ran
  | succ count inductionHypothesis =>
      cases ranEarlier : status.run limits count with
      | halted outcome' =>
          have same : Status.halted outcome' = .halted outcome := by
            rw [← ran, run_add, ranEarlier, run_halted]
          exact inductionHypothesis (ranEarlier.trans same)
      | running machine =>
          refine Or.inr ⟨count, machine, ranEarlier, ?_⟩
          rw [← run_succ_of_running ranEarlier, ran]

/-- A run has halted after a number of steps. -/
def HaltsWithin (limits : Limits) (count : Nat) (status : Status) : Prop :=
  ∃ outcome, status.run limits count = .halted outcome

theorem HaltsWithin.le {count' : Nat} (halts : status.HaltsWithin limits count)
    (ordered : count ≤ count') : status.HaltsWithin limits count' := by
  obtain ⟨outcome, ran⟩ := halts
  refine ⟨outcome, ?_⟩
  rw [← Nat.add_sub_cancel' ordered, run_add, ran, run_halted]

/-- What a run leads to halts if the run does. -/
theorem HaltsWithin.run (halts : status.HaltsWithin limits count) (first : Nat) :
    (status.run limits first).HaltsWithin limits count := by
  obtain ⟨outcome, ran⟩ := halts.le (Nat.le_add_left count first)
  exact ⟨outcome, by rw [← run_add, ran]⟩

theorem haltsWithin_of_run {first : Nat}
    (halts : (status.run limits first).HaltsWithin limits count) :
    status.HaltsWithin limits (first + count) := by
  obtain ⟨outcome, ran⟩ := halts
  exact ⟨outcome, by rw [run_add, ran]⟩

/-- A machine that halts takes a step first. -/
theorem HaltsWithin.next {machine : Machine}
    (halts : (running machine).HaltsWithin limits count) :
    ∃ less < count, (machine.next limits).HaltsWithin limits less := by
  obtain ⟨outcome, ran⟩ := halts
  cases count with
  | zero => cases ran
  | succ count => exact ⟨count, Nat.lt_succ_self count, outcome, ran⟩

end Status

/-- The heap of an evaluation that is under way or has ended. -/
def Status.heap : Status → Heap
  | .running machine => machine.heap
  | .halted outcome => outcome.heap

/-- An evaluation leads to a heap of some sort, at each of its steps and however it ends, if there
is an invariant under which every step does. -/
theorem heap_of_invariant {limits : Limits} {heap : Heap} {scope : BoxId} {expr : Expr}
    {Holds : Machine → Prop} {IsSort : Heap → Prop} (initial : IsSort heap)
    (started : ∀ machine, start limits heap scope expr = .running machine → Holds machine)
    (kept : ∀ machine later, Holds machine → machine.next limits = .running later → Holds later)
    (atHand : ∀ machine, Holds machine → IsSort machine.heap)
    (stepped : ∀ (machine : Machine) (frame : Frame) (below : Stack Frame), Holds machine →
      machine.frames = below.push frame → IsSort (frame.step machine.heap machine.values).heap)
    (count : Nat) : IsSort (evaluate limits count heap scope expr).heap := by
  cases ran : evaluate limits count heap scope expr with
  | running machine => exact atHand machine (Status.running_of_invariant started kept ran)
  | halted outcome =>
      rcases Status.exists_earlier_of_halted ran with refused | ⟨earlier, machine, ran, halted⟩
      · obtain ⟨maxFrames, rfl⟩ := start_eq_halted refused
        exact initial
      · have holds := Status.running_of_invariant started kept ran
        change IsSort outcome.heap
        rcases heap_eq_of_next_halted halted with heap_eq | ⟨frame, below, frames_eq, heap_eq⟩
        · rw [heap_eq]
          exact atHand machine holds
        · rw [heap_eq]
          exact stepped machine frame below holds frames_eq

/-- An evaluation has at most one outcome. -/
theorem HaltsWith.unique {limits : Limits} {heap : Heap} {scope : BoxId} {expr : Expr}
    {first second : Outcome} (halts : HaltsWith limits heap scope expr first)
    (halts' : HaltsWith limits heap scope expr second) : first = second := by
  obtain ⟨count, ran⟩ := halts
  obtain ⟨count', ran'⟩ := halts'
  have ranFirst : evaluate limits (count + count') heap scope expr = .halted first := by
    rw [evaluate, Status.run_add, ← evaluate, ran, Status.run_halted]
  have ranSecond : evaluate limits (count + count') heap scope expr = .halted second := by
    rw [Nat.add_comm, evaluate, Status.run_add, ← evaluate, ran', Status.run_halted]
  cases ranFirst.symm.trans ranSecond
  rfl

end BoxLang.Machine
