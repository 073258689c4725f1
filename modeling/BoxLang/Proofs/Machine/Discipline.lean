import BoxLang.Proofs.Machine.Phases
import BoxLang.Proofs.Machine.Running

/-!
# The discipline of the two stacks

All frames share one stack of values.  Each frame but the topmost waits for the
frame above it with the values it holds, so that the baselines cut the stack of
values into the shares of the frames, on top of the Null box at the bottom.  A
step keeps this, whatever the limits, and no step looks below the share of its
frame.
-/

namespace BoxLang.Machine

/-- Waiting frames, topmost first, whose shares reach from the bottom of the stack up
to the given number of values. -/
inductive Fills : List Frame → Nat → Prop
  | bottom {size : Nat} : size = 1 → Fills [] size
  | frame {frame : Frame} {below : List Frame} {size : Nat} :
      size = frame.baseline + frame.owned false → 0 < frame.phase →
      frame.phase ≤ frame.expr.lastPhase → Fills below frame.baseline →
      Fills (frame :: below) size

namespace Fills

variable {above below frames : List Frame} {frame upper lower : Frame} {size : Nat}

theorem baseline_le (fills : Fills frames size) : ∀ frame ∈ frames, frame.baseline ≤ size := by
  induction fills with
  | bottom => simp
  | frame size_eq _ _ _ inductionHypothesis =>
      intro frame member
      rw [size_eq]
      rcases List.mem_cons.mp member with rfl | member
      · exact Nat.le_add_right _ _
      · exact Nat.le_trans (inductionHypothesis frame member) (Nat.le_add_right _ _)

theorem one_le (fills : Fills frames size) : 1 ≤ size := by
  induction fills with
  | bottom size_eq => omega
  | frame => omega

theorem size_le (fills : Fills frames size) : size ≤ frames.length + 1 := by
  induction fills with
  | bottom size_eq => simp [size_eq]
  | @frame top below size size_eq _ _ _ inductionHypothesis =>
      have held := top.owned_le.1
      simp only [List.length_cons]
      omega

theorem bottom_baseline (fills : Fills (above ++ [frame]) size) : frame.baseline = 1 := by
  induction above generalizing size with
  | nil =>
      cases fills with
      | frame _ _ _ rest =>
          cases rest with
          | bottom baseline_eq => exact baseline_eq
  | cons top above inductionHypothesis =>
      cases fills with
      | frame _ _ _ rest => exact inductionHypothesis rest

theorem baseline_eq (fills : Fills (above ++ upper :: lower :: below) size) :
    upper.baseline = lower.baseline + lower.owned false := by
  induction above generalizing size with
  | nil =>
      cases fills with
      | frame _ _ _ rest =>
          cases rest with
          | frame baseline_eq _ _ _ => exact baseline_eq
  | cons top above inductionHypothesis =>
      cases fills with
      | frame _ _ _ rest => exact inductionHypothesis rest

end Fills

/-- The shares of all frames, topmost first, make up the values on the Null box. -/
inductive Balanced : List Frame → Stack BoxId → Prop
  | done {values : Stack BoxId} : values.size = 2 → Balanced [] values
  | top {frame : Frame} {below : List Frame} {values : Stack BoxId} :
      Frame.Sits values frame → Fills below frame.baseline → Balanced (frame :: below) values

namespace Balanced

theorem baseline_le {top frame : Frame} {lower : List Frame} {values : Stack BoxId}
    (balanced : Balanced (top :: lower) values) (member : frame ∈ top :: lower) :
    frame.baseline ≤ top.baseline := by
  cases balanced with
  | top _ fills =>
      rcases List.mem_cons.mp member with rfl | member
      · exact Nat.le_refl _
      · exact fills.baseline_le frame member

/-- The frame below a frame that leaves goes on with the value it was waiting for. -/
theorem ofLeave {below : List Frame} {values : Stack BoxId} {size : Nat}
    (fills : Fills below size) (size_eq : values.size = size + 1) : Balanced below values := by
  cases fills with
  | bottom base_eq => exact .done (by omega)
  | @frame frame below _ base_eq begun phase_le fills =>
      refine .top ⟨?_, phase_le⟩ fills
      obtain ⟨scope, expr, phase, baseline⟩ := frame
      cases phase with
      | zero => exact absurd begun (Nat.lt_irrefl 0)
      | succ phase =>
          rw [size_eq, base_eq]
          rfl

theorem next {limits : Limits} {machine later : Machine}
    (balanced : Balanced machine.frames.items machine.values)
    (stepped : machine.next limits = .running later) :
    Balanced later.frames.items later.values := by
  obtain ⟨frame, below, frames_eq, followed⟩ := next_eq_running stepped
  rw [frames_eq] at balanced
  cases balanced with
  | top sits fills =>
  have keeps := sits.step_keeps machine.heap
  rcases follow_eq_running followed with
    ⟨moved, rfl⟩ | ⟨scope, expr, moved, -, rfl⟩ | ⟨moved, rfl⟩
  · have unfinished := Frame.phase_lt_of_stays moved (by simp)
    exact .top ⟨keeps.advance moved, unfinished⟩ fills
  · have unfinished := Frame.phase_lt_of_stays moved (by simp)
    have waits : Fills ({ frame with phase := frame.phase + 1 } :: below.items) _ :=
      .frame (keeps.enter scope expr moved) (Nat.succ_pos _) unfinished fills
    exact .top ⟨rfl, Nat.zero_le _⟩ waits
  · exact ofLeave fills (keeps.leave moved)

/-- A step leaves the values below the baseline of every frame as they are. -/
theorem truncate_next {limits : Limits} {machine later : Machine} {frame : Frame}
    (balanced : Balanced machine.frames.items machine.values)
    (stepped : machine.next limits = .running later) (member : frame ∈ machine.frames.items) :
    later.values.truncate frame.baseline = machine.values.truncate frame.baseline := by
  obtain ⟨top, lower, frames_eq, followed⟩ := next_eq_running stepped
  rw [frames_eq] at balanced member
  have ordered : frame.baseline ≤ top.baseline := balanced.baseline_le member
  have later_values : later.values = (top.step machine.heap machine.values).values := by
    rcases follow_eq_running followed with
      ⟨-, rfl⟩ | ⟨_, _, -, -, rfl⟩ | ⟨-, rfl⟩ <;> rfl
  cases balanced with
  | top sits fills =>
      rw [later_values, ← Stack.truncate_truncate ordered,
        (sits.step_keeps machine.heap).below_eq, Stack.truncate_truncate ordered]

end Balanced

/-- The bottom frame starts above the Null box, each share ends where the next frame
starts, and the share of the topmost frame ends with the stack. -/
structure Disciplined (machine : Machine) : Prop where
  bottom : ∀ above frame, machine.frames.items = above ++ [frame] → frame.baseline = 1
  between : ∀ above upper lower below,
    machine.frames.items = above ++ upper :: lower :: below →
      lower.baseline ≤ upper.baseline ∧ upper.baseline - lower.baseline = lower.owned false
  top : ∀ frame below, machine.frames.items = frame :: below →
    frame.baseline ≤ machine.values.size ∧
      machine.values.size - frame.baseline = frame.owned true
  size_le : machine.values.size ≤ machine.frames.size + 2

theorem Balanced.disciplined {machine : Machine}
    (balanced : Balanced machine.frames.items machine.values) : Disciplined machine := by
  have frames_size := machine.frames.size_eq
  generalize frames_eq : machine.frames.items = frames at balanced frames_size
  cases balanced with
  | done values_size =>
      refine ⟨?_, ?_, ?_, ?_⟩
      · simp [frames_eq]
      · simp [frames_eq]
      · simp [frames_eq]
      · omega
  | @top top lower values sits fills =>
      have values_size := sits.size_eq
      refine ⟨?_, ?_, ?_, ?_⟩
      · intro above frame split
        rcases List.cons_eq_append_iff.mp (frames_eq.symm.trans split) with
          ⟨-, same⟩ | ⟨above, -, rest⟩
        · cases same
          cases fills with
          | bottom baseline_eq => exact baseline_eq
        · rw [rest] at fills
          exact fills.bottom_baseline
      · intro above upper next below split
        have baseline_eq : upper.baseline = next.baseline + next.owned false := by
          rcases List.cons_eq_append_iff.mp (frames_eq.symm.trans split) with
            ⟨-, same⟩ | ⟨above, -, rest⟩
          · cases same
            cases fills with
            | frame baseline_eq _ _ _ => exact baseline_eq
          · rw [rest] at fills
            exact fills.baseline_eq
        omega
      · intro frame below split
        cases frames_eq.symm.trans split
        omega
      · have held := top.owned_le.2
        have filled := fills.size_le
        simp only [List.length_cons] at frames_size
        omega

/-- A frame was entered after `entry` steps of a run, on top of `values`, and has been
there above the same frames up to `count` steps. -/
structure Entered (status : Nat → Status) (entry count : Nat) (frame : Frame)
    (below : List Frame) (values : Stack BoxId) : Prop where
  entry_le : entry ≤ count
  pushed : ∃ machine, status entry = .running machine ∧ machine.values = values ∧
    machine.frames.items = { frame with phase := 0 } :: below
  baseline_eq : frame.baseline = values.size
  stays : ∀ between, entry ≤ between → between ≤ count → ∃ machine above phase,
    status between = .running machine ∧
      machine.frames.items = above ++ { frame with phase := phase } :: below

theorem Entered.fresh {status : Nat → Status} {count : Nat} {machine : Machine} {frame : Frame}
    {below : List Frame} (ran : status count = .running machine) (new : frame.phase = 0)
    (whole : frame.baseline = machine.values.size)
    (split : machine.frames.items = frame :: below) :
    Entered status count count frame below (machine.values.truncate frame.baseline) := by
  have same : { frame with phase := 0 } = frame := by rw [← new]
  have kept : machine.values.truncate frame.baseline = machine.values := by
    rw [whole, Stack.truncate_size]
  refine ⟨Nat.le_refl count, ⟨machine, ran, kept.symm, by rw [same, split]⟩, ?_, ?_⟩
  · rw [kept, whole]
  · intro between least most
    cases Nat.le_antisymm most least
    exact ⟨machine, [], 0, ran, by rw [same, split]; rfl⟩

theorem Entered.later {status : Nat → Status} {entry count phase : Nat} {frame : Frame}
    {above below : List Frame} {values : Stack BoxId} {machine : Machine}
    (entered : Entered status entry count { frame with phase := phase } below values)
    (ran : status (count + 1) = .running machine)
    (split : machine.frames.items = above ++ frame :: below) :
    Entered status entry (count + 1) frame below values := by
  refine ⟨Nat.le_succ_of_le entered.entry_le, entered.pushed, entered.baseline_eq, ?_⟩
  intro between least most
  rcases Nat.le_succ_iff.mp most with most | rfl
  · exact entered.stays between least most
  · exact ⟨machine, above, frame.phase, ran, split⟩

theorem exists_frame_of_next {limits : Limits} {machine later : Machine}
    (stepped : machine.next limits = .running later) {above below : List Frame} {frame : Frame}
    (split : later.frames.items = above ++ frame :: below) :
    (above = [] ∧ frame.phase = 0 ∧ frame.baseline = later.values.size) ∨
      ∃ above' phase,
        machine.frames.items = above' ++ { frame with phase := phase } :: below := by
  obtain ⟨top, lower, frames_eq, followed⟩ := next_eq_running stepped
  have items_eq : machine.frames.items = top :: lower.items := by rw [frames_eq]; rfl
  -- A frame below the topmost one is where it was.
  have unmoved : ∀ above, lower.items = above ++ frame :: below →
      ∃ above' phase,
        machine.frames.items = above' ++ { frame with phase := phase } :: below := by
    intro above split
    exact ⟨top :: above, frame.phase, by rw [items_eq, split]; rfl⟩
  have advanced : ∀ above,
      { top with phase := top.phase + 1 } :: lower.items = above ++ frame :: below →
      ∃ above' phase,
        machine.frames.items = above' ++ { frame with phase := phase } :: below := by
    intro above split
    rcases List.cons_eq_append_iff.mp split with ⟨rfl, same⟩ | ⟨above, rfl, rest⟩
    · cases same
      exact ⟨[], top.phase, items_eq⟩
    · exact unmoved above rest
  rcases follow_eq_running followed with
    ⟨-, rfl⟩ | ⟨scope, expr, -, -, rfl⟩ | ⟨-, rfl⟩
  · exact Or.inr (advanced above split)
  · rcases List.cons_eq_append_iff.mp split with ⟨rfl, same⟩ | ⟨above, rfl, rest⟩
    · cases same
      exact Or.inl ⟨rfl, rfl, rfl⟩
    · exact Or.inr (advanced above rest)
  · exact Or.inr (unmoved above split)

/-- What every step keeps: the shares of the frames and the Null box below them. -/
structure Steady (machine : Machine) : Prop where
  balanced : Balanced machine.frames.items machine.values
  sentinel : machine.values.truncate 1 = Stack.empty.push Kind.null.box

theorem Steady.next {limits : Limits} {machine later : Machine} (steady : Steady machine)
    (stepped : machine.next limits = .running later) : Steady later := by
  refine ⟨steady.balanced.next stepped, ?_⟩
  obtain ⟨top, lower, frames_eq, -⟩ := next_eq_running stepped
  have balanced := steady.balanced
  have member : top ∈ machine.frames.items := by simp [frames_eq]
  have kept := balanced.truncate_next stepped member
  rw [frames_eq] at balanced
  cases balanced with
  | top sits fills =>
      rw [← Stack.truncate_truncate fills.one_le, kept, Stack.truncate_truncate fills.one_le]
      exact steady.sentinel

/-- A machine that ends well has its result on the Null box and nothing else. -/
theorem Steady.values_eq {machine : Machine} (steady : Steady machine)
    (done : machine.frames = .empty) :
    ∃ value, machine.values = (Stack.empty.push Kind.null.box).push value := by
  have balanced := steady.balanced
  rw [done] at balanced
  cases balanced with
  | done size_eq =>
      obtain ⟨base, value, values_eq, base_size⟩ := Stack.exists_push_of_size size_eq
      have sentinel := steady.sentinel
      rw [values_eq, ← base_size, Stack.truncate_push_size] at sentinel
      exact ⟨value, by rw [values_eq, sentinel]⟩

section Evaluation

variable {limits : Limits} {heap : Heap} {scope : BoxId} {expr : Expr} {count : Nat}
  {machine : Machine}

theorem steady_of_evaluate (ran : evaluate limits count heap scope expr = .running machine) :
    Steady machine := by
  refine Status.running_of_invariant ?_ (fun _ _ => Steady.next) ran
  intro machine started
  rw [(start_eq_running started).2]
  exact ⟨.top ⟨rfl, Nat.zero_le _⟩ (.bottom rfl), rfl⟩

/-- Every frame has been there since it was entered, and so have the values below it. -/
theorem entered_of_evaluate (ran : evaluate limits count heap scope expr = .running machine)
    {above below : List Frame} {frame : Frame}
    (split : machine.frames.items = above ++ frame :: below) :
    ∃ entry, Entered (fun count => evaluate limits count heap scope expr) entry count frame
      below (machine.values.truncate frame.baseline) := by
  induction count generalizing machine above frame with
  | zero =>
      have started := (start_eq_running ran).2
      subst started
      rcases List.cons_eq_append_iff.mp split with ⟨rfl, same⟩ | ⟨above, rfl, rest⟩
      · cases same
        exact ⟨0, .fresh ran rfl rfl rfl⟩
      · simp at rest
  | succ count inductionHypothesis =>
      obtain ⟨earlier, ranEarlier, stepped⟩ := Status.exists_earlier_of_running ran
      rcases exists_frame_of_next stepped split with
        ⟨rfl, new, whole⟩ | ⟨above', phase, splitEarlier⟩
      · exact ⟨count + 1, .fresh ran new whole split⟩
      · obtain ⟨entry, entered⟩ := inductionHypothesis ranEarlier splitEarlier
        have member : { frame with phase := phase } ∈ earlier.frames.items := by
          simp [splitEarlier]
        have kept := (steady_of_evaluate ranEarlier).balanced.truncate_next stepped member
        rw [← kept] at entered
        exact ⟨entry, entered.later ran split⟩

/-- No evaluation fails because a value is missing. -/
theorem result_ne_internal {outcome : Outcome}
    (ran : evaluate limits count heap scope expr = .halted outcome) (message : String) :
    outcome.result ≠ .error (.internal message) := by
  intro internal
  rcases Status.exists_earlier_of_halted ran with started | ⟨earlier, machine, ran, stepped⟩
  · obtain ⟨maxFrames, rfl⟩ := start_eq_halted started
    cases internal
  have steady : Steady machine := steady_of_evaluate ran
  rcases next_eq_halted stepped with
    ⟨done, halted⟩ | ⟨maxSteps, rfl⟩ | ⟨frame, below, frames_eq, followed⟩
  · obtain ⟨value, values_eq⟩ := steady.values_eq done
    simp only [halt, values_eq, Stack.pop?_push] at halted
    cases halted
    cases internal
  · cases internal
  · have balanced := steady.balanced
    rw [frames_eq] at balanced
    cases balanced with
    | top sits fills =>
        obtain ⟨-, ⟨error, moved, failed⟩ | ⟨maxFrames, -, failed⟩⟩ := follow_eq_halted followed
        · cases failed.symm.trans internal
          exact (sits.step_keeps machine.heap).error message moved
        · cases failed.symm.trans internal

theorem exists_values_of_result_ok {outcome : Outcome} {value : BoxId}
    (ran : evaluate limits count heap scope expr = .halted outcome)
    (result_eq : outcome.result = .ok value) :
    ∃ last machine, evaluate limits last heap scope expr = .running machine ∧
      machine.heap = outcome.heap ∧ machine.frames = .empty ∧
      machine.values = (Stack.empty.push Kind.null.box).push value := by
  rcases Status.exists_earlier_of_halted ran with started | ⟨last, machine, ranLast, stepped⟩
  · obtain ⟨maxFrames, rfl⟩ := start_eq_halted started
    cases result_eq
  rcases next_eq_halted stepped with
    ⟨done, halted⟩ | ⟨maxSteps, rfl⟩ | ⟨frame, below, frames_eq, followed⟩
  · obtain ⟨found, values_eq⟩ := (steady_of_evaluate ranLast).values_eq done
    simp only [halt, values_eq, Stack.pop?_push] at halted
    cases halted
    cases result_eq
    exact ⟨last, machine, ranLast, rfl, done, values_eq⟩
  · cases result_eq
  · obtain ⟨-, ⟨error, -, failed⟩ | ⟨maxFrames, -, failed⟩⟩ := follow_eq_halted followed
    · cases failed.symm.trans result_eq
    · cases failed.symm.trans result_eq

end Evaluation

/-- In every state that an evaluation reaches, under any limits, the frames cut the
values into shares of a known size, each frame has kept what it found since it was
entered, and a frame that leaves adds one value.  So no value is ever missing, and an
evaluation that succeeds leaves its result alone on the Null box. -/
theorem evaluate_disciplined (limits : Limits) (heap : Heap) (scope : BoxId) (expr : Expr) :
    (∀ count machine, evaluate limits count heap scope expr = .running machine →
      Disciplined machine ∧
      (∀ above frame below, machine.frames.items = above ++ frame :: below →
        ∃ entry, Entered (fun count => evaluate limits count heap scope expr) entry count
          frame below (machine.values.truncate frame.baseline)) ∧
      ∀ (frame : Frame) (below : Stack Frame), machine.frames = below.push frame →
        ((frame.step machine.heap machine.values).move = .ok .leave →
          (frame.step machine.heap machine.values).values.size = frame.baseline + 1) ∧
        ∀ message,
          (frame.step machine.heap machine.values).move ≠ .error (.internal message)) ∧
    (∀ frame : Frame, frame.owned false ≤ 1 ∧ frame.owned true ≤ 2) ∧
    ∀ count outcome, evaluate limits count heap scope expr = .halted outcome →
      (∀ message, outcome.result ≠ .error (.internal message)) ∧
      ∀ value, outcome.result = .ok value →
        ∃ last machine, evaluate limits last heap scope expr = .running machine ∧
          machine.heap = outcome.heap ∧ machine.frames = .empty ∧
          machine.values = (Stack.empty.push Kind.null.box).push value := by
  refine ⟨?_, Frame.owned_le, ?_⟩
  · intro count machine ran
    have balanced := (steady_of_evaluate ran).balanced
    refine ⟨balanced.disciplined, fun above frame below => entered_of_evaluate ran, ?_⟩
    intro frame below frames_eq
    rw [frames_eq] at balanced
    cases balanced with
    | top sits fills =>
        have keeps := sits.step_keeps machine.heap
        exact ⟨keeps.leave, keeps.error⟩
  · intro count outcome ran
    exact ⟨result_ne_internal ran, fun value => exists_values_of_result_ok ran⟩

end BoxLang.Machine
