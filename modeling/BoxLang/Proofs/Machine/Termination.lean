import BoxLang.Proofs.Machine.Phases
import BoxLang.Proofs.Machine.Running

/-!
# A bound on the frames bounds the run

A frame takes one step in each of its phases, and between two of them it waits for
a frame above it.  Where the number of frames is bounded, every frame therefore
leaves or the run halts, by recursion on the room above the frame and, with the
same room, on the phases it has left.  It does not matter where the bodies of
methods come from or what they call.
-/

namespace BoxLang

theorem Limits.fullAt?_eq_none {maxFrames count : Nat}
    (free : (Limits.mk (some maxFrames) none).fullAt? count = none) : count < maxFrames := by
  simpa [Limits.fullAt?] using free

namespace Machine

/-- A run halts or comes back to the frames `below`. -/
def Returns (limits : Limits) (status : Status) (below : Stack Frame) : Prop :=
  ∃ count, status.HaltsWithin limits count ∨
    ∃ machine, status.run limits count = .running machine ∧ machine.frames = below

namespace Returns

variable {limits : Limits} {below upper : Stack Frame}

theorem halted (outcome : Outcome) : Returns limits (.halted outcome) below :=
  ⟨0, Or.inl ⟨outcome, rfl⟩⟩

theorem next {machine : Machine} (returns : Returns limits (machine.next limits) below) :
    Returns limits (.running machine) below := by
  obtain ⟨count, reached⟩ := returns
  exact ⟨count + 1, reached⟩

theorem trans {status : Status} (first : Returns limits status upper)
    (second : ∀ machine, machine.frames = upper → Returns limits (.running machine) below) :
    Returns limits status below := by
  obtain ⟨count, halts | ⟨machine, ran, frames_eq⟩⟩ := first
  · exact ⟨count, Or.inl halts⟩
  · obtain ⟨count', reached⟩ := second machine frames_eq
    rw [← ran] at reached
    refine ⟨count + count', ?_⟩
    rcases reached with halts | ⟨last, ranLast, frames_eq⟩
    · exact Or.inl (Status.haltsWithin_of_run halts)
    · exact Or.inr ⟨last, by rw [Status.run_add, ranLast], frames_eq⟩

end Returns

/-- Under a bound on the frames, the topmost frame leaves or the run halts. -/
theorem returns_below {maxFrames : Nat} (heap : Heap) (values : Stack BoxId) (frame : Frame)
    (below : Stack Frame) (steps : Nat) :
    Returns ⟨some maxFrames, none⟩ (.running ⟨heap, values, below.push frame, steps⟩) below := by
  apply Returns.next
  rw [next_push rfl]
  rcases stepped : frame.step heap values with ⟨heap', values', error | move⟩
  · exact .halted _
  · have moved : (frame.step heap values).move = .ok move := by rw [stepped]
    cases move with
    | leave => exact ⟨0, Or.inr ⟨_, rfl, rfl⟩⟩
    | advance =>
        have unfinished := Frame.phase_lt_of_stays moved (by simp)
        exact returns_below heap' values' { frame with phase := frame.phase + 1 } below _
    | enter scope expr =>
        have unfinished := Frame.phase_lt_of_stays moved (by simp)
        simp only [follow, enter, Stack.size_push]
        split
        case h_1 => exact .halted _
        case h_2 free =>
          have room := Limits.fullAt?_eq_none free
          refine (returns_below heap' values' ⟨scope, expr, 0, values'.size⟩ _ _).trans ?_
          rintro ⟨after, left, frames, taken⟩ rfl
          exact returns_below after left { frame with phase := frame.phase + 1 } below taken
termination_by (maxFrames - below.size, frame.expr.lastPhase - frame.phase)
decreasing_by
  · exact Prod.Lex.right _ (Nat.sub_succ_lt_self _ _ unfinished)
  · exact Prod.Lex.left _ _ (Nat.sub_succ_lt_self _ _ (Nat.lt_of_succ_lt room))
  · exact Prod.Lex.right _ (Nat.sub_succ_lt_self _ _ unfinished)

theorem haltsWithin_of_returns {limits : Limits} {status : Status}
    (returns : Returns limits status .empty) : ∃ count, status.HaltsWithin limits count := by
  obtain ⟨count, halts | ⟨⟨heap, values, frames, steps⟩, ran, rfl⟩⟩ := returns
  · exact ⟨count, halts⟩
  · refine ⟨count + 1, ?_⟩
    have ended : next limits ⟨heap, values, .empty, steps⟩ = halt heap values := rfl
    rw [Status.HaltsWithin, Status.run_succ_of_running ran, ended, halt]
    split
    · exact ⟨_, rfl⟩
    · exact ⟨_, rfl⟩

theorem size_le_of_next {maxFrames : Nat} {machine later : Machine}
    (bounded : machine.frames.size ≤ maxFrames)
    (stepped : machine.next ⟨some maxFrames, none⟩ = .running later) :
    later.frames.size ≤ maxFrames := by
  obtain ⟨frame, below, frames_eq, followed⟩ := next_eq_running stepped
  rw [frames_eq, Stack.size_push] at bounded
  rcases follow_eq_running followed with ⟨-, rfl⟩ | ⟨_, _, -, free, rfl⟩ | ⟨-, rfl⟩
  · exact bounded
  · exact Limits.fullAt?_eq_none free
  · exact Nat.le_of_succ_le bounded

/-- Under a bound on the frames alone, every evaluation halts, and no more frames than
the bound are ever there. -/
theorem evaluate_halts_of_maxFrames (maxFrames : Nat) (heap : Heap) (scope : BoxId)
    (expr : Expr) :
    (∃ outcome, HaltsWith ⟨some maxFrames, none⟩ heap scope expr outcome) ∧
    ∀ count machine, evaluate ⟨some maxFrames, none⟩ count heap scope expr = .running machine →
      machine.frames.size ≤ maxFrames := by
  constructor
  · cases started : start ⟨some maxFrames, none⟩ heap scope expr with
    | halted outcome => exact ⟨outcome, 0, started⟩
    | running machine =>
        obtain ⟨-, rfl⟩ := start_eq_running started
        obtain ⟨count, outcome, ran⟩ := haltsWithin_of_returns (returns_below heap _ _ .empty 0)
        exact ⟨outcome, count, by rw [evaluate, started, ran]⟩
  · intro count machine ran
    refine Status.running_of_invariant ?_ (fun _ _ => size_le_of_next) ran
    intro machine started
    obtain ⟨free, rfl⟩ := start_eq_running started
    exact Limits.fullAt?_eq_none free

end Machine

end BoxLang
