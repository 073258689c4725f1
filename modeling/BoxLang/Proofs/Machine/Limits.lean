import Mathlib.Data.Finset.Max
import BoxLang.Proofs.Machine.Simulation

/-!
# Limits

A step under limits is the step without them, unless a limit refuses it, and then the
run is over.  So a run under limits goes through the same states as the run without
them, up to the first state in which no step or no frame is left.  The limits that are
enough for a run that halts are those that allow the number of its steps and the
greatest number of its frames.
-/

namespace BoxLang

namespace Limits

/-- A count is within a limit, if there is one. -/
def Allows (limit : Option Nat) (count : Nat) : Prop :=
  ∀ bound ∈ limit, count ≤ bound

instance (limit : Option Nat) (count : Nat) : Decidable (Allows limit count) :=
  inferInstanceAs (Decidable (∀ bound ∈ limit, count ≤ bound))

/-- The second limit, if there is one, is no lower than the first. -/
def Raises (limit raised : Option Nat) : Prop :=
  ∀ bound ∈ raised, ∃ lower ∈ limit, lower ≤ bound

def Within (limits wider : Limits) : Prop :=
  Raises limits.maxFrames wider.maxFrames ∧ Raises limits.maxSteps wider.maxSteps

variable {limits : Limits} {limit raised : Option Nat} {count fewer bound : Nat}

theorem Allows.le (allows : Allows limit count) (ordered : fewer ≤ count) :
    Allows limit fewer := by
  intro bound limited
  exact Nat.le_trans ordered (allows bound limited)

theorem Allows.raise (allows : Allows limit count) (raises : Raises limit raised) :
    Allows raised count := by
  intro bound limited
  obtain ⟨lower, limited, ordered⟩ := raises bound limited
  exact Nat.le_trans (allows lower limited) ordered

theorem filter_eq_none_iff : limit.filter (· ≤ count) = none ↔ Allows limit (count + 1) := by
  simp only [Allows, Option.filter_eq_none_iff, decide_eq_true_eq, Nat.not_le]
  exact Iff.rfl

theorem fullAt?_eq_none_iff :
    limits.fullAt? count = none ↔ Allows limits.maxFrames (count + 1) :=
  filter_eq_none_iff

theorem spentAt?_eq_none_iff :
    limits.spentAt? count = none ↔ Allows limits.maxSteps (count + 1) :=
  filter_eq_none_iff

theorem fullAt?_eq_some_iff :
    limits.fullAt? count = some bound ↔ bound ∈ limits.maxFrames ∧ bound ≤ count := by
  simp [fullAt?, Option.filter_eq_some_iff]

theorem spentAt?_eq_some_iff :
    limits.spentAt? count = some bound ↔ bound ∈ limits.maxSteps ∧ bound ≤ count := by
  simp [spentAt?, Option.filter_eq_some_iff]

end Limits

/-- An error says that a limit was reached. -/
inductive EvalError.IsLimit : EvalError → Prop
  | frames {bound : Nat} : IsLimit (.frameLimit bound)
  | steps {bound : Nat} : IsLimit (.stepLimit bound)

theorem Evaluates.not_isLimit {heap : Heap} {scope : BoxId} {expr : Expr} {outcome : Outcome}
    {error : EvalError} (evaluates : Evaluates heap scope expr outcome)
    (failed : outcome.result = .error error) : ¬error.IsLimit := by
  induction evaluates with
  | sequenceLast _ item => exact item failed
  | sequenceCons _ _ _ rest => exact rest failed
  | call _ _ _ _ _ _ _ body => exact body failed
  | sequenceError _ part | getFromError _ part | assignError _ part
  | assignToTargetError _ part | assignToValueError _ _ _ part | callTargetError _ part
  | callArgumentError _ _ _ part | boxError _ part => exact part failed
  | getMissing | getFromMissing | callCycle | callBodiless | external =>
      cases failed
      intro isLimit
      cases isLimit
  | _ => cases failed

namespace Machine

open Limits

/-- What a step did is carried out as it is without limits, unless it enters one frame
too many. -/
theorem follow_within {limits : Limits} {below : Stack Frame} (frame : Frame) (steps : Nat)
    (effect : Effect) (fits : Allows limits.maxFrames (below.size + 1)) :
    (follow limits frame below steps effect = follow .unlimited frame below steps effect ∧
      ∀ later, follow .unlimited frame below steps effect = .running later →
        Allows limits.maxFrames later.frames.size) ∨
    ∃ bound ∈ limits.maxFrames, ∃ later,
      follow .unlimited frame below steps effect = .running later ∧
        later.frames.size = bound + 1 ∧
        follow limits frame below steps effect = .fail later.heap (.frameLimit bound) := by
  obtain ⟨heap, values, error | move⟩ := effect
  · exact Or.inl ⟨rfl, fun later followed => by cases followed⟩
  · cases move with
    | advance =>
        refine Or.inl ⟨rfl, ?_⟩
        intro later followed
        cases followed
        exact fits
    | enter scope expr =>
        cases full : limits.fullAt? (below.size + 1) with
        | none =>
            have unfull : Limits.unlimited.fullAt? (below.size + 1) = none := rfl
            refine Or.inl ⟨by simp [follow, enter, full, unfull], ?_⟩
            intro later followed
            cases followed
            exact fullAt?_eq_none_iff.mp full
        | some bound =>
            obtain ⟨limited, reached⟩ := fullAt?_eq_some_iff.mp full
            have exact : below.size + 1 = bound := Nat.le_antisymm (fits bound limited) reached
            refine Or.inr ⟨bound, limited, _, rfl, ?_, ?_⟩
            · rw [← exact]
              rfl
            · simp [follow, enter, full]
    | leave =>
        refine Or.inl ⟨rfl, ?_⟩
        intro later followed
        cases followed
        exact fits.le (Nat.le_succ _)

/-- How the step of a machine under limits relates to its step without them. -/
inductive StepsWithin (limits : Limits) (machine : Machine) : Prop
  /-- No limit matters. -/
  | same :
      machine.next limits = machine.next .unlimited →
      (machine.frames ≠ .empty → Allows limits.maxSteps (machine.steps + 1)) →
      (∀ later, machine.next .unlimited = .running later →
        Allows limits.maxFrames later.frames.size) →
      StepsWithin limits machine
  /-- No step is left. -/
  | spent {bound : Nat} :
      bound ∈ limits.maxSteps → bound ≤ machine.steps → machine.frames ≠ .empty →
      machine.next limits = .fail machine.heap (.stepLimit bound) →
      StepsWithin limits machine
  /-- The step is taken, but the frame that it enters is one too many. -/
  | full {bound : Nat} {later : Machine} :
      bound ∈ limits.maxFrames → Allows limits.maxSteps (machine.steps + 1) →
      machine.next .unlimited = .running later → later.frames.size = bound + 1 →
      machine.next limits = .fail later.heap (.frameLimit bound) →
      StepsWithin limits machine

theorem stepsWithin {limits : Limits} {machine : Machine}
    (fits : Allows limits.maxFrames machine.frames.size) : StepsWithin limits machine := by
  obtain ⟨heap, values, frames, steps⟩ := machine
  cases popped : frames.pop? with
  | none =>
      have empty : frames = .empty := (Stack.pop?_eq_none_iff _).mp popped
      subst empty
      refine .same rfl (fun nonempty => absurd rfl nonempty) ?_
      intro later stepped
      obtain ⟨frame, below, pushed, -⟩ := next_eq_running stepped
      cases (Stack.pop?_eq_some_iff ..).mpr pushed
  | some top =>
      obtain ⟨frame, below⟩ := top
      have pushed : frames = below.push frame := (Stack.pop?_eq_some_iff ..).mp popped
      subst pushed
      have nonempty : below.push frame ≠ .empty := by
        intro empty
        cases (Stack.pop?_eq_none_iff _).mpr empty
      cases spent : limits.spentAt? steps with
      | some bound =>
          obtain ⟨limited, reached⟩ := spentAt?_eq_some_iff.mp spent
          exact .spent limited reached nonempty (by simp [next, spent])
      | none =>
          have unspent : Allows limits.maxSteps (steps + 1) := spentAt?_eq_none_iff.mp spent
          have limited : next limits ⟨heap, values, below.push frame, steps⟩ =
              follow limits frame below (steps + 1) (frame.step heap values) := by
            simp [next, spent]
          have unlimited : next .unlimited ⟨heap, values, below.push frame, steps⟩ =
              follow .unlimited frame below (steps + 1) (frame.step heap values) :=
            next_push rfl heap values frame below steps
          rcases follow_within frame (steps + 1) (frame.step heap values) fits with
            ⟨same, room⟩ | ⟨bound, full, later, followed, size, failed⟩
          · refine .same (by rw [limited, unlimited, same]) (fun _ => unspent) ?_
            rwa [unlimited]
          · exact .full full unspent (unlimited.trans followed) size (limited.trans failed)

section Evaluation

variable (limits : Limits) (heap : Heap) (scope : BoxId) (expr : Expr)

/-- The limits are enough for the first `count` steps of an evaluation. -/
def Enough (count : Nat) : Prop :=
  ∀ earlier ≤ count, ∀ machine,
    evaluate .unlimited earlier heap scope expr = .running machine →
      Allows limits.maxFrames machine.frames.size ∧
        (earlier < count → machine.frames ≠ .empty → Allows limits.maxSteps (earlier + 1))

/-- Without limits, the step number `count` of an evaluation is the first to enter a
frame on top of `bound` others.  The step number 0 enters the whole expression. -/
structure Overflows (bound count : Nat) (machine : Machine) : Prop where
  ran : evaluate .unlimited count heap scope expr = .running machine
  size_eq : machine.frames.size = bound + 1
  first : ∀ earlier < count, ∀ machine,
    evaluate .unlimited earlier heap scope expr = .running machine →
      machine.frames.size ≤ bound

/-- An evaluation has a limit in its way after `count` steps, and this is how it ends. -/
inductive Exceeds : Nat → Outcome → Prop
  | frames {bound count : Nat} {machine : Machine} :
      bound ∈ limits.maxFrames → Overflows heap scope expr bound count machine →
      Allows limits.maxSteps count →
      Exceeds count ⟨.error (.frameLimit bound), machine.heap⟩
  | steps {bound : Nat} {machine : Machine} :
      bound ∈ limits.maxSteps →
      evaluate .unlimited bound heap scope expr = .running machine →
      machine.frames ≠ .empty →
      (∀ earlier ≤ bound, ∀ machine,
        evaluate .unlimited earlier heap scope expr = .running machine →
          Allows limits.maxFrames machine.frames.size) →
      Exceeds bound ⟨.error (.stepLimit bound), machine.heap⟩

/-- After `count` steps the limits have made no difference, or one of them has ended the
evaluation. -/
def Followed (count : Nat) : Prop :=
  (Enough limits heap scope expr count ∧
    evaluate limits count heap scope expr = evaluate .unlimited count heap scope expr) ∨
  ∃ earlier outcome, Exceeds limits heap scope expr earlier outcome ∧
    evaluate limits count heap scope expr = .halted outcome

/-- A halting evaluation takes `steps` steps with at most `peak` frames at once. -/
structure Extent (steps peak : Nat) : Prop where
  lt_steps_iff : ∀ count, count < steps ↔
    ∃ machine, evaluate .unlimited count heap scope expr = .running machine ∧
      machine.frames ≠ .empty
  le_peak : ∀ count machine,
    evaluate .unlimited count heap scope expr = .running machine → machine.frames.size ≤ peak
  peak_reached : ∃ count machine,
    evaluate .unlimited count heap scope expr = .running machine ∧ machine.frames.size = peak

variable {limits heap scope expr}

theorem steps_eq_of_evaluate {count : Nat} {machine : Machine}
    (ran : evaluate limits count heap scope expr = .running machine) : machine.steps = count := by
  induction count generalizing machine with
  | zero =>
      obtain ⟨-, rfl⟩ := start_eq_running ran
      rfl
  | succ count inductionHypothesis =>
      obtain ⟨earlier, ranEarlier, stepped⟩ := Status.exists_earlier_of_running ran
      obtain ⟨frame, below, -, followed⟩ := next_eq_running stepped
      rw [← inductionHypothesis ranEarlier]
      rcases follow_eq_running followed with ⟨-, rfl⟩ | ⟨_, _, -, -, rfl⟩ | ⟨-, rfl⟩ <;> rfl

theorem evaluate_succ {count : Nat} {machine : Machine}
    (ran : evaluate limits count heap scope expr = .running machine) :
    evaluate limits (count + 1) heap scope expr = machine.next limits :=
  Status.run_succ_of_running ran

theorem evaluate_of_halted {count later : Nat} {outcome : Outcome}
    (ran : evaluate limits count heap scope expr = .halted outcome) (ordered : count ≤ later) :
    evaluate limits later heap scope expr = .halted outcome := by
  rw [evaluate, ← Nat.add_sub_cancel' ordered, Status.run_add, ← evaluate, ran, Status.run_halted]

/-- An evaluation goes on only from a state with frames. -/
theorem frames_ne_empty_of_evaluate {count earlier : Nat} {later machine : Machine}
    (ran : evaluate limits count heap scope expr = .running later)
    (ranEarlier : evaluate limits earlier heap scope expr = .running machine)
    (ordered : earlier < count) : machine.frames ≠ .empty := by
  intro empty
  cases next : machine.next limits with
  | running next =>
      obtain ⟨frame, below, pushed, -⟩ := next_eq_running next
      rw [empty] at pushed
      cases (Stack.pop?_eq_some_iff ..).mpr pushed
  | halted outcome =>
      have halted := evaluate_of_halted ((evaluate_succ ranEarlier).trans next) ordered
      cases halted.symm.trans ran

theorem Enough.allows_steps {count : Nat} {machine : Machine}
    (enough : Enough limits heap scope expr count)
    (ran : evaluate .unlimited count heap scope expr = .running machine) :
    Allows limits.maxSteps count := by
  cases count with
  | zero => exact fun bound _ => Nat.zero_le bound
  | succ count =>
      obtain ⟨earlier, ranEarlier, -⟩ := Status.exists_earlier_of_running ran
      have nonempty := frames_ne_empty_of_evaluate ran ranEarlier (Nat.lt_succ_self count)
      exact (enough count (Nat.le_succ count) earlier ranEarlier).2 (Nat.lt_succ_self count)
        nonempty

theorem Enough.succ {count : Nat} (enough : Enough limits heap scope expr count)
    (steps : ∀ machine, evaluate .unlimited count heap scope expr = .running machine →
      machine.frames ≠ .empty → Allows limits.maxSteps (count + 1))
    (frames : ∀ machine, evaluate .unlimited (count + 1) heap scope expr = .running machine →
      Allows limits.maxFrames machine.frames.size) :
    Enough limits heap scope expr (count + 1) := by
  intro earlier ordered machine ran
  rcases Nat.lt_or_eq_of_le ordered with less | rfl
  · have ordered := Nat.le_of_lt_succ less
    refine ⟨(enough earlier ordered machine ran).1, ?_⟩
    intro _ nonempty
    rcases Nat.lt_or_eq_of_le ordered with less | rfl
    · exact (enough earlier ordered machine ran).2 less nonempty
    · exact steps machine ran nonempty
  · exact ⟨frames machine ran, fun less => absurd less (Nat.lt_irrefl _)⟩

theorem Enough.raise {wider : Limits} {count : Nat} (enough : Enough limits heap scope expr count)
    (within : limits.Within wider) : Enough wider heap scope expr count := by
  intro earlier ordered machine ran
  obtain ⟨frames, steps⟩ := enough earlier ordered machine ran
  exact ⟨frames.raise within.1, fun less nonempty => (steps less nonempty).raise within.2⟩

theorem followed_zero : Followed limits heap scope expr 0 := by
  cases full : limits.fullAt? 0 with
  | none =>
      refine Or.inl ⟨?_, ?_⟩
      · intro earlier ordered machine ran
        cases Nat.le_zero.mp ordered
        have started : start .unlimited heap scope expr = .running machine := ran
        obtain ⟨-, rfl⟩ := start_eq_running started
        exact ⟨fullAt?_eq_none_iff.mp full, fun less => absurd less (Nat.lt_irrefl 0)⟩
      · have unfull : Limits.unlimited.fullAt? 0 = none := rfl
        simp [evaluate, Status.run, start, enter, Stack.empty, full, unfull]
  | some bound =>
      obtain ⟨limited, reached⟩ := fullAt?_eq_some_iff.mp full
      cases Nat.le_zero.mp reached
      have overflows : Overflows heap scope expr 0 0 _ :=
        ⟨rfl, rfl, fun earlier less => absurd less (Nat.not_lt_zero earlier)⟩
      refine Or.inr ⟨0, _, .frames limited overflows (fun bound _ => Nat.zero_le bound), ?_⟩
      simp [evaluate, Status.run, start, enter, Stack.empty, full, Status.fail]

theorem Enough.followed_of_halted {count : Nat} {outcome : Outcome}
    (enough : Enough limits heap scope expr count)
    (ranLimited : evaluate limits count heap scope expr = .halted outcome)
    (ran : evaluate .unlimited count heap scope expr = .halted outcome) :
    Followed limits heap scope expr (count + 1) := by
  have after := evaluate_of_halted ran (Nat.le_succ count)
  refine Or.inl ⟨enough.succ ?_ ?_, ?_⟩
  · intro machine running
    cases ran.symm.trans running
  · intro machine running
    cases after.symm.trans running
  · rw [after, evaluate_of_halted ranLimited (Nat.le_succ count)]

theorem Enough.followed_of_running {count : Nat} {machine : Machine}
    (enough : Enough limits heap scope expr count)
    (ranLimited : evaluate limits count heap scope expr = .running machine)
    (ran : evaluate .unlimited count heap scope expr = .running machine) :
    Followed limits heap scope expr (count + 1) := by
  have steps_eq := steps_eq_of_evaluate ran
  have unlimited := evaluate_succ ran
  have limited := evaluate_succ ranLimited
  have fits := (enough count (Nat.le_refl count) machine ran).1
  cases stepsWithin fits with
  | same stepped steps frames =>
      refine Or.inl ⟨enough.succ ?_ ?_, ?_⟩
      · intro machine' running
        cases ran.symm.trans running
        rwa [← steps_eq]
      · intro later running
        exact frames later (unlimited.symm.trans running)
      · rw [limited, unlimited, stepped]
  | @spent bound spent reached nonempty failed =>
      have least := enough.allows_steps ran bound spent
      rw [steps_eq] at reached
      cases Nat.le_antisymm least reached
      refine Or.inr ⟨count, _, .steps spent ran nonempty ?_, limited.trans failed⟩
      intro earlier ordered machine running
      exact (enough earlier ordered machine running).1
  | @full bound later full unspent stepped size_eq failed =>
      rw [steps_eq] at unspent
      have overflows : Overflows heap scope expr bound (count + 1) later := by
        refine ⟨unlimited.trans stepped, size_eq, ?_⟩
        intro earlier less machine running
        exact (enough earlier (Nat.le_of_lt_succ less) machine running).1 bound full
      exact Or.inr ⟨count + 1, _, .frames full overflows unspent, limited.trans failed⟩

/-- A run under limits is the run without them as long as they suffice, and the first
limit that does not ends it. -/
theorem followed (count : Nat) : Followed limits heap scope expr count := by
  induction count with
  | zero => exact followed_zero
  | succ count inductionHypothesis =>
      rcases inductionHypothesis with ⟨enough, same⟩ | ⟨earlier, outcome, exceeds, ran⟩
      · cases ran : evaluate .unlimited count heap scope expr with
        | halted outcome => exact enough.followed_of_halted (same.trans ran) ran
        | running machine => exact enough.followed_of_running (same.trans ran) ran
      · exact Or.inr ⟨earlier, outcome, exceeds, evaluate_of_halted ran (Nat.le_succ count)⟩

theorem Overflows.not_allows {bound count : Nat} {machine : Machine}
    (overflows : Overflows heap scope expr bound count machine)
    (limited : bound ∈ limits.maxFrames) : ¬Allows limits.maxFrames machine.frames.size := by
  intro allows
  have allowed := allows bound limited
  rw [overflows.size_eq] at allowed
  exact Nat.not_succ_le_self bound allowed

theorem Overflows.unique {bound count count' : Nat} {machine machine' : Machine}
    (overflows : Overflows heap scope expr bound count machine)
    (overflows' : Overflows heap scope expr bound count' machine') : machine = machine' := by
  have size_eq := overflows.size_eq
  have size_eq' := overflows'.size_eq
  rcases Nat.lt_trichotomy count count' with less | rfl | less
  · have bounded := overflows'.first count less machine overflows.ran
    omega
  · cases overflows.ran.symm.trans overflows'.ran
    rfl
  · have bounded := overflows.first count' less machine' overflows'.ran
    omega

namespace Exceeds

variable {count : Nat} {outcome : Outcome}

theorem allows_steps (exceeds : Exceeds limits heap scope expr count outcome) :
    Allows limits.maxSteps count := by
  cases exceeds with
  | frames _ _ allowed => exact allowed
  | steps limited =>
      intro bound limited'
      cases limited.symm.trans limited'
      exact Nat.le_refl _

theorem isLimit (exceeds : Exceeds limits heap scope expr count outcome) :
    ∃ error, outcome.result = .error error ∧ error.IsLimit := by
  cases exceeds with
  | frames => exact ⟨_, rfl, .frames⟩
  | steps => exact ⟨_, rfl, .steps⟩

theorem not_enough (exceeds : Exceeds limits heap scope expr count outcome) :
    ¬Enough limits heap scope expr (count + 1) := by
  intro enough
  cases exceeds with
  | @frames _ _ machine limited overflows _ =>
      exact overflows.not_allows limited
        (enough count (Nat.le_succ count) machine overflows.ran).1
  | @steps _ machine limited ran nonempty _ =>
      have allowed := (enough count (Nat.le_succ count) machine ran).2 (Nat.lt_succ_self count)
        nonempty count limited
      exact Nat.not_succ_le_self count allowed

/-- Only one limit ends an evaluation. -/
theorem unique {count' : Nat} {outcome' : Outcome}
    (exceeds : Exceeds limits heap scope expr count outcome)
    (exceeds' : Exceeds limits heap scope expr count' outcome') : outcome = outcome' := by
  cases exceeds with
  | @frames _ _ machine limited overflows allowed =>
      cases exceeds' with
      | frames limited' overflows' _ =>
          cases limited.symm.trans limited'
          rw [overflows.unique overflows']
      | steps limited' _ _ fits =>
          have early := allowed count' limited'
          exact absurd (fits count early machine overflows.ran) (overflows.not_allows limited)
  | steps limited ran _ fits =>
      cases exceeds' with
      | @frames _ _ machine' limited' overflows' allowed =>
          have early := allowed count limited
          exact absurd (fits count' early machine' overflows'.ran)
            (overflows'.not_allows limited')
      | steps limited' ran' =>
          cases limited.symm.trans limited'
          cases ran.symm.trans ran'
          rfl

theorem haltsWith (exceeds : Exceeds limits heap scope expr count outcome) :
    HaltsWith limits heap scope expr outcome := by
  rcases followed (count + 1) with ⟨enough, -⟩ | ⟨_, outcome', exceeds', ran⟩
  · exact absurd enough exceeds.not_enough
  · rw [exceeds.unique exceeds']
    exact ⟨count + 1, ran⟩

end Exceeds

theorem evaluate_eq_of_enough (enough : ∀ count, Enough limits heap scope expr count)
    (count : Nat) :
    evaluate limits count heap scope expr = evaluate .unlimited count heap scope expr := by
  rcases followed count with ⟨-, same⟩ | ⟨earlier, _, exceeds, -⟩
  · exact same
  · exact absurd (enough (earlier + 1)) exceeds.not_enough

theorem exists_exceeds (few : ¬∀ count, Enough limits heap scope expr count) :
    ∃ count outcome, Exceeds limits heap scope expr count outcome := by
  obtain ⟨count, few⟩ := Classical.not_forall.mp few
  rcases followed count with ⟨enough, -⟩ | ⟨earlier, outcome, exceeds, -⟩
  · exact absurd enough few
  · exact ⟨earlier, outcome, exceeds⟩

/-- An evaluation that ends for another reason has had enough steps and frames. -/
theorem enough_of_haltsWith {outcome : Outcome} (halts : HaltsWith limits heap scope expr outcome)
    (unlimited : ∀ error, outcome.result = .error error → ¬error.IsLimit) (count : Nat) :
    Enough limits heap scope expr count := by
  apply Classical.byContradiction
  intro few
  obtain ⟨earlier, outcome', exceeds⟩ := exists_exceeds fun enough => few (enough count)
  obtain ⟨error, failed, isLimit⟩ := exceeds.isLimit
  rw [← halts.unique exceeds.haltsWith] at failed
  exact unlimited error failed isLimit

theorem not_enough_of_diverges {bound : Nat}
    (diverges : ∀ outcome, ¬HaltsWith .unlimited heap scope expr outcome)
    (limited : bound ∈ limits.maxSteps) : ¬Enough limits heap scope expr (bound + 1) := by
  have runs : ∀ count, ∃ machine,
      evaluate .unlimited count heap scope expr = .running machine := by
    intro count
    cases ran : evaluate .unlimited count heap scope expr with
    | running machine => exact ⟨machine, rfl⟩
    | halted outcome => exact absurd ⟨count, ran⟩ (diverges outcome)
  intro enough
  obtain ⟨machine, ran⟩ := runs bound
  obtain ⟨later, ranLater⟩ := runs (bound + 1)
  have nonempty := frames_ne_empty_of_evaluate ranLater ran (Nat.lt_succ_self bound)
  have allowed := (enough bound (Nat.le_succ bound) machine ran).2 (Nat.lt_succ_self bound)
    nonempty bound limited
  exact Nat.not_succ_le_self bound allowed

theorem Extent.enough_iff {steps peak : Nat} (extent : Extent heap scope expr steps peak) :
    (∀ count, Enough limits heap scope expr count) ↔
      Allows limits.maxSteps steps ∧ Allows limits.maxFrames peak := by
  constructor
  · intro enough
    constructor
    · cases steps with
      | zero => exact fun bound _ => Nat.zero_le bound
      | succ last =>
          obtain ⟨machine, ran, nonempty⟩ := (extent.lt_steps_iff last).mp (Nat.lt_succ_self last)
          exact (enough (last + 1) last (Nat.le_succ last) machine ran).2 (Nat.lt_succ_self last)
            nonempty
    · obtain ⟨count, machine, ran, rfl⟩ := extent.peak_reached
      exact (enough count count (Nat.le_refl count) machine ran).1
  · rintro ⟨steps, frames⟩ count earlier - machine ran
    refine ⟨frames.le (extent.le_peak earlier machine ran), ?_⟩
    intro _ nonempty
    exact steps.le ((extent.lt_steps_iff earlier).mpr ⟨machine, ran, nonempty⟩)

def Status.frameCount : Status → Nat
  | .running machine => machine.frames.size
  | .halted _ => 0

/-- `last` is the greatest number of steps after which an evaluation still runs. -/
def RunsUntil (heap : Heap) (scope : BoxId) (expr : Expr) (last : Nat) : Prop :=
  ∀ count, (∃ machine, evaluate .unlimited count heap scope expr = .running machine) ↔ count ≤ last

theorem HaltsWith.exists_runsUntil {outcome : Outcome}
    (halts : HaltsWith .unlimited heap scope expr outcome) :
    ∃ last, RunsUntil heap scope expr last := by
  obtain ⟨_, ran⟩ := halts
  rcases Status.exists_earlier_of_halted ran with started | ⟨last, machine, ranLast, stepped⟩
  · cases started
  have ranLast : evaluate .unlimited last heap scope expr = .running machine := ranLast
  have halted := (evaluate_succ ranLast).trans stepped
  refine ⟨last, fun count => ⟨?_, ?_⟩⟩
  · rintro ⟨later, running⟩
    apply Nat.le_of_not_lt
    intro past
    cases running.symm.trans (evaluate_of_halted halted past)
  · intro ordered
    cases status : evaluate .unlimited count heap scope expr with
    | running machine => exact ⟨machine, rfl⟩
    | halted outcome => cases ranLast.symm.trans (evaluate_of_halted status ordered)

/-- The last state counts as one more step if frames are left in it, because the step
that fails is taken too. -/
theorem RunsUntil.exists_steps {last : Nat} (runs : RunsUntil heap scope expr last) :
    ∃ steps, ∀ count, count < steps ↔
      ∃ machine, evaluate .unlimited count heap scope expr = .running machine ∧
        machine.frames ≠ .empty := by
  obtain ⟨machine, ranLast⟩ := (runs last).mpr (Nat.le_refl last)
  by_cases empty : machine.frames = .empty
  · refine ⟨last, fun count => ⟨?_, ?_⟩⟩
    · intro less
      obtain ⟨earlier, running⟩ := (runs count).mpr (Nat.le_of_lt less)
      exact ⟨earlier, running, frames_ne_empty_of_evaluate ranLast running less⟩
    · rintro ⟨earlier, running, nonempty⟩
      apply Nat.lt_of_le_of_ne ((runs count).mp ⟨earlier, running⟩)
      rintro rfl
      cases running.symm.trans ranLast
      exact nonempty empty
  · refine ⟨last + 1, fun count => ⟨?_, ?_⟩⟩
    · intro less
      obtain ⟨earlier, running⟩ := (runs count).mpr (Nat.le_of_lt_succ less)
      refine ⟨earlier, running, ?_⟩
      rcases Nat.lt_or_eq_of_le (Nat.le_of_lt_succ less) with less | rfl
      · exact frames_ne_empty_of_evaluate ranLast running less
      · cases running.symm.trans ranLast
        exact empty
    · rintro ⟨earlier, running, -⟩
      exact Nat.lt_succ_of_le ((runs count).mp ⟨earlier, running⟩)

theorem RunsUntil.exists_peak {last : Nat} (runs : RunsUntil heap scope expr last) :
    ∃ top highest, evaluate .unlimited top heap scope expr = .running highest ∧
      ∀ count machine, evaluate .unlimited count heap scope expr = .running machine →
        machine.frames.size ≤ highest.frames.size := by
  obtain ⟨top, member, greatest⟩ := Finset.exists_max_image (Finset.range (last + 1))
    (fun count => (evaluate .unlimited count heap scope expr).frameCount)
    ⟨0, Finset.mem_range.mpr (Nat.succ_pos last)⟩
  obtain ⟨highest, ranTop⟩ := (runs top).mpr (Nat.le_of_lt_succ (Finset.mem_range.mp member))
  refine ⟨top, highest, ranTop, ?_⟩
  intro count machine running
  have ordered := (runs count).mp ⟨machine, running⟩
  have bounded := greatest count (Finset.mem_range.mpr (Nat.lt_succ_of_le ordered))
  simpa [running, ranTop, Status.frameCount] using bounded

/-- Every evaluation that halts has a number of steps and a greatest number of frames. -/
theorem HaltsWith.exists_extent {outcome : Outcome}
    (halts : HaltsWith .unlimited heap scope expr outcome) :
    ∃ steps peak, Extent heap scope expr steps peak := by
  obtain ⟨last, runs⟩ := halts.exists_runsUntil
  obtain ⟨steps, lt_steps_iff⟩ := runs.exists_steps
  obtain ⟨top, highest, ranTop, le_peak⟩ := runs.exists_peak
  exact ⟨steps, highest.frames.size, lt_steps_iff, le_peak, top, highest, ranTop, rfl⟩

end Evaluation

/-- An evaluation under limits goes through the states of the evaluation without them.
If that halts, the limits leave its outcome as it is exactly if they allow its steps and
its frames; otherwise the first frame or step that they do not allow ends the evaluation
there.  If it does not halt, any limit on the steps ends it. -/
theorem evaluate_within_limits (limits : Limits) (heap : Heap) (scope : BoxId) (expr : Expr) :
    (∀ count machine, evaluate limits count heap scope expr = .running machine →
      evaluate .unlimited count heap scope expr = .running machine) ∧
    (∀ outcome, HaltsWith .unlimited heap scope expr outcome →
      ∃ steps peak, Extent heap scope expr steps peak ∧
        (HaltsWith limits heap scope expr outcome ↔
          Allows limits.maxSteps steps ∧ Allows limits.maxFrames peak) ∧
        (¬(Allows limits.maxSteps steps ∧ Allows limits.maxFrames peak) →
          ∃ count exceeded, Exceeds limits heap scope expr count exceeded ∧
            HaltsWith limits heap scope expr exceeded)) ∧
    (0 ∈ limits.maxFrames →
      evaluate limits 0 heap scope expr = .halted ⟨.error (.frameLimit 0), heap⟩) ∧
    ((∀ outcome, ¬HaltsWith .unlimited heap scope expr outcome) →
      ∀ bound ∈ limits.maxSteps, ∃ count ≤ bound, ∃ exceeded,
        Exceeds limits heap scope expr count exceeded ∧
          HaltsWith limits heap scope expr exceeded) ∧
    ∀ wider, limits.Within wider → ∀ outcome, HaltsWith limits heap scope expr outcome →
      (∀ error, outcome.result = .error error → ¬error.IsLimit) →
      HaltsWith wider heap scope expr outcome := by
  refine ⟨?_, ?_, ?_, ?_, ?_⟩
  · intro count machine ran
    rcases followed count with ⟨-, same⟩ | ⟨_, outcome, -, halted⟩
    · exact same.symm.trans ran
    · cases ran.symm.trans halted
  · intro outcome halts
    obtain ⟨steps, peak, extent⟩ := halts.exists_extent
    refine ⟨steps, peak, extent, ?_, ?_⟩
    · rw [← extent.enough_iff]
      constructor
      · intro halts'
        exact enough_of_haltsWith halts' fun error => halts.evaluates.not_isLimit
      · intro enough
        obtain ⟨count, ran⟩ := halts
        exact ⟨count, (evaluate_eq_of_enough enough count).trans ran⟩
    · intro few
      rw [← extent.enough_iff] at few
      obtain ⟨count, exceeded, exceeds⟩ := exists_exceeds few
      exact ⟨count, exceeded, exceeds, exceeds.haltsWith⟩
  · intro limited
    have full : limits.fullAt? 0 = some 0 := fullAt?_eq_some_iff.mpr ⟨limited, Nat.le_refl 0⟩
    simp [evaluate, Status.run, start, enter, Stack.empty, full, Status.fail]
  · intro diverges bound limited
    have few := not_enough_of_diverges diverges limited
    obtain ⟨count, exceeded, exceeds⟩ := exists_exceeds fun enough => few (enough (bound + 1))
    exact ⟨count, exceeds.allows_steps bound limited, exceeded, exceeds, exceeds.haltsWith⟩
  · intro wider within outcome halts unlimited
    have enough := enough_of_haltsWith halts unlimited
    obtain ⟨count, ran⟩ := halts
    have same := evaluate_eq_of_enough enough count
    have same' := evaluate_eq_of_enough (fun count => (enough count).raise within) count
    exact ⟨count, by rw [same', ← same, ran]⟩

end Machine

end BoxLang
