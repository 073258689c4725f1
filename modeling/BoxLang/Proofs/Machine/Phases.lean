import BoxLang.Machine.Basic

/-!
# Phases of a frame

How far a frame can go, and how many values it has on top of those it found in
each of its phases.  A step of a frame that has its share of values never looks
below them and leaves the share of the next phase.
-/

namespace BoxLang

namespace Expr

/-- The phase in which a frame for an expression leaves. -/
def lastPhase : Expr → Nat
  | .sequence items => items.length
  | .get _ | .text _ | .integer _ | .real _ => 1
  | .getFrom _ _ | .assign _ _ | .emptyBox | .box _ => 2
  | .assignTo _ _ _ | .call _ _ => 3
  | .external _ => 0

/-- How many values a frame in a given phase keeps while another frame works for it. -/
def heldValues : Expr → Nat → Nat
  | .assignTo _ _ _, 2 | .call _ _, 2 | .box _, 1 => 1
  | _, _ => 0

end Expr

namespace Machine

namespace Frame

/-- The number of values that a frame has on top of those it found. Once it has begun,
a frame on top also has the value of its last phase. -/
def owned (onTop : Bool) (frame : Frame) : Nat :=
  match onTop, frame.phase with
  | true, 0 => 0
  | true, phase + 1 => frame.expr.heldValues (phase + 1) + 1
  | false, phase => frame.expr.heldValues phase

theorem owned_le (frame : Frame) : frame.owned false ≤ 1 ∧ frame.owned true ≤ 2 := by
  obtain ⟨scope, expr, phase, baseline⟩ := frame
  have held : ∀ phase, expr.heldValues phase ≤ 1 := by
    intro phase
    simp only [Expr.heldValues]
    split <;> omega
  refine ⟨held phase, ?_⟩
  cases phase with
  | zero => exact Nat.zero_le 2
  | succ phase => exact Nat.succ_le_succ (held (phase + 1))

/-- A frame stays only before its last phase. -/
theorem phase_lt_of_stays {frame : Frame} {heap : Heap} {values : Stack BoxId} {move : Move}
    (moved : (frame.step heap values).move = .ok move) (stays : move ≠ .leave) :
    frame.phase < frame.expr.lastPhase := by
  apply Nat.lt_of_not_le
  intro last
  obtain ⟨scope, expr, phase, baseline⟩ := frame
  cases expr with
  | sequence items =>
      have ended : items[phase]? = none := List.getElem?_eq_none last
      simp only [step, ended] at moved
      split at moved <;> cases moved <;> exact stays rfl
  | external function => cases moved
  | get _ | text _ | integer _ | real _ =>
      match phase, last with
      | phase + 1, _ =>
          cases moved
          exact stays rfl
  | getFrom _ _ | assign _ _ | emptyBox | box _ =>
      match phase, last with
      | phase + 2, _ =>
          cases moved
          exact stays rfl
  | assignTo _ _ _ | call _ _ =>
      match phase, last with
      | phase + 3, _ =>
          cases moved
          exact stays rfl

/-- A frame is on top of a stack with its share of values. -/
structure Sits (values : Stack BoxId) (frame : Frame) : Prop where
  size_eq : values.size = frame.baseline + frame.owned true
  phase_le : frame.phase ≤ frame.expr.lastPhase

/-- What a step of a frame on top of `values` leads to. -/
structure Keeps (values : Stack BoxId) (frame : Frame) (effect : Effect) : Prop where
  below_eq : effect.values.truncate frame.baseline = values.truncate frame.baseline
  advance : effect.move = .ok .advance →
    effect.values.size = frame.baseline + owned true { frame with phase := frame.phase + 1 }
  enter : ∀ scope expr, effect.move = .ok (.enter scope expr) →
    effect.values.size = frame.baseline + owned false { frame with phase := frame.phase + 1 }
  leave : effect.move = .ok .leave → effect.values.size = frame.baseline + 1
  error : ∀ message, effect.move ≠ .error (.internal message)

namespace Keeps

variable {values base : Stack BoxId} {frame : Frame} {heap : Heap}

theorem ofAdvance {values' : Stack BoxId}
    (below_eq : values'.truncate frame.baseline = values.truncate frame.baseline)
    (size_eq : values'.size = frame.baseline +
      owned true { frame with phase := frame.phase + 1 }) :
    Keeps values frame (.next heap values' .advance) where
  below_eq := below_eq
  advance _ := size_eq
  enter _ _ entered := by cases entered
  leave left := by cases left
  error _ failed := by cases failed

theorem ofEnter {values' : Stack BoxId} {scope : BoxId} {expr : Expr}
    (below_eq : values'.truncate frame.baseline = values.truncate frame.baseline)
    (size_eq : values'.size = frame.baseline +
      owned false { frame with phase := frame.phase + 1 }) :
    Keeps values frame (.next heap values' (.enter scope expr)) where
  below_eq := below_eq
  advance advanced := by cases advanced
  enter _ _ _ := size_eq
  leave left := by cases left
  error _ failed := by cases failed

theorem ofLeave {values' : Stack BoxId}
    (below_eq : values'.truncate frame.baseline = values.truncate frame.baseline)
    (size_eq : values'.size = frame.baseline + 1) :
    Keeps values frame (.next heap values' .leave) where
  below_eq := below_eq
  advance advanced := by cases advanced
  enter _ _ entered := by cases entered
  leave _ := size_eq
  error _ failed := by cases failed

theorem ofFail {values' : Stack BoxId} {error : EvalError}
    (below_eq : values'.truncate frame.baseline = values.truncate frame.baseline)
    (external : ∀ message, error ≠ .internal message) :
    Keeps values frame (.fail heap values' error) where
  below_eq := below_eq
  advance advanced := by cases advanced
  enter _ _ entered := by cases entered
  leave left := by cases left
  error message failed := by
    cases failed
    exact external message rfl

/-- A step that puts one value in the place of all that a frame has. -/
theorem ofValue (found : frame.baseline = base.size)
    (below_eq : values.truncate frame.baseline = base)
    (one : owned true { frame with phase := frame.phase + 1 } = 1) (value : BoxId) :
    Keeps values frame (.next heap (base.push value) .advance) := by
  apply ofAdvance
  · rw [below_eq, found, Stack.truncate_push_size]
  · rw [one, found, Stack.size_push]

theorem ofLookup (found : frame.baseline = base.size)
    (below_eq : values.truncate frame.baseline = base)
    (one : owned true { frame with phase := frame.phase + 1 } = 1) (box : BoxId)
    (name : String) : Keeps values frame (.lookup heap base box name) := by
  unfold Effect.lookup
  split
  · exact ofValue found below_eq one _
  · refine ofFail ?_ (by simp)
    rw [below_eq, found, Stack.truncate_size]

theorem ofCall (found : frame.baseline = base.size)
    (below_eq : values.truncate frame.baseline = base)
    (none : owned false { frame with phase := frame.phase + 1 } = 0) (target argument : BoxId) :
    Keeps values frame (.call heap base target argument) := by
  have base_eq : base.truncate frame.baseline = values.truncate frame.baseline := by
    rw [below_eq, found, Stack.truncate_size]
  unfold Effect.call
  split
  · exact ofFail base_eq (by simp)
  · split
    · exact ofFail base_eq (by simp)
    · apply ofEnter base_eq
      rw [none, found, Nat.add_zero]

end Keeps

/-- A step of a frame with its share of values never reaches below them. -/
theorem Sits.step_keeps {values : Stack BoxId} {frame : Frame} (sits : Sits values frame)
    (heap : Heap) : Keeps values frame (frame.step heap values) := by
  obtain ⟨scope, expr, phase, baseline⟩ := frame
  obtain ⟨size_eq, phase_le⟩ := sits
  cases expr with
  | sequence items =>
      simp only [step]
      split
      case h_1 item _ =>
        apply Keeps.ofEnter
        · exact Stack.truncate_truncate (Nat.le_refl baseline) values
        · rw [Stack.size_truncate, size_eq]
          exact Nat.min_eq_right (Nat.le_add_right _ _)
      case h_2 ended =>
        have last : items.length ≤ phase := List.getElem?_eq_none_iff.mp ended
        split
        case isTrue empty =>
          have none : items = [] := List.isEmpty_iff.mp empty
          subst none
          have start : phase = 0 := Nat.le_zero.mp phase_le
          subst start
          have found : baseline = values.size := size_eq.symm
          subst found
          exact .ofLeave (by rw [Stack.truncate_push_size, Stack.truncate_size]) rfl
        case isFalse nonempty =>
          match phase, size_eq, last with
          | 0, _, last => simp_all
          | phase + 1, size_eq, _ => exact .ofLeave rfl size_eq
  | get name =>
      match phase, size_eq with
      | 0, size_eq =>
          have found : baseline = values.size := size_eq.symm
          subst found
          exact .ofLookup rfl (Stack.truncate_size values) rfl scope name
      | phase + 1, size_eq => exact .ofLeave rfl size_eq
  | getFrom target name =>
      match phase, size_eq with
      | 0, size_eq => exact .ofEnter rfl size_eq
      | 1, size_eq =>
          obtain ⟨base, box, rfl, rfl⟩ := Stack.exists_push_of_size size_eq
          exact .ofLookup rfl (Stack.truncate_push_size base box) rfl box name
      | phase + 2, size_eq => exact .ofLeave rfl size_eq
  | assign name value =>
      match phase, size_eq with
      | 0, size_eq => exact .ofEnter rfl size_eq
      | 1, size_eq =>
          obtain ⟨base, box, rfl, rfl⟩ := Stack.exists_push_of_size size_eq
          exact .ofValue rfl (Stack.truncate_push_size base box) rfl box
      | phase + 2, size_eq => exact .ofLeave rfl size_eq
  | assignTo target name value =>
      match phase, size_eq with
      | 0, size_eq => exact .ofEnter rfl size_eq
      | 1, size_eq => exact .ofEnter rfl size_eq
      | 2, size_eq =>
          obtain ⟨lower, box, rfl, large⟩ := Stack.exists_push_of_size size_eq
          obtain ⟨base, owner, rfl, rfl⟩ := Stack.exists_push_of_size large
          exact .ofValue rfl (Stack.truncate_push_push_size base owner box) rfl box
      | phase + 3, size_eq => exact .ofLeave rfl size_eq
  | call target argument =>
      match phase, size_eq with
      | 0, size_eq => exact .ofEnter rfl size_eq
      | 1, size_eq => exact .ofEnter rfl size_eq
      | 2, size_eq =>
          obtain ⟨lower, box, rfl, large⟩ := Stack.exists_push_of_size size_eq
          obtain ⟨base, callee, rfl, rfl⟩ := Stack.exists_push_of_size large
          exact .ofCall rfl (Stack.truncate_push_push_size base callee box) rfl callee box
      | phase + 3, size_eq => exact .ofLeave rfl size_eq
  | emptyBox =>
      match phase, size_eq with
      | 0, size_eq =>
          have found : baseline = values.size := size_eq.symm
          subst found
          exact .ofValue rfl (Stack.truncate_size values) rfl _
      | 1, size_eq =>
          apply Keeps.ofAdvance
          · exact Stack.truncate_truncate (Nat.le_succ baseline) values
          · rw [Stack.size_truncate, size_eq]
            exact Nat.min_self _
      | phase + 2, size_eq => exact .ofLeave rfl size_eq
  | box body =>
      match phase, size_eq with
      | 0, size_eq =>
          have found : baseline = values.size := size_eq.symm
          subst found
          refine .ofEnter ?_ rfl
          rw [Stack.truncate_push_size, Stack.truncate_size]
      | 1, size_eq =>
          apply Keeps.ofAdvance
          · exact Stack.truncate_truncate (Nat.le_succ baseline) values
          · rw [Stack.size_truncate, size_eq]
            exact Nat.min_eq_right (Nat.le_succ _)
      | phase + 2, size_eq => exact .ofLeave rfl size_eq
  | text _ | integer _ | real _ =>
      match phase, size_eq with
      | 0, size_eq =>
          have found : baseline = values.size := size_eq.symm
          subst found
          exact .ofValue rfl (Stack.truncate_size values) rfl _
      | phase + 1, size_eq => exact .ofLeave rfl size_eq
  | external function => exact .ofFail rfl (by simp)

end Frame

end Machine

end BoxLang
