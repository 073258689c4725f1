import BoxLang.Proofs.Heap.Delegation
import BoxLang.Proofs.Heap.References
import BoxLang.Proofs.Machine.CallScopes
import BoxLang.Proofs.Machine.Cost
import BoxLang.Proofs.Reader.Soundness
import BoxLang.Proofs.Reader.Trees

/-!
# Evaluation writes to its own scope

A frame sets variables of its own scope, unless an assignment has a target.  Boxes and calls
start in a new scope and all other parts stay in the one they stand in, so the scope of a frame
is that of the whole evaluation or a box that was made during it.  Hence an evaluation without
such assignments, be it in its tree or in the methods that it calls, leaves the boxes that were
there before as they are, but for the variables of its scope.
-/

namespace BoxLang

/-- No assignment in the body of a method has a target. -/
def Heap.IsConfined (heap : Heap) : Prop :=
  ∀ box body, (heap.method box).body = some body → body.isConfined = true

/-- No assignment that the evaluation of a tree may come to has a target. -/
structure Expr.ConfinedOn (heap : Heap) (expr : Expr) : Prop where
  own : expr.isConfined = true
  called : expr.isCallFree = true ∨ heap.IsConfined

section Parts

variable {heap later : Heap} {target value argument body : Expr} {items : List Expr}
  {name : String}

theorem Expr.ConfinedOn.mono (confined : value.ConfinedOn heap)
    (kept : heap.IsConfined → later.IsConfined) : value.ConfinedOn later :=
  ⟨confined.own, confined.called.imp_right kept⟩

theorem Expr.ConfinedOn.item (confined : (Expr.sequence items).ConfinedOn heap) {item : Expr}
    (member : item ∈ items) : item.ConfinedOn heap := by
  refine ⟨areConfined_iff.mp confined.own item member, confined.called.imp_left ?_⟩
  intro callFree
  exact areCallFree_iff.mp callFree item member

theorem Expr.ConfinedOn.getTarget (confined : (Expr.getFrom target name).ConfinedOn heap) :
    target.ConfinedOn heap :=
  ⟨confined.own, confined.called⟩

theorem Expr.ConfinedOn.assigned (confined : (Expr.assign name value).ConfinedOn heap) :
    value.ConfinedOn heap :=
  ⟨confined.own, confined.called⟩

theorem Expr.ConfinedOn.boxBody (confined : (Expr.box body).ConfinedOn heap) :
    body.ConfinedOn heap :=
  ⟨confined.own, confined.called⟩

theorem Expr.ConfinedOn.methods (confined : (Expr.call target argument).ConfinedOn heap) :
    heap.IsConfined :=
  confined.called.resolve_left Bool.false_ne_true

theorem Expr.ConfinedOn.callParts (confined : (Expr.call target argument).ConfinedOn heap) :
    target.ConfinedOn heap ∧ argument.ConfinedOn heap := by
  obtain ⟨ownTarget, ownArgument⟩ := (Bool.and_eq_true _ _).mp confined.own
  exact ⟨⟨ownTarget, Or.inr confined.methods⟩, ⟨ownArgument, Or.inr confined.methods⟩⟩

end Parts

namespace Heap

variable {heap : Heap}

theorem IsConfined.alloc (confined : heap.IsConfined) {cell : Cell}
    (confinedNew : ∀ body, cell.method.body = some body → body.isConfined = true) :
    (heap.alloc cell).1.IsConfined := by
  intro box body found
  rw [method, cell_alloc] at found
  split at found
  case isTrue => exact confinedNew body found
  case isFalse => exact confined box body found

theorem IsConfined.allocBodiless (confined : heap.IsConfined) (bindings : Bindings BoxId)
    (payload : Option Payload) : (heap.alloc ⟨bindings, .none, payload⟩).1.IsConfined := by
  refine confined.alloc ?_
  intro body found
  cases found

theorem IsConfined.setVariable (confined : heap.IsConfined) (box : BoxId) (name : String)
    (value : BoxId) : (heap.setVariable box name value).IsConfined := by
  intro other body found
  rw [method_setVariable] at found
  exact confined other body found

theorem IsConfined.newOfKind (confined : heap.IsConfined) (payload : Payload) :
    (heap.newOfKind payload).1.IsConfined :=
  (confined.allocBodiless _ _).allocBodiless _ _

theorem isConfined_initial : initial.IsConfined := by
  intro box body found
  rw [method, cell_initial] at found
  cases found

theorem IsConfined.callScope (confined : heap.IsConfined) {method : Method}
    (confinedMethod : ∀ body, method.body = some body → body.isConfined = true)
    (target argument : BoxId) : (heap.callScope target method argument).1.IsConfined :=
  (confined.allocBodiless _ _).alloc confinedMethod

end Heap

namespace Machine

/-- What a step of a frame without targeted assignments does: it changes its scope at most, and
it enters its parts there and all else in a new box. -/
structure Frame.Confines (frame : Frame) (heap : Heap) (effect : Effect) : Prop where
  changes : heap.ChangesOnly frame.scope effect.heap
  methods : heap.IsConfined → effect.heap.IsConfined
  enters : ∀ scope expr, effect.move = .ok (.enter scope expr) →
    expr.ConfinedOn effect.heap ∧ (scope = frame.scope ∨ heap.size ≤ scope)

namespace Frame.Confines

variable {frame : Frame} {heap later : Heap} {values : Stack BoxId}

/-- A step that leaves all boxes as they are. -/
theorem grown {move : Except EvalError Move} (retains : Heap.Retains (fun _ => True) heap later)
    (methods : heap.IsConfined → later.IsConfined)
    (enters : ∀ scope expr, move = .ok (.enter scope expr) →
      expr.ConfinedOn later ∧ (scope = frame.scope ∨ heap.size ≤ scope)) :
    frame.Confines heap ⟨later, values, move⟩ :=
  ⟨retains.changesOnly frame.scope, methods, enters⟩

theorem stays {move : Except EvalError Move}
    (stays : ∀ scope expr, move ≠ .ok (.enter scope expr)) :
    frame.Confines heap ⟨heap, values, move⟩ :=
  grown (.refl heap) id fun scope expr entered => absurd entered (stays scope expr)

theorem advances : frame.Confines heap (.next heap values .advance) :=
  stays (by simp)

theorem leaves : frame.Confines heap (.next heap values .leave) :=
  stays (by simp)

theorem fails (error : EvalError) : frame.Confines heap (.fail heap values error) :=
  stays (by simp)

theorem part {expr : Expr} (confined : expr.ConfinedOn heap) :
    frame.Confines heap (.next heap values (.enter frame.scope expr)) := by
  refine grown (.refl heap) id ?_
  intro scope expr' entered
  cases entered
  exact ⟨confined, Or.inl rfl⟩

theorem withValue {act : Heap → Stack BoxId → BoxId → Effect}
    (acts : ∀ values value, frame.Confines heap (act heap values value)) :
    frame.Confines heap (.withValue heap values act) := by
  unfold Effect.withValue
  split
  · exact acts _ _
  · exact fails _

theorem lookup (box : BoxId) (name : String) :
    frame.Confines heap (.lookup heap values box name) := by
  unfold Effect.lookup
  split
  · exact advances
  · exact fails _

theorem assign (name : String) (value : BoxId) :
    frame.Confines heap (.assign heap values frame.scope name value) :=
  ⟨heap.changesOnly_setVariable frame.scope name value,
    fun confined => confined.setVariable frame.scope name value, nofun⟩

theorem literal (payload : Payload) :
    frame.Confines heap (.value values (heap.newOfKind payload)) :=
  grown ((Heap.retains_alloc heap _).trans (Heap.retains_alloc _ _))
    (fun confined => confined.newOfKind payload) nofun

theorem call (confined : heap.IsConfined) (target argument : BoxId) :
    frame.Confines heap (.call heap values target argument) := by
  unfold Effect.call
  split
  case h_1 => exact fails _
  case h_2 method resolved =>
    obtain ⟨owner, -, rfl⟩ := Heap.resolve?_eq_some_iff.mp resolved
    split
    case h_1 => exact fails _
    case h_2 body found =>
      have methods := confined.callScope (confined owner) target argument
      have isCallScope := heap.isCallScope_callScope target (heap.method owner) argument
      refine grown isCallScope.retains (fun _ => methods) ?_
      intro scope expr entered
      cases entered
      exact ⟨⟨confined owner body found, Or.inr methods⟩, Or.inr isCallScope.isNew.1⟩

end Frame.Confines

open Frame.Confines in
theorem Frame.confines {frame : Frame} {heap : Heap} (confined : frame.expr.ConfinedOn heap)
    (values : Stack BoxId) : frame.Confines heap (frame.step heap values) := by
  obtain ⟨scope, expr, phase, baseline⟩ := frame
  have newBox : heap.IsConfined → heap.newBox.1.IsConfined := fun confined =>
    confined.allocBodiless _ _
  cases expr with
  | sequence items =>
      simp only [step]
      split
      case h_1 item found => exact part (confined.item (List.mem_of_getElem? found))
      case h_2 => split <;> exact leaves
  | get name =>
      rcases phase with _ | phase
      · exact lookup scope name
      · exact leaves
  | getFrom target name =>
      rcases phase with _ | _ | phase
      · exact part confined.getTarget
      · apply withValue
        intro _ target
        exact lookup target name
      · exact leaves
  | assign name value =>
      rcases phase with _ | _ | phase
      · exact part confined.assigned
      · apply withValue
        intro _ value
        exact assign name value
      · exact leaves
  | assignTo target name value => cases confined.own
  | call target argument =>
      rcases phase with _ | _ | _ | phase
      · exact part confined.callParts.1
      · exact part confined.callParts.2
      · apply withValue
        intro _ argument
        apply withValue
        intro _ target
        exact call confined.methods target argument
      · exact leaves
  | emptyBox =>
      rcases phase with _ | _ | phase
      · exact grown (heap.retains_alloc _) newBox (by simp)
      · exact advances
      · exact leaves
  | box body =>
      rcases phase with _ | _ | phase
      · refine grown (heap.retains_alloc _) newBox ?_
        intro scope expr entered
        cases entered
        exact ⟨confined.boxBody.mono newBox, Or.inr (Nat.le_refl _)⟩
      · exact advances
      · exact leaves
  | text bytes =>
      rcases phase with _ | phase
      · exact literal (.string bytes)
      · exact leaves
  | integer number =>
      rcases phase with _ | phase
      · exact literal (.integer number)
      · exact leaves
  | real number =>
      rcases phase with _ | phase
      · exact literal (.real number)
      · exact leaves
  | external function => exact fails _

/-- What every step keeps: the boxes that were there at first, but for the variables of the
root, and frames that are in the root or in new boxes. -/
structure Guarded (start : Heap) (root : BoxId) (machine : Machine) : Prop where
  changes : start.ChangesOnly root machine.heap
  frames : ∀ frame ∈ machine.frames.items, frame.expr.ConfinedOn machine.heap ∧
    (frame.scope = root ∨ start.size ≤ frame.scope)

section Steps

variable {start : Heap} {root : BoxId} {limits : Limits} {machine later : Machine}
  {frame : Frame} {below : Stack Frame}

theorem Guarded.step (guarded : Guarded start root machine)
    (frames_eq : machine.frames = below.push frame) :
    frame.Confines machine.heap (frame.step machine.heap machine.values) ∧
      start.ChangesOnly root (frame.step machine.heap machine.values).heap := by
  have member : frame ∈ machine.frames.items := by simp [frames_eq]
  obtain ⟨confined, own⟩ := guarded.frames frame member
  have confines := Frame.confines confined machine.values
  exact ⟨confines, guarded.changes.andThen confines.changes own⟩

theorem Guarded.next (guarded : Guarded start root machine)
    (stepped : machine.next limits = .running later) : Guarded start root later := by
  obtain ⟨frame, below, frames_eq, followed⟩ := next_eq_running stepped
  obtain ⟨confines, changes⟩ := guarded.step frames_eq
  have size_le := guarded.changes.retains.size_le
  -- The frames that were there still may call no other methods than before.
  have kept : ∀ lower ∈ frame :: below.items,
      lower.expr.ConfinedOn (frame.step machine.heap machine.values).heap ∧
        (lower.scope = root ∨ start.size ≤ lower.scope) := by
    intro lower member
    have items_eq : machine.frames.items = frame :: below.items := by rw [frames_eq]; rfl
    obtain ⟨confined, own⟩ := guarded.frames lower (by rwa [items_eq])
    exact ⟨confined.mono confines.methods, own⟩
  obtain ⟨top, lower⟩ := List.forall_mem_cons.mp kept
  rcases follow_eq_running followed with
    ⟨-, rfl⟩ | ⟨scope, expr, moved, -, rfl⟩ | ⟨-, rfl⟩
  · exact ⟨changes, List.forall_mem_cons.mpr ⟨top, lower⟩⟩
  · obtain ⟨confined, entered⟩ := confines.enters scope expr moved
    have own : scope = root ∨ start.size ≤ scope := by
      rcases entered with rfl | new
      · exact top.2
      · exact Or.inr (Nat.le_trans size_le new)
    exact ⟨changes,
      List.forall_mem_cons.mpr ⟨⟨confined, own⟩, List.forall_mem_cons.mpr ⟨top, lower⟩⟩⟩
  · exact ⟨changes, lower⟩

end Steps

/-- An evaluation changes nothing that was there before but the variables of its scope. -/
theorem changesOnly_of_evaluate {heap : Heap} {expr : Expr} (confined : expr.ConfinedOn heap)
    (limits : Limits) (count : Nat) (scope : BoxId) :
    heap.ChangesOnly scope (evaluate limits count heap scope expr).heap := by
  have unchanged := (Heap.Retains.refl heap).changesOnly scope
  refine heap_of_invariant unchanged ?_ (fun _ _ => Guarded.next)
    (fun _ guarded => guarded.changes) (fun _ _ _ guarded frames_eq => (guarded.step frames_eq).2)
    count
  intro machine started
  rw [(start_eq_running started).2]
  exact ⟨unchanged, List.forall_mem_singleton.mpr ⟨confined, Or.inl rfl⟩⟩

end Machine

theorem Expr.IsLocal.confinedOn {expr : Expr} (isLocal : expr.IsLocal) (heap : Heap) :
    expr.ConfinedOn heap :=
  ⟨isLocal.isConfined, Or.inl isLocal.isCallFree⟩

open Machine

/-- In every state of an evaluation, and however it ends, the boxes that were there before are
as they were, except that its scope may have more variables and other values in them.  This
holds if neither the tree nor a method has an assignment with a target, and it holds of every
program on every heap. -/
theorem evaluate_changes_only_scope {heap : Heap} {expr : Expr}
    (confined : (expr.isConfined = true ∧ heap.IsConfined) ∨
      ∃ maxDepth source, parseWithin maxDepth source = .ok expr)
    (limits : Limits) (count : Nat) (scope : BoxId) :
    heap.ChangesOnly scope (evaluate limits count heap scope expr).heap ∧
    ∀ kind : Kind, kind.box < heap.size → kind.box ≠ scope →
      (evaluate limits count heap scope expr).heap.variableNames kind.box =
        heap.variableNames kind.box := by
  have confinedOn : expr.ConfinedOn heap := by
    rcases confined with ⟨own, methods⟩ | ⟨maxDepth, source, parsed⟩
    · exact ⟨own, Or.inr methods⟩
    · exact (derivesProgram_of_parsed parsed).1.isLocal.confinedOn heap
  have changes := changesOnly_of_evaluate confinedOn limits count scope
  refine ⟨changes, ?_⟩
  intro kind inUse different
  exact changes.retains.variableNames_eq inUse different

/-- A method that sets variables of its caller's names, in a scope of its own. -/
theorem evaluate_changes_only_scope_calling :
    ∃ (heap : Heap) (expr : Expr), expr.isCallFree = false ∧ expr.isConfined = true ∧
      heap.IsConfined ∧ heap.variableNames 7 = ["f", "x"] ∧
      (evaluate .unlimited 30 heap 7 expr).heap.variableNames 7 = ["f", "r", "x"] ∧
      (evaluate .unlimited 30 heap 7 expr).heap.lookup? 7 "x" = heap.lookup? 7 "x" ∧
      heap.ChangesOnly 7 (evaluate .unlimited 30 heap 7 expr).heap := by
  let body : Expr := .sequence [.assign "x" (.integer 1), .assign "f" (.get "x")]
  let callee := Heap.initial.newBox.1.newMethod ⟨["x"], some body⟩
  let heap := (callee.1.setVariable 7 "f" callee.2).setVariable 7 "x" Kind.null.box
  let expr : Expr := .assign "r" (.call (.get "f") (.get "x"))
  have confined : heap.IsConfined := by
    have created : Heap.initial.newBox.1.IsConfined := Heap.isConfined_initial.allocBodiless _ _
    refine ((created.alloc ?_).setVariable _ _ _).setVariable _ _ _
    rintro body ⟨⟩
    rfl
  refine ⟨heap, expr, rfl, rfl, confined, ?_, ?_, ?_, ?_⟩
  · decide +kernel
  · decide +kernel
  · decide +kernel
  · exact (evaluate_changes_only_scope (Or.inl ⟨rfl, confined⟩) .unlimited 30 7).1

end BoxLang
