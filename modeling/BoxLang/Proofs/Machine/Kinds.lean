import BoxLang.Proofs.Machine.Acyclicity
import BoxLang.Proofs.Reader.Shapes
import BoxLang.Proofs.Reader.Trees

/-!
# Kinds and payloads

The kinds of a box are read off its variable `components`, which a program may set as well.
But no value of a program is the box of a kind or a list, and these alone make a box one of a
kind.  The only such value that a program comes across is the Null box of an empty sequence;
it is the value of a whole program or of the body of a box, which is dropped.
-/

namespace BoxLang

namespace Heap

/-- A box that a program may name. -/
structure IsOrdinary (heap : Heap) (box : BoxId) : Prop where
  inUse : box < heap.size
  not_kind : ∀ kind : Kind, box ≠ kind.box
  not_list : heap.list? box = none

/-- The contents of a box whose components tell the kind of its payload. -/
inductive Admits (heap : Heap) (cell : Cell) : Prop
  | plain : cell.payload = none →
      (∀ name value, cell.bindings.find? name = some value → heap.IsOrdinary value) →
      Admits heap cell
  | list {items : List BoxId} : cell.payload = some (.list items) →
      cell.bindings.find? componentsName = some Kind.list.box → Admits heap cell
  | literal {payload : Payload} {components : BoxId} : cell.payload = some payload →
      payload.IsLiteral → cell.bindings.find? componentsName = some components →
      (∀ kind : Kind, components ≠ kind.box) → heap.list? components = some [payload.kind.box] →
      Admits heap cell

/-- The components of all boxes tell the kinds of their payloads. -/
structure WellKinded (heap : Heap) : Prop where
  kinds : Kind.all.length ≤ heap.size
  bare : ∀ kind : Kind, heap.payload? kind.box = none
  admits : ∀ box, heap.Admits (heap.cell box)

theorem isKind_iff {heap : Heap} {box : BoxId} {kind : Kind} :
    heap.isKind box kind = true ↔
      ∃ components, heap.lookup? box componentsName = some components ∧
        (components = kind.box ∨
          ∃ items, heap.list? components = some items ∧ kind.box ∈ items) := by
  unfold isKind
  cases heap.lookup? box componentsName with
  | none => simp
  | some components =>
      cases listed : heap.list? components with
      | none => simp [listed]
      | some items => simp [listed]

section Kinds

variable {heap : Heap} {box : BoxId}

theorem list?_eq_none (bare : heap.payload? box = none) : heap.list? box = none := by
  rw [list?, bare]

theorem WellKinded.isKind_iff (wellKinded : heap.WellKinded) (box : BoxId) (kind : Kind) :
    heap.isKind box kind = true ↔
      ∃ payload, heap.payload? box = some payload ∧ payload.kind = kind := by
  rw [Heap.isKind_iff, payload?]
  cases wellKinded.admits box with
  | plain bare ordinary =>
      rw [bare]
      constructor
      · rintro ⟨components, found, same | ⟨items, listed, -⟩⟩
        · exact absurd same ((ordinary _ _ found).not_kind kind)
        · cases listed.symm.trans (ordinary _ _ found).not_list
      · rintro ⟨payload, carried, -⟩
        cases carried
  | list carried found =>
      have unlisted := list?_eq_none (wellKinded.bare .list)
      rw [lookup?, found, carried]
      constructor
      · rintro ⟨_, ⟨⟩, same | ⟨items, listed, -⟩⟩
        · exact ⟨_, rfl, Kind.box_injective same⟩
        · cases listed.symm.trans unlisted
      · rintro ⟨payload, ⟨⟩, rfl⟩
        exact ⟨_, rfl, Or.inl rfl⟩
  | literal carried _ found notKind listed =>
      rw [lookup?, found, carried]
      constructor
      · rintro ⟨_, ⟨⟩, same | ⟨items, listed', member⟩⟩
        · exact absurd same (notKind kind)
        · cases listed.symm.trans listed'
          exact ⟨_, rfl, (Kind.box_injective (List.mem_singleton.mp member)).symm⟩
      · rintro ⟨payload, ⟨⟩, rfl⟩
        exact ⟨_, rfl, Or.inr ⟨_, listed, List.mem_singleton_self _⟩⟩

theorem WellKinded.kind_mem (wellKinded : heap.WellKinded) {payload : Payload}
    (carried : heap.payload? box = some payload) :
    payload.kind ∈ [Kind.integer, .real, .string, .list] := by
  rw [payload?] at carried
  cases wellKinded.admits box with
  | plain bare _ => cases bare.symm.trans carried
  | list carried' _ =>
      cases carried'.symm.trans carried
      exact List.mem_of_elem_eq_true rfl
  | literal carried' isLiteral _ _ _ =>
      cases carried'.symm.trans carried
      cases isLiteral <;> exact List.mem_of_elem_eq_true rfl

end Kinds

/-- The boxes of a heap carry the same payloads in a later one. -/
structure KeepsPayloads (heap later : Heap) : Prop where
  size_le : heap.size ≤ later.size
  payload_eq : ∀ box < heap.size, later.payload? box = heap.payload? box

section Growth

variable {heap later : Heap} {box : BoxId} {cell : Cell}

theorem lt_size_of_list? {items : List BoxId} (listed : heap.list? box = some items) :
    box < heap.size := by
  apply Nat.lt_of_not_le
  intro unused
  rw [list?, payload?, cell_eq_empty unused] at listed
  cases listed

theorem KeepsPayloads.trans {middle : Heap} (first : heap.KeepsPayloads middle)
    (second : middle.KeepsPayloads later) : heap.KeepsPayloads later := by
  refine ⟨Nat.le_trans first.size_le second.size_le, ?_⟩
  intro box inUse
  rw [second.payload_eq box (Nat.lt_of_lt_of_le inUse first.size_le), first.payload_eq box inUse]

theorem KeepsPayloads.list?_eq (keeps : heap.KeepsPayloads later) (inUse : box < heap.size) :
    later.list? box = heap.list? box := by
  rw [list?, keeps.payload_eq box inUse, list?]

theorem KeepsPayloads.isOrdinary (keeps : heap.KeepsPayloads later)
    (ordinary : heap.IsOrdinary box) : later.IsOrdinary box := by
  refine ⟨Nat.lt_of_lt_of_le ordinary.inUse keeps.size_le, ordinary.not_kind, ?_⟩
  rw [keeps.list?_eq ordinary.inUse]
  exact ordinary.not_list

theorem KeepsPayloads.admits (keeps : heap.KeepsPayloads later) (admits : heap.Admits cell) :
    later.Admits cell := by
  cases admits with
  | plain bare ordinary =>
      refine .plain bare ?_
      intro name value found
      exact keeps.isOrdinary (ordinary name value found)
  | list carried found => exact .list carried found
  | literal carried isLiteral found notKind listed =>
      refine .literal carried isLiteral found notKind ?_
      rw [keeps.list?_eq (lt_size_of_list? listed)]
      exact listed

theorem keepsPayloads_alloc (heap : Heap) (cell : Cell) :
    heap.KeepsPayloads (heap.alloc cell).1 := by
  refine ⟨by simp, ?_⟩
  intro box inUse
  rw [payload?, cell_alloc, if_neg (Nat.ne_of_lt inUse), payload?]

theorem keepsPayloads_setVariable (heap : Heap) (box : BoxId) (name : String) (value : BoxId) :
    heap.KeepsPayloads (heap.setVariable box name value) := by
  refine ⟨by simp, ?_⟩
  intro other _
  rw [payload?, payload_setVariable, payload?]

theorem KeepsPayloads.bare (keeps : heap.KeepsPayloads later) (wellKinded : heap.WellKinded)
    (kind : Kind) : later.payload? kind.box = none := by
  rw [keeps.payload_eq kind.box (Nat.lt_of_lt_of_le kind.box_lt wellKinded.kinds)]
  exact wellKinded.bare kind

/-- A box that was made after the boxes of the kinds is none of them. -/
theorem WellKinded.ne_kind (wellKinded : heap.WellKinded) (new : heap.size ≤ box) (kind : Kind) :
    box ≠ kind.box :=
  Nat.ne_of_gt (Nat.lt_of_lt_of_le kind.box_lt (Nat.le_trans wellKinded.kinds new))

end Growth

theorem admits_empty (heap : Heap) : heap.Admits .empty := by
  refine .plain rfl ?_
  intro name value found
  cases found

theorem wellKinded_initial : initial.WellKinded := by
  refine ⟨Nat.le_refl 7, ?_, ?_⟩
  · intro kind
    rw [payload?, cell_initial]
    rfl
  · intro box
    rw [cell_initial]
    exact admits_empty initial

section Allocation

variable {heap : Heap}

theorem WellKinded.alloc (wellKinded : heap.WellKinded) {cell : Cell}
    (admits : heap.Admits cell) : (heap.alloc cell).1.WellKinded := by
  have keeps := heap.keepsPayloads_alloc cell
  refine ⟨Nat.le_trans wellKinded.kinds keeps.size_le, keeps.bare wellKinded, ?_⟩
  intro box
  rw [cell_alloc]
  split
  · exact keeps.admits admits
  · exact keeps.admits (wellKinded.admits box)

theorem WellKinded.isOrdinary_alloc (wellKinded : heap.WellKinded) {cell : Cell}
    (unlisted : ∀ items, cell.payload ≠ some (.list items)) :
    (heap.alloc cell).1.IsOrdinary (heap.alloc cell).2 := by
  refine ⟨?_, wellKinded.ne_kind (Nat.le_refl _), ?_⟩
  · rw [size_alloc]
    exact Nat.lt_succ_self heap.size
  · rw [list?, payload?, cell_alloc_new]
    split
    case h_1 items carried => exact absurd carried (unlisted items)
    case h_2 => rfl

theorem WellKinded.newBox (wellKinded : heap.WellKinded) :
    heap.newBox.1.WellKinded ∧ heap.newBox.1.IsOrdinary heap.newBox.2 :=
  ⟨wellKinded.alloc (admits_empty heap), wellKinded.isOrdinary_alloc nofun⟩

theorem find?_components (components : BoxId) :
    (Bindings.empty.insert componentsName components).find? componentsName = some components := by
  rw [Bindings.find?_insert, if_pos rfl]

theorem WellKinded.newOfKind (wellKinded : heap.WellKinded) {payload : Payload}
    (isLiteral : payload.IsLiteral) :
    (heap.newOfKind payload).1.WellKinded ∧
      (heap.newOfKind payload).1.IsOrdinary (heap.newOfKind payload).2 := by
  have list : (heap.newList [payload.kind.box]).1.WellKinded :=
    wellKinded.alloc (.list rfl (find?_components _))
  have listed : (heap.newList [payload.kind.box]).1.list? heap.size = some [payload.kind.box] := by
    rw [list?, payload?, newList, newFromParts, cell_alloc, if_pos rfl]
  constructor
  · exact list.alloc (.literal rfl isLiteral (find?_components _)
      (wellKinded.ne_kind (Nat.le_refl _)) listed)
  · apply list.isOrdinary_alloc
    intro items carried
    cases carried
    cases isLiteral

theorem keepsPayloads_newOfKind (heap : Heap) (payload : Payload) :
    heap.KeepsPayloads (heap.newOfKind payload).1 :=
  (heap.keepsPayloads_alloc _).trans (keepsPayloads_alloc _ _)

end Allocation

section Assignment

variable {heap : Heap} {scope value : BoxId}

theorem IsScope.payload_eq (isScope : heap.IsScope scope) : (heap.cell scope).payload = none := by
  rw [← Option.not_isSome_iff_eq_none]
  intro carried
  exact isScope.not_fixed (Or.inr carried)

/-- What stands in the variables of a box that programs may write to. -/
theorem WellKinded.isOrdinary_of_find? (wellKinded : heap.WellKinded)
    (isScope : heap.IsScope scope) {name : String}
    (found : (heap.cell scope).bindings.find? name = some value) : heap.IsOrdinary value := by
  have bare := isScope.payload_eq
  cases wellKinded.admits scope with
  | plain _ ordinary => exact ordinary name value found
  | list carried _ => cases bare.symm.trans carried
  | literal carried _ _ _ _ => cases bare.symm.trans carried

theorem WellKinded.setVariable (wellKinded : heap.WellKinded) (isScope : heap.IsScope scope)
    (ordinary : heap.IsOrdinary value) (name : String) :
    (heap.setVariable scope name value).WellKinded := by
  have keeps := heap.keepsPayloads_setVariable scope name value
  refine ⟨Nat.le_trans wellKinded.kinds keeps.size_le, keeps.bare wellKinded, ?_⟩
  intro box
  apply keeps.admits
  rw [Heap.setVariable, cell_modifyVariables]
  split
  case isTrue same =>
    obtain ⟨rfl, -⟩ := same
    refine .plain isScope.payload_eq ?_
    intro query other found
    rw [Bindings.find?_insert] at found
    split at found
    · cases found
      exact ordinary
    · exact wellKinded.isOrdinary_of_find? isScope found
  case isFalse => exact wellKinded.admits box

end Assignment

end Heap

theorem Expr.IsSequence.isLocal {expr : Expr} (isSequence : expr.IsSequence) : expr.IsLocal := by
  obtain ⟨text, derives⟩ := Reader.exists_derivesProgram isSequence
  exact derives.isLocal

namespace Machine

/-- A box frame that waits for the body, whose value it drops. -/
structure Frame.AwaitsBody (frame : Frame) : Prop where
  isBox : ∃ body, frame.expr = .box body
  begun : frame.phase = 1

/-- Frames of a program, topmost first.  Only a frame that drops the value waits for a sequence
that is no item. -/
inductive Shaped : List Frame → Prop
  | nil : Shaped []
  | cons {frame : Frame} {below : List Frame} :
      frame.expr.IsSequence → (frame.expr.IsItem ∨ ∀ lower ∈ below.head?, lower.AwaitsBody) →
      Shaped below → Shaped (frame :: below)

/-- How a frame of a program goes on: it enters items, or is that of a box and enters its body,
and the frame of an item has its value before it leaves. -/
structure Frame.Proceeds (frame : Frame) (values : Stack BoxId) (effect : Effect) : Prop where
  enters : ∀ scope expr, effect.move = .ok (.enter scope expr) →
    expr.IsItem ∨ (expr.IsSequence ∧ Frame.AwaitsBody { frame with phase := frame.phase + 1 })
  leaves : frame.expr.IsItem → effect.move = .ok .leave → effect.values = values

namespace Frame.Proceeds

variable {frame : Frame} {heap : Heap} {values values' : Stack BoxId}

theorem fail (error : EvalError) : frame.Proceeds values (.fail heap values' error) := by
  constructor <;> simp [Effect.fail]

theorem advance : frame.Proceeds values (.next heap values' .advance) := by
  constructor <;> simp [Effect.next]

theorem leave : frame.Proceeds values (.next heap values .leave) := by
  constructor <;> simp [Effect.next]

/-- Only a frame that is not of an item may leave with a value that it did not have. -/
theorem leaveWith (notItem : ¬frame.expr.IsItem) :
    frame.Proceeds values (.next heap values' .leave) := by
  refine ⟨by simp [Effect.next], ?_⟩
  intro isItem
  exact absurd isItem notItem

theorem enter {scope : BoxId} {expr : Expr}
    (shape : expr.IsItem ∨
      (expr.IsSequence ∧ Frame.AwaitsBody { frame with phase := frame.phase + 1 })) :
    frame.Proceeds values (.next heap values' (.enter scope expr)) := by
  refine ⟨?_, nofun⟩
  rintro _ _ ⟨⟩
  exact shape

end Frame.Proceeds

theorem Frame.proceeds {frame : Frame} (isSequence : frame.expr.IsSequence) (heap : Heap)
    (values : Stack BoxId) : frame.Proceeds values (frame.step heap values) := by
  obtain ⟨scope, expr, phase, baseline⟩ := frame
  cases isSequence with
  | several _ areItems =>
      simp only [step]
      split
      case h_1 item found => exact .enter (Or.inl (areItems item (List.mem_of_getElem? found)))
      case h_2 =>
        split
        · refine .leaveWith ?_
          intro isItem
          cases isItem
        · exact .leave
  | single isItem =>
      cases isItem with
      | assign _ isItem =>
          rcases phase with _ | _ | phase
          · exact .enter (Or.inl isItem)
          · simp only [step, Effect.withValue]
            split
            · exact .advance
            · exact .fail _
          · exact .leave
      | box isSequence =>
          rcases phase with _ | _ | phase
          · exact .enter (Or.inr ⟨isSequence, ⟨_, rfl⟩, rfl⟩)
          · exact .advance
          · exact .leave
      | get =>
          rcases phase with _ | phase
          · simp only [step, Effect.lookup]
            split
            · exact .advance
            · exact .fail _
          · exact .leave
      | text | integer | real =>
          rcases phase with _ | phase
          · exact .advance
          · exact .leave

/-- All values on the Null box at the bottom are ordinary. -/
def AreOrdinary (heap : Heap) (values : Stack BoxId) : Prop :=
  ∀ value ∈ values.above 1, heap.IsOrdinary value

section Values

variable {heap later : Heap} {values : Stack BoxId}

theorem AreOrdinary.mono (ordinary : AreOrdinary heap values)
    (keeps : heap.KeepsPayloads later) : AreOrdinary later values := by
  intro value member
  exact keeps.isOrdinary (ordinary value member)

theorem AreOrdinary.push (ordinary : AreOrdinary heap values) (nonempty : 1 ≤ values.size)
    {value : BoxId} (ordinaryValue : heap.IsOrdinary value) :
    AreOrdinary heap (values.push value) := by
  rw [AreOrdinary, Stack.above_push nonempty, List.forall_mem_cons]
  exact ⟨ordinaryValue, ordinary⟩

theorem AreOrdinary.truncate (ordinary : AreOrdinary heap values) {count : Nat}
    (nonempty : 1 ≤ count) : AreOrdinary heap (values.truncate count) := by
  intro value member
  exact ordinary value (Stack.mem_above_of_truncate nonempty member)

end Values

/-- A local frame with ordinary values makes ordinary ones, unless it leaves with Null. -/
theorem Frame.Acts.areOrdinary {frame : Frame} {heap : Heap} {values : Stack BoxId}
    {effect : Effect} (acts : frame.Acts heap values effect) (wellKinded : heap.WellKinded)
    (isScope : heap.IsScope frame.scope) (based : 1 ≤ frame.baseline)
    (owned : frame.baseline ≤ values.size) (ordinary : AreOrdinary heap values) :
    effect.heap.WellKinded ∧ (AreOrdinary effect.heap effect.values ∨
      effect = .next heap (values.push Kind.null.box) .leave) := by
  have nonempty := Nat.le_trans based owned
  cases acts with
  | fail error => exact ⟨wellKinded, Or.inl ordinary⟩
  | drop kept => exact ⟨wellKinded, Or.inl (ordinary.truncate (Nat.le_trans based kept))⟩
  | null => exact ⟨wellKinded, Or.inr rfl⟩
  | get found =>
      have ordinaryValue := wellKinded.isOrdinary_of_find? isScope found
      exact ⟨wellKinded, Or.inl (ordinary.push nonempty ordinaryValue)⟩
  | @assign name value base values_eq found =>
      subst values_eq
      have ordinaryValue : heap.IsOrdinary value := by
        apply ordinary
        rw [Stack.above_push (found ▸ based)]
        exact List.mem_cons_self
      exact ⟨wellKinded.setVariable isScope ordinaryValue name,
        Or.inl (ordinary.mono (heap.keepsPayloads_setVariable _ _ _))⟩
  | box =>
      obtain ⟨wellKinded', ordinaryNew⟩ := wellKinded.newBox
      exact ⟨wellKinded',
        Or.inl ((ordinary.mono (heap.keepsPayloads_alloc _)).push nonempty ordinaryNew)⟩
  | literal isLiteral =>
      obtain ⟨wellKinded', ordinaryNew⟩ := wellKinded.newOfKind isLiteral
      exact ⟨wellKinded',
        Or.inl ((ordinary.mono (heap.keepsPayloads_newOfKind _)).push nonempty ordinaryNew)⟩

/-- The values are ordinary, save for one that the topmost frame drops. -/
inductive Carries (heap : Heap) (frames : List Frame) (values : Stack BoxId) : Prop
  | ordinary : AreOrdinary heap values → Carries heap frames values
  | spare {base : Stack BoxId} {value : BoxId} : values = base.push value →
      AreOrdinary heap base → (∀ frame ∈ frames.head?, frame.AwaitsBody) →
      Carries heap frames values

/-- What a step of the frame on top of `below` leads to: only a value that it leaves with may be
one that is not ordinary. -/
structure Yields (below : List Frame) (effect : Effect) : Prop where
  wellKinded : effect.heap.WellKinded
  stays : effect.move ≠ .ok .leave → AreOrdinary effect.heap effect.values
  leaves : Carries effect.heap below effect.values

/-- What every step of a program keeps. -/
structure Kinded (machine : Machine) : Prop where
  wellKinded : machine.heap.WellKinded
  shaped : Shaped machine.frames.items
  carries : Carries machine.heap machine.frames.items machine.values

section Steps

variable {root : BoxId} {limits : Limits} {machine later : Machine} {frame : Frame}
  {below : Stack Frame}

/-- A box frame drops the value of its body, and keeps the box. -/
theorem Frame.AwaitsBody.step_eq (awaits : frame.AwaitsBody) {heap : Heap} {base : Stack BoxId}
    {value : BoxId} (sits : Frame.Sits (base.push value) frame) :
    frame.step heap (base.push value) = .next heap base .advance := by
  obtain ⟨scope, expr, phase, baseline⟩ := frame
  obtain ⟨⟨body, rfl⟩, rfl⟩ := awaits
  have size_eq : base.size = baseline + 1 := Nat.succ.inj sits.size_eq
  have dropped : (base.push value).truncate (baseline + 1) = base := by
    rw [← size_eq, Stack.truncate_push_size]
  exact congrArg (Effect.next heap · .advance) dropped

theorem Kinded.yields (kinded : Kinded machine) (layered : Layered root machine)
    (balanced : Balanced machine.frames.items machine.values)
    (frames_eq : machine.frames = below.push frame) :
    Yields below.items (frame.step machine.heap machine.values) := by
  have member : frame ∈ machine.frames.items := by simp [frames_eq]
  obtain ⟨isLocal, isScope, -, -⟩ := layered.frames frame member
  obtain ⟨wellKinded, shaped, carries⟩ := kinded
  rw [frames_eq] at balanced shaped carries
  cases balanced with
  | top sits fills =>
  cases shaped with
  | cons isSequence place _ =>
  cases carries with
  | spare values_eq ordinary awaits =>
      rw [values_eq] at sits ⊢
      rw [(awaits frame rfl).step_eq sits]
      exact ⟨wellKinded, fun _ => ordinary, .ordinary ordinary⟩
  | ordinary ordinary =>
      obtain ⟨wellKinded', ordinary' | null⟩ := (sits.acts isLocal machine.heap).areOrdinary
        wellKinded isScope fills.one_le sits.baseline_le ordinary
      · exact ⟨wellKinded', fun _ => ordinary', .ordinary ordinary'⟩
      · rcases place with isItem | awaits
        · have proceeds := Frame.proceeds isSequence machine.heap machine.values
          have values_eq := proceeds.leaves isItem (congrArg Effect.move null)
          rw [null] at values_eq
          exact absurd (congrArg Stack.size values_eq) (Nat.succ_ne_self _)
        · rw [null]
          exact ⟨wellKinded, fun stays => absurd rfl stays, .spare rfl ordinary awaits⟩

theorem Kinded.next (kinded : Kinded machine) (layered : Layered root machine)
    (balanced : Balanced machine.frames.items machine.values)
    (stepped : machine.next limits = .running later) : Kinded later := by
  obtain ⟨frame, below, frames_eq, followed⟩ := next_eq_running stepped
  have yields := kinded.yields layered balanced frames_eq
  have shaped := kinded.shaped
  rw [frames_eq] at shaped
  cases shaped with
  | cons isSequence place lower =>
  have advanced : Shaped (below.push { frame with phase := frame.phase + 1 }).items :=
    .cons isSequence place lower
  rcases follow_eq_running followed with
    ⟨moved, rfl⟩ | ⟨scope, expr, moved, -, rfl⟩ | ⟨-, rfl⟩
  · have ordinary := yields.stays (by rw [moved]; nofun)
    exact ⟨yields.wellKinded, advanced, .ordinary ordinary⟩
  · have ordinary := yields.stays (by rw [moved]; nofun)
    refine ⟨yields.wellKinded, ?_, .ordinary ordinary⟩
    have proceeds := Frame.proceeds isSequence machine.heap machine.values
    rcases proceeds.enters scope expr moved with isItem | ⟨isBody, awaits⟩
    · exact .cons (.single isItem) (Or.inl isItem) advanced
    · refine .cons isBody (Or.inr ?_) advanced
      rintro lower ⟨⟩
      exact awaits
  · exact ⟨yields.wellKinded, lower, yields.leaves⟩

end Steps

section Evaluation

variable {limits : Limits} {heap : Heap} {root : BoxId} {expr : Expr} {count : Nat}

theorem kinded_of_evaluate (ordered : heap.Ordered) (rooted : heap.IsScope root)
    (wellKinded : heap.WellKinded) (isSequence : expr.IsSequence) {machine : Machine}
    (ran : evaluate limits count heap root expr = .running machine) : Kinded machine := by
  induction count generalizing machine with
  | zero =>
      obtain ⟨-, rfl⟩ := start_eq_running ran
      refine ⟨wellKinded, .cons isSequence (Or.inr nofun) .nil, .ordinary ?_⟩
      intro value member
      cases member
  | succ count inductionHypothesis =>
      obtain ⟨earlier, ranEarlier, stepped⟩ := Status.exists_earlier_of_running ran
      have layered := layered_of_evaluate ordered rooted isSequence.isLocal ranEarlier
      have balanced := (steady_of_evaluate ranEarlier).balanced
      exact (inductionHypothesis ranEarlier).next layered balanced stepped

theorem wellKinded_of_halted (ordered : heap.Ordered) (rooted : heap.IsScope root)
    (wellKinded : heap.WellKinded) (isSequence : expr.IsSequence) {outcome : Outcome}
    (ran : evaluate limits count heap root expr = .halted outcome) :
    outcome.heap.WellKinded := by
  rcases Status.exists_earlier_of_halted ran with started | ⟨earlier, machine, ran, stepped⟩
  · obtain ⟨maxFrames, rfl⟩ := start_eq_halted started
    exact wellKinded
  · have kinded := kinded_of_evaluate ordered rooted wellKinded isSequence ran
    have layered := layered_of_evaluate ordered rooted isSequence.isLocal ran
    have balanced := (steady_of_evaluate ran).balanced
    rcases heap_eq_of_next_halted stepped with heap_eq | ⟨frame, below, frames_eq, heap_eq⟩
    · rw [heap_eq]
      exact kinded.wellKinded
    · rw [heap_eq]
      exact (kinded.yields layered balanced frames_eq).wellKinded

end Evaluation

end Machine

end BoxLang
