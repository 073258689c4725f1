import BoxLang.Proofs.Engine.Bounds
import BoxLang.Proofs.Machine.Kinds

/-!
# Sessions

Programs that are run one after the other in one box, which is new at first, never make
boxes that refer to each other in a cycle, and never make one that refers to the box they
are run in.  This holds in every state of every run, whatever its limits and its outcome, so
counting references is enough to free all boxes.  Nor do they make a box that is of a kind
without a payload of this kind, whatever variables they set.
-/

namespace BoxLang

open Machine

/-- The box that a session runs its programs in. -/
def rootBox : BoxId :=
  Heap.initial.newBox.2

/-- A heap that a session has led to, in which each program may have had an engine of its
own. -/
inductive Evolved : Heap → Prop
  | start : Evolved Heap.initial.newBox.1
  | run {heap : Heap} (engine : Engine) (program : Program) :
      Evolved heap → Evolved (engine.runIn heap rootBox program).1

/-- No box leads back to itself, and none leads to a given one. -/
structure Heap.Untangled (heap : Heap) (root : BoxId) : Prop where
  isAcyclic : heap.IsAcyclic
  apart : ∀ box, box ≠ root → ¬heap.Reaches box root

theorem Program.isLocal (program : Program) : program.expr.IsLocal := by
  obtain ⟨maxDepth, parsed⟩ := program.isRead
  exact (derivesProgram_of_parsed parsed).1.isLocal

section Roots

variable {heap : Heap}

/-- The box of a session is the oldest that is not fixed. -/
theorem Heap.Ordered.untangled (ordered : heap.Ordered) (rooted : heap.IsScope rootBox) :
    heap.Untangled rootBox := by
  refine ⟨ordered.isAcyclic, ?_⟩
  intro box different
  apply ordered.not_reaches rooted.not_fixed
  rcases Nat.lt_or_gt_of_ne different with older | younger
  · exact Or.inl (Or.inl older)
  · exact Or.inr younger

theorem Heap.Ordered.not_reaches_root (ordered : heap.Ordered) (rooted : heap.IsScope rootBox)
    {value : BoxId} (mayHold : heap.MayHold rootBox value) : ¬heap.Reaches value rootBox :=
  ordered.not_reaches rooted.not_fixed mayHold.fixed_or_younger

end Roots

theorem Program.isSequence (program : Program) : program.expr.IsSequence := by
  obtain ⟨maxDepth, parsed⟩ := program.isRead
  exact (derivesProgram_of_parsed parsed).1.isSequence

theorem Evolved.ordered {heap : Heap} (evolved : Evolved heap) :
    heap.Ordered ∧ heap.IsScope rootBox := by
  induction evolved with
  | start => exact ⟨Heap.ordered_initial.newBox, Heap.ordered_initial.isScope_newBox⟩
  | @run heap engine program _ inductionHypothesis =>
      obtain ⟨ordered, rooted⟩ := inductionHypothesis
      obtain ⟨maxDepth, parsed⟩ := program.isRead
      obtain ⟨outcome, ran⟩ := exists_halted_of_cost (isCallFree_of_parsed parsed)
      rw [Engine.runIn_eq ⟨_, ran⟩]
      exact ordered_of_halted ordered rooted program.isLocal ran

/-- However programs have been run in the box of a session, and in every state of the run of
another one, no boxes refer to each other in a cycle, and neither another box nor a value
leads to the box of the session. -/
theorem evolved_untangled {heap : Heap} (evolved : Evolved heap) :
    heap.Untangled rootBox ∧
    ∀ (limits : Limits) (program : Program) (count : Nat),
      (∀ machine, evaluate limits count heap rootBox program.expr = .running machine →
        machine.heap.Untangled rootBox ∧
        ∀ value ∈ machine.values.items, ¬machine.heap.Reaches value rootBox) ∧
      ∀ outcome, evaluate limits count heap rootBox program.expr = .halted outcome →
        outcome.heap.Untangled rootBox ∧
        ∀ value, outcome.result = .ok value → ¬outcome.heap.Reaches value rootBox := by
  obtain ⟨ordered, rooted⟩ := evolved.ordered
  refine ⟨ordered.untangled rooted, ?_⟩
  intro limits program count
  constructor
  · intro machine ran
    have layered := layered_of_evaluate ordered rooted program.isLocal ran
    refine ⟨layered.ordered.untangled layered.rooted, ?_⟩
    intro value member
    exact layered.ordered.not_reaches_root layered.rooted (layered.values value member)
  · intro outcome ran
    obtain ⟨ordered', rooted'⟩ := ordered_of_halted ordered rooted program.isLocal ran
    refine ⟨ordered'.untangled rooted', ?_⟩
    intro value result_eq
    exact ordered'.not_reaches_root rooted'
      (mayHold_of_halted ordered rooted program.isLocal ran result_eq)

/-- Two names for one box, which was filled before it got them. -/
theorem evolved_untangled_shared_box :
    ∃ program : Program, program.source = "a = \x7bb = 1\x7d; c = a" ∧
      ∃ heap, (Engine.standard.runIn Heap.initial.newBox.1 rootBox program).1 = heap ∧
        Evolved heap ∧ heap.lookup? rootBox "a" = some 8 ∧ heap.lookup? rootBox "c" = some 8 ∧
        heap.lookup? 8 "b" = some 10 ∧ heap.Untangled rootBox := by
  let program : Program := ⟨"a = \x7bb = 1\x7d; c = a",
    .sequence [.assign "a" (.box (.assign "b" (.integer 1))), .assign "c" (.get "a")], 3, rfl⟩
  have evolved := Evolved.run Engine.standard program .start
  refine ⟨program, rfl, _, rfl, evolved, ?_, ?_, ?_, (evolved_untangled evolved).1⟩
  · decide +kernel
  · decide +kernel
  · decide +kernel

theorem Evolved.wellKinded {heap : Heap} (evolved : Evolved heap) : heap.WellKinded := by
  induction evolved with
  | start => exact Heap.wellKinded_initial.newBox.1
  | @run heap engine program evolved inductionHypothesis =>
      obtain ⟨ordered, rooted⟩ := evolved.ordered
      obtain ⟨maxDepth, parsed⟩ := program.isRead
      obtain ⟨outcome, ran⟩ := exists_halted_of_cost (isCallFree_of_parsed parsed)
      rw [Engine.runIn_eq ⟨_, ran⟩]
      exact wellKinded_of_halted ordered rooted inductionHypothesis program.isSequence ran

/-- However programs have been run in the box of a session, a box is of a kind exactly if it
carries a payload of this kind, which is that of a literal or a list.  So neither boxes without
a payload nor those of the kinds are of any kind. -/
theorem evolved_isKind_iff {heap : Heap} (evolved : Evolved heap) (box : BoxId) (kind : Kind) :
    (heap.isKind box kind = true ↔
      ∃ payload, heap.payload? box = some payload ∧ payload.kind = kind) ∧
    (∀ payload, heap.payload? box = some payload →
      payload.kind ∈ [Kind.integer, .real, .string, .list]) ∧
    (heap.payload? box = none ∨ (∃ other : Kind, box = other.box) →
      heap.isKind box kind = false) := by
  have wellKinded := evolved.wellKinded
  have agrees := wellKinded.isKind_iff box kind
  refine ⟨agrees, fun payload => wellKinded.kind_mem, ?_⟩
  intro plain
  have bare : heap.payload? box = none := by
    rcases plain with bare | ⟨other, rfl⟩
    · exact bare
    · exact wellKinded.bare other
  rw [Bool.eq_false_iff, Ne, agrees, bare]
  rintro ⟨payload, impossible, -⟩
  cases impossible

/-- Components that a program sets are of a kind, and the boxes it sets them in are not. -/
theorem evolved_isKind_iff_components :
    ∃ program : Program, program.source = "components = 1; a = \x7bcomponents = 'x'\x7d" ∧
      ∃ heap, (Engine.standard.runIn Heap.initial.newBox.1 rootBox program).1 = heap ∧
        heap.lookup? rootBox "components" = some 9 ∧ heap.isKind 9 .integer = true ∧
        heap.lookup? 10 "components" = some 12 ∧ heap.isKind 12 .string = true ∧
        ∀ kind, heap.isKind rootBox kind = false ∧ heap.isKind 10 kind = false := by
  let program : Program := ⟨"components = 1; a = \x7bcomponents = 'x'\x7d",
    .sequence [.assign "components" (.integer 1),
      .assign "a" (.box (.assign "components" (.text [120])))], 3, rfl⟩
  have evolved := Evolved.run Engine.standard program .start
  refine ⟨program, rfl, _, rfl, ?_, ?_, ?_, ?_, ?_⟩
  · decide +kernel
  · decide +kernel
  · decide +kernel
  · decide +kernel
  · intro kind
    constructor
    · apply (evolved_isKind_iff evolved rootBox kind).2.2
      exact Or.inl (Option.isNone_iff_eq_none.mp (by decide +kernel))
    · apply (evolved_isKind_iff evolved 10 kind).2.2
      exact Or.inl (Option.isNone_iff_eq_none.mp (by decide +kernel))

end BoxLang
