import BoxLang.Proofs.Engine.Sessions
import BoxLang.Proofs.Heap.Printing
import BoxLang.Proofs.Machine.Confinement
import BoxLang.Proofs.Machine.Parallel

/-!
# Boxes are isolated

The body of a box starts in a new scope, and new scopes are alike whatever is around them.  The
only boxes that the body shares with its surroundings are those of the kinds, which it neither
reads nor writes.  So a box comes out the same in any two surroundings, up to the numbers of the
boxes that were made for it, and it leaves its surroundings as they were.
-/

namespace BoxLang

open Machine

/-- A box stands for a kind. -/
def IsKindBox (box : BoxId) : Prop :=
  ∃ kind : Kind, kind.box = box

/-- What can be reached from a box of one heap is the same graph as what can be reached from a
box of another, where each kind stands for itself and its contents are left out. -/
def Heap.IsomorphicUpToKinds (heap : Heap) (box : BoxId) (heap' : Heap) (box' : BoxId) : Prop :=
  ∃ Paired : BoxId → BoxId → Prop, heap.Corresponds IsKindBox Paired heap' ∧ Paired box box'

/-- Two evaluations have ended with the same error, or with boxes that are shown alike and lead
to the same graph. -/
inductive SameUpToKinds : Outcome → Outcome → Prop
  | ok {heap heap' : Heap} {value value' : BoxId} :
      heap.display value = heap'.display value' → heap.IsomorphicUpToKinds value heap' value' →
      SameUpToKinds ⟨.ok value, heap⟩ ⟨.ok value', heap'⟩
  | error {heap heap' : Heap} (error : EvalError) :
      SameUpToKinds ⟨.error error, heap⟩ ⟨.error error, heap'⟩

section Kinds

variable {heap heap' : Heap}

/-- Any two heaps have their kinds in common. -/
theorem Heap.corresponds_kinds (kinds : Kind.all.length ≤ heap.size)
    (kinds' : Kind.all.length ≤ heap'.size) :
    heap.Corresponds IsKindBox (fun box box' => IsKindBox box ∧ box = box') heap' where
  kinds kind := ⟨⟨kind, rfl⟩, rfl⟩
  inUse := by
    rintro _ _ ⟨⟨kind, rfl⟩, rfl⟩
    exact ⟨Nat.lt_of_lt_of_le kind.box_lt kinds, Nat.lt_of_lt_of_le kind.box_lt kinds'⟩
  unique := by
    rintro _ _ _ _ ⟨-, rfl⟩ ⟨-, rfl⟩
    exact Iff.rfl
  cells := by
    rintro _ _ ⟨isKindBox, -⟩ unsealed
    exact absurd isKindBox unsealed

/-- Paired boxes without a payload are shown alike, however little is known of the kinds. -/
theorem Heap.Corresponds.display_eq {Sealed : BoxId → Prop} {Paired : BoxId → BoxId → Prop}
    (corresponds : heap.Corresponds Sealed Paired heap') {box box' : BoxId}
    (paired : Paired box box') (unsealed : ¬Sealed box) (plain : heap.payload? box = none) :
    heap.display box = heap'.display box' := by
  have payloads := (corresponds.cells paired unsealed).payload
  change Option.Rel _ (heap.payload? box) (heap'.payload? box') at payloads
  have plain' : heap'.payload? box' = none := by
    rw [plain] at payloads
    generalize heap'.payload? box' = payload at payloads
    cases payloads
    rfl
  rw [display, display, displayWithin, displayWithin, displayRule, displayRule, plain, plain']
  exact (corresponds.looksLike paired unsealed).displayPlain_eq

/-- The box that a tree is evaluated in gets no payload. -/
theorem Expr.IsLocal.payload?_newBox {expr : Expr} (isLocal : expr.IsLocal) {outcome : Outcome}
    (evaluates : Evaluates heap.newBox.1 heap.newBox.2 expr outcome) :
    outcome.heap.payload? heap.newBox.2 = none := by
  obtain ⟨count, ran⟩ := evaluates.haltsWith
  have changes := changesOnly_of_evaluate (isLocal.confinedOn heap.newBox.1) .unlimited count
    heap.newBox.2
  rw [ran] at changes
  have plain : heap.newBox.1.payload? heap.newBox.2 = none := by
    rw [Heap.payload?, Heap.newBox, Heap.cell_alloc_new]
    rfl
  exact (changes.payload_eq _ heap.newBox_lt_size).trans plain

end Kinds

/-- A box with a program as its body comes out the same on any two heaps and in any two scopes,
and it changes none of the boxes that were there before, be it the scope around it. -/
theorem box_isolated (program : Program) {heap heap' : Heap}
    (kinds : Kind.all.length ≤ heap.size) (kinds' : Kind.all.length ≤ heap'.size)
    (scope scope' : BoxId) :
    ∃ outcome outcome',
      HaltsWith .unlimited heap scope (.box program.expr) outcome ∧
      HaltsWith .unlimited heap' scope' (.box program.expr) outcome' ∧
      SameUpToKinds outcome outcome' ∧
      (∀ box < heap.size, outcome.heap.cell box = heap.cell box) ∧
      ∀ box < heap'.size, outcome'.heap.cell box = heap'.cell box := by
  have alike := (Heap.corresponds_kinds kinds kinds').alike_newBox
  obtain ⟨⟨result, after⟩, ⟨result', after'⟩, Paired, evaluates, evaluates', ends⟩ :=
    program.isLocal.parallel alike fun _ _ => trivial
  have unchanged := (program.isLocal.retains_box evaluates).cell_eq
  have unchanged' := (program.isLocal.retains_box evaluates').cell_eq
  have corresponds := ends.alike.corresponds
  cases ends.same with
  | error error =>
      exact ⟨_, _, (Evaluates.boxError evaluates).haltsWith,
        (Evaluates.boxError evaluates').haltsWith, .error error,
        fun box inUse => unchanged box inUse trivial,
        fun box inUse => unchanged' box inUse trivial⟩
  | ok _ =>
      have paired : Paired heap.newBox.2 heap'.newBox.2 :=
        ends.pairs.kept _ _ (Or.inr ⟨rfl, rfl⟩)
      have unsealed : ¬IsKindBox heap.newBox.2 := by
        rintro ⟨kind, same⟩
        have small := kind.box_lt
        rw [same] at small
        exact absurd kinds (Nat.not_le_of_lt small)
      have shown := corresponds.display_eq paired unsealed
        (program.isLocal.payload?_newBox evaluates)
      exact ⟨_, _, (Evaluates.box evaluates).haltsWith, (Evaluates.box evaluates').haltsWith,
        .ok shown ⟨Paired, corresponds, paired⟩,
        fun box inUse => unchanged box inUse trivial,
        fun box inUse => unchanged' box inUse trivial⟩

/-- A box that holds another one twice, made next to a variable of the name that it uses, and on
a heap whose kinds have variables. -/
theorem box_isolated_shared_box :
    ∃ (program : Program) (heap heap' : Heap),
      program.source = "a = \x7bb = 1\x7d; c = a" ∧ Kind.all.length ≤ heap.size ∧
      Kind.all.length ≤ heap'.size ∧ heap.variableNames rootBox = [] ∧
      heap'.variableNames rootBox = ["a"] ∧ heap'.variableNames Kind.integer.box = ["b"] ∧
      ∃ outcome outcome',
        HaltsWith .unlimited heap rootBox (.box program.expr) outcome ∧
        HaltsWith .unlimited heap' rootBox (.box program.expr) outcome' ∧
        SameUpToKinds outcome outcome' := by
  let program : Program := ⟨"a = \x7bb = 1\x7d; c = a",
    .sequence [.assign "a" (.box (.assign "b" (.integer 1))), .assign "c" (.get "a")], 3, rfl⟩
  let heap := Heap.initial.newBox.1
  let heap' := (heap.setVariable rootBox "a" rootBox).setVariable Kind.integer.box "b" rootBox
  have kinds : Kind.all.length ≤ heap.size := by decide
  have kinds' : Kind.all.length ≤ heap'.size := by decide
  obtain ⟨outcome, outcome', halts, halts', same, -, -⟩ :=
    box_isolated program kinds kinds' rootBox rootBox
  refine ⟨program, heap, heap', rfl, kinds, kinds', ?_, ?_, ?_, outcome, outcome', halts,
    halts', same⟩
  · decide +kernel
  · decide +kernel
  · decide +kernel

end BoxLang
