import Mathlib.Logic.Function.Iterate
import Mathlib.Logic.Relation
import Mathlib.Tactic.Choose
import BoxLang.Machine.Frame

/-!
# Where delegation leads

A box delegates to at most one other box, so the delegates of a box form a chain.  The chain
ends at some box, or it comes back to one of its boxes and then never ends.
-/

namespace BoxLang.Heap

/-- The calls of a box are answered by another box, which is not Null. -/
def Delegates (heap : Heap) (box next : BoxId) : Prop :=
  heap.lookup? box callName = some next ∧ next ≠ Kind.null.box

/-- The chain of delegates that starts at a box ends at another. -/
def DelegationEnds (heap : Heap) (box last : BoxId) : Prop :=
  Relation.ReflTransGen heap.Delegates box last ∧ ∀ next, ¬heap.Delegates last next

/-- The chain of delegates that starts at a box goes on forever. -/
def DelegationNeverEnds (heap : Heap) (box : BoxId) : Prop :=
  ∃ chain : Nat → BoxId,
    chain 0 = box ∧ ∀ position, heap.Delegates (chain position) (chain (position + 1))

variable {heap : Heap} {box next last : BoxId}

theorem delegate?_eq_some_iff : heap.delegate? box = some next ↔ heap.Delegates box next := by
  simp [delegate?, Delegates, Option.filter_eq_some_iff]

theorem delegate?_eq_none_iff :
    heap.delegate? box = none ↔ ∀ next, ¬heap.Delegates box next := by
  simp only [← delegate?_eq_some_iff, Option.eq_none_iff_forall_ne_some]

namespace Delegates

theorem unique {other : BoxId} (delegates : heap.Delegates box next)
    (delegates' : heap.Delegates box other) : next = other :=
  Option.some.inj (delegates.1.symm.trans delegates'.1)

end Delegates

section Chains

theorem DelegationEnds.step (delegates : heap.Delegates box next)
    (ends : heap.DelegationEnds next last) : heap.DelegationEnds box last :=
  ⟨ends.1.head delegates, ends.2⟩

theorem DelegationNeverEnds.step (delegates : heap.Delegates box next)
    (endless : heap.DelegationNeverEnds next) : heap.DelegationNeverEnds box := by
  obtain ⟨chain, rfl, steps⟩ := endless
  refine ⟨fun position => position.casesOn box chain, rfl, ?_⟩
  intro position
  cases position with
  | zero => exact delegates
  | succ position => exact steps position

theorem DelegationNeverEnds.tail (delegates : heap.Delegates box next)
    (endless : heap.DelegationNeverEnds box) : heap.DelegationNeverEnds next := by
  obtain ⟨chain, rfl, steps⟩ := endless
  refine ⟨fun position => chain (position + 1), ?_, fun position => steps (position + 1)⟩
  exact (steps 0).unique delegates

theorem DelegationEnds.not_neverEnds (ends : heap.DelegationEnds box last) :
    ¬heap.DelegationNeverEnds box := by
  obtain ⟨leads, stops⟩ := ends
  induction leads using Relation.ReflTransGen.head_induction_on with
  | refl =>
      rintro ⟨chain, rfl, steps⟩
      exact stops (chain 1) (steps 0)
  | head delegates _ inductionHypothesis =>
      intro endless
      exact inductionHypothesis (endless.tail delegates)

/-- A box that comes up among its own delegates comes up again and again. -/
theorem neverEnds_of_cycle (cycle : Relation.TransGen heap.Delegates box box) :
    heap.DelegationNeverEnds box := by
  have onward (current : BoxId) (cycle : Relation.TransGen heap.Delegates current current) :
      ∃ next, heap.Delegates current next ∧ Relation.TransGen heap.Delegates next next := by
    obtain ⟨next, delegates, back⟩ := Relation.TransGen.head'_iff.mp cycle
    exact ⟨next, delegates, .tail' back delegates⟩
  choose! following delegates cycles using onward
  have cyclic (position : Nat) :
      Relation.TransGen heap.Delegates (following^[position] box) (following^[position] box) := by
    induction position with
    | zero => exact cycle
    | succ position inductionHypothesis =>
        rw [Function.iterate_succ_apply']
        exact cycles _ inductionHypothesis
  refine ⟨fun position => following^[position] box, rfl, ?_⟩
  intro position
  simp only [Function.iterate_succ_apply']
  exact delegates _ (cyclic position)

end Chains

section Resolution

variable {visited : List BoxId} {method : Method}

theorem exists_ends_of_resolveFrom (resolved : heap.resolveFrom visited box = some method) :
    ∃ last, heap.DelegationEnds box last ∧ heap.method last = method := by
  fun_induction resolveFrom heap visited box with
  | case1 => cases resolved
  | case2 _ box _ stops =>
      exact ⟨box, ⟨.refl, delegate?_eq_none_iff.mp stops⟩, Option.some.inj resolved⟩
  | case3 _ box _ next delegated inductionHypothesis =>
      obtain ⟨last, ends, own⟩ := inductionHypothesis resolved
      exact ⟨last, ends.step (delegate?_eq_some_iff.mp delegated), own⟩

/-- A chain that has led from every visited box to where it stands, and that does not end, comes
back to one of the boxes. -/
theorem neverEnds_of_resolveFrom
    (led : ∀ earlier ∈ visited, Relation.TransGen heap.Delegates earlier box)
    (unresolved : heap.resolveFrom visited box = none) : heap.DelegationNeverEnds box := by
  fun_induction resolveFrom heap visited box with
  | case1 _ box met => exact neverEnds_of_cycle (led box met)
  | case2 => cases unresolved
  | case3 _ box _ next delegated inductionHypothesis =>
      have delegates := delegate?_eq_some_iff.mp delegated
      refine .step delegates (inductionHypothesis ?_ unresolved)
      intro earlier member
      rcases List.mem_cons.mp member with rfl | member
      · exact .single delegates
      · exact (led earlier member).tail delegates

theorem resolve?_eq_none_iff : heap.resolve? box = none ↔ heap.DelegationNeverEnds box := by
  constructor
  · intro unresolved
    exact neverEnds_of_resolveFrom (by simp) unresolved
  · intro endless
    rw [Option.eq_none_iff_forall_ne_some]
    intro method resolved
    obtain ⟨last, ends, -⟩ := exists_ends_of_resolveFrom resolved
    exact ends.not_neverEnds endless

theorem DelegationEnds.unique {other : BoxId} (ends : heap.DelegationEnds box last)
    (ends' : heap.DelegationEnds box other) : last = other := by
  obtain ⟨leads, stops⟩ := ends
  induction leads using Relation.ReflTransGen.head_induction_on with
  | refl =>
      rcases Relation.ReflTransGen.cases_head ends'.1 with same | ⟨next, delegates, -⟩
      · exact same
      · exact absurd delegates (stops next)
  | head delegates _ inductionHypothesis =>
      apply inductionHypothesis
      rcases Relation.ReflTransGen.cases_head ends'.1 with rfl | ⟨next, delegates', leads⟩
      · exact absurd delegates (ends'.2 _)
      · rw [delegates.unique delegates']
        exact ⟨leads, ends'.2⟩

theorem resolve?_eq_some_iff :
    heap.resolve? box = some method ↔
      ∃ last, heap.DelegationEnds box last ∧ heap.method last = method := by
  constructor
  · exact exists_ends_of_resolveFrom
  · rintro ⟨last, ends, rfl⟩
    cases resolved : heap.resolve? box with
    | none => exact absurd (resolve?_eq_none_iff.mp resolved) ends.not_neverEnds
    | some method =>
        obtain ⟨other, ends', rfl⟩ := exists_ends_of_resolveFrom resolved
        rw [ends.unique ends']

theorem call_eq_cycle_iff (values : Stack BoxId) (argument : BoxId) :
    Machine.Effect.call heap values box argument = .fail heap values .delegationCycle ↔
      heap.resolve? box = none := by
  unfold Machine.Effect.call
  split
  case h_1 cyclic => simp [cyclic]
  case h_2 method resolved =>
    split
    case h_1 => simp [resolved, Machine.Effect.fail]
    case h_2 => simp [resolved, Machine.Effect.fail, Machine.Effect.next]

end Resolution

/-- A call is resolved to the own method of the box where its chain of delegates ends.  It is
refused as a cycle, with nothing changed, exactly if the chain never ends. -/
theorem resolve?_exact (heap : Heap) (box : BoxId) :
    (∀ method, heap.resolve? box = some method ↔
      ∃ last, heap.DelegationEnds box last ∧ heap.method last = method) ∧
    (heap.resolve? box = none ↔ heap.DelegationNeverEnds box) ∧
    ∀ values argument,
      Machine.Effect.call heap values box argument = .fail heap values .delegationCycle ↔
        heap.DelegationNeverEnds box := by
  refine ⟨fun method => resolve?_eq_some_iff, resolve?_eq_none_iff, ?_⟩
  intro values argument
  rw [call_eq_cycle_iff, resolve?_eq_none_iff]

end BoxLang.Heap
