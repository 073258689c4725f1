import BoxLang.Heap.Values

/-!
# Delegation

A box whose variable `call` is set to a box other than Null delegates its calls
to that box.
-/

namespace BoxLang.Heap

/-- The box that a box delegates its calls to. -/
def delegate? (heap : Heap) (box : BoxId) : Option BoxId :=
  (heap.lookup? box callName).filter (· != Kind.null.box)

/-- The boxes of the heap that are not among the visited ones. -/
def unvisited (heap : Heap) (visited : List BoxId) : List BoxId :=
  (List.range heap.size).filter (· ∉ visited)

theorem lt_size_of_delegate? {heap : Heap} {box next : BoxId}
    (delegated : heap.delegate? box = some next) : box < heap.size := by
  by_cases inUse : box < heap.size
  · exact inUse
  · have unused : heap.cells[box]? = none :=
      Array.getElem?_eq_none (Nat.le_of_not_lt inUse)
    simp [delegate?, lookup?, cell, unused, Cell.empty] at delegated

theorem length_unvisited_cons {heap : Heap} {visited : List BoxId} {box : BoxId}
    (inUse : box < heap.size) (fresh : box ∉ visited) :
    (heap.unvisited (box :: visited)).length < (heap.unvisited visited).length := by
  have split : heap.unvisited (box :: visited) = (heap.unvisited visited).filter (· ≠ box) := by
    simp [unvisited, List.filter_filter]
  rw [split]
  apply List.length_filter_lt_length_iff_exists.mpr
  exact ⟨box, by simp [unvisited, inUse, fresh], by simp⟩

/-- The method at the end of the chain of delegates. There is none when the
chain comes back to a visited box. -/
def resolveFrom (heap : Heap) (visited : List BoxId) (box : BoxId) : Option Method :=
  if box ∈ visited then none
  else
    match _ : heap.delegate? box with
    | none => some (heap.method box)
    | some next => heap.resolveFrom (box :: visited) next
termination_by (heap.unvisited visited).length
decreasing_by
  exact length_unvisited_cons (lt_size_of_delegate? ‹heap.delegate? box = some next›)
    ‹box ∉ visited›

/-- The method that a call of a box runs. There is none when the chain of
delegates never ends. -/
def resolve? (heap : Heap) (box : BoxId) : Option Method :=
  heap.resolveFrom [] box

end BoxLang.Heap
