import BoxLang.Heap.Values

/-!
# What a heap retains

Boxes are added to a heap and their variables are set, and nothing else happens to it.
So a later heap retains every box but those whose variables have been set in between.
-/

namespace BoxLang.Heap

/-- The boxes of a heap that are to be kept are in a later heap as they were. -/
structure Retains (Kept : BoxId → Prop) (heap later : Heap) : Prop where
  size_le : heap.size ≤ later.size
  cell_eq : ∀ box < heap.size, Kept box → later.cell box = heap.cell box

section Retention

variable {Kept Kept' : BoxId → Prop} {heap middle later : Heap}

theorem Retains.refl (heap : Heap) : Retains Kept heap heap :=
  ⟨Nat.le_refl _, fun _ _ _ => rfl⟩

theorem Retains.trans (first : Retains Kept heap middle) (second : Retains Kept middle later) :
    Retains Kept heap later := by
  refine ⟨Nat.le_trans first.size_le second.size_le, ?_⟩
  intro box inUse kept
  rw [second.cell_eq box (Nat.lt_of_lt_of_le inUse first.size_le) kept]
  exact first.cell_eq box inUse kept

theorem Retains.mono (retains : Retains Kept heap later)
    (fewer : ∀ box < heap.size, Kept' box → Kept box) : Retains Kept' heap later :=
  ⟨retains.size_le, fun box inUse kept => retains.cell_eq box inUse (fewer box inUse kept)⟩

theorem retains_alloc (heap : Heap) (cell : Cell) : Retains Kept heap (heap.alloc cell).1 := by
  refine ⟨by simp, ?_⟩
  intro box inUse _
  rw [cell_alloc, if_neg (Nat.ne_of_lt inUse)]

theorem retains_newValue (heap : Heap) (payload : Payload) :
    Retains Kept heap (heap.newValue payload).1 := by
  have ofKind (payload : Payload) : Retains Kept heap (heap.newOfKind payload).1 :=
    (retains_alloc heap _).trans (retains_alloc _ _)
  cases payload with
  | list items => exact retains_alloc heap _
  | _ => exact ofKind _

theorem retains_setVariable (heap : Heap) (box : BoxId) (name : String) (value : BoxId) :
    Retains (· ≠ box) heap (heap.setVariable box name value) := by
  refine ⟨by simp, ?_⟩
  intro other _ different
  rw [setVariable, cell_modifyVariables, if_neg fun same => different same.1]

end Retention

theorem newBox_lt_size (heap : Heap) : heap.newBox.2 < heap.newBox.1.size := by
  rw [newBox, size_alloc]
  exact Nat.lt_succ_self heap.size

theorem variableNames_newBox (heap : Heap) :
    heap.newBox.1.variableNames heap.newBox.2 = [] := by
  have new : heap.newBox.1.cell heap.newBox.2 = .empty := by
    rw [newBox, cell_alloc]
    exact if_pos rfl
  rw [variableNames, new]
  rfl

theorem mem_variableNames_iff {heap : Heap} {box : BoxId} {name : String} :
    name ∈ heap.variableNames box ↔ (heap.lookup? box name).isSome = true :=
  Bindings.mem_names_iff _ name

theorem mem_variableNames_setVariable {heap : Heap} {box : BoxId} (inUse : box < heap.size)
    (name : String) (value : BoxId) (query : String) :
    query ∈ (heap.setVariable box name value).variableNames box ↔
      query = name ∨ query ∈ heap.variableNames box := by
  rw [mem_variableNames_iff, mem_variableNames_iff, lookup?_setVariable _ _ _ _ _ _ inUse]
  by_cases same : query = name <;> simp [same]

theorem Retains.variableNames_eq {Kept : BoxId → Prop} {heap later : Heap}
    (retains : Retains Kept heap later) {box : BoxId} (inUse : box < heap.size)
    (kept : Kept box) : later.variableNames box = heap.variableNames box := by
  rw [variableNames, retains.cell_eq box inUse kept, variableNames]

theorem cell_eq_empty {heap : Heap} {box : BoxId} (unused : heap.size ≤ box) :
    heap.cell box = .empty := by
  have missing : heap.cells[box]? = none := Array.getElem?_eq_none unused
  rw [cell, missing]
  rfl

theorem lt_size_of_mem_variableNames {heap : Heap} {box : BoxId} {name : String}
    (member : name ∈ heap.variableNames box) : box < heap.size := by
  apply Nat.lt_of_not_le
  intro unused
  rw [variableNames, cell_eq_empty unused] at member
  cases member

theorem method_setVariable (heap : Heap) (box : BoxId) (name : String) (value other : BoxId) :
    (heap.setVariable box name value).method other = heap.method other := by
  rw [method, setVariable, cell_modifyVariables]
  split <;> rfl

/-- A later heap differs from a heap, in the boxes that this one has, by the variables of one box
only, and it lacks none of their names. -/
structure ChangesOnly (scope : BoxId) (heap later : Heap) : Prop where
  retains : Retains (· ≠ scope) heap later
  names : ∀ name ∈ heap.variableNames scope, name ∈ later.variableNames scope
  method_eq : ∀ box < heap.size, later.method box = heap.method box
  payload_eq : ∀ box < heap.size, later.payload? box = heap.payload? box

section Changes

variable {heap middle later : Heap} {scope root : BoxId}

/-- A heap that only has more boxes. -/
theorem Retains.changesOnly (retains : Retains (fun _ => True) heap later) (scope : BoxId) :
    heap.ChangesOnly scope later where
  retains := retains.mono fun _ _ _ => trivial
  names name member := by
    rw [retains.variableNames_eq (lt_size_of_mem_variableNames member) trivial]
    exact member
  method_eq box inUse := by rw [method, retains.cell_eq box inUse trivial, method]
  payload_eq box inUse := by rw [payload?, retains.cell_eq box inUse trivial, payload?]

theorem changesOnly_setVariable (heap : Heap) (scope : BoxId) (name : String) (value : BoxId) :
    heap.ChangesOnly scope (heap.setVariable scope name value) where
  retains := retains_setVariable heap scope name value
  names query member := by
    have inUse := lt_size_of_mem_variableNames member
    exact (mem_variableNames_setVariable inUse name value query).mpr (Or.inr member)
  method_eq box _ := method_setVariable heap scope name value box
  payload_eq box _ := by
    rw [payload?, setVariable, cell_modifyVariables]
    split <;> rfl

/-- What happens in a box that was not there at first is no change to the boxes that were. -/
theorem ChangesOnly.andThen (first : heap.ChangesOnly root middle)
    (second : middle.ChangesOnly scope later) (own : scope = root ∨ heap.size ≤ scope) :
    heap.ChangesOnly root later := by
  have size_le := first.retains.size_le
  have apart : ∀ box < heap.size, box ≠ root → box ≠ scope := by
    rintro box inUse different rfl
    rcases own with same | new
    · exact different same
    · exact Nat.not_lt_of_le new inUse
  refine ⟨⟨Nat.le_trans size_le second.retains.size_le, ?_⟩, ?_, ?_, ?_⟩
  · intro box inUse different
    rw [second.retains.cell_eq box (Nat.lt_of_lt_of_le inUse size_le) (apart box inUse different)]
    exact first.retains.cell_eq box inUse different
  · intro name member
    have inUse := lt_size_of_mem_variableNames member
    have memberMiddle := first.names name member
    rcases own with rfl | new
    · exact second.names name memberMiddle
    · have different : root ≠ scope := Nat.ne_of_lt (Nat.lt_of_lt_of_le inUse new)
      rw [second.retains.variableNames_eq (Nat.lt_of_lt_of_le inUse size_le) different]
      exact memberMiddle
  · intro box inUse
    rw [second.method_eq box (Nat.lt_of_lt_of_le inUse size_le), first.method_eq box inUse]
  · intro box inUse
    rw [second.payload_eq box (Nat.lt_of_lt_of_le inUse size_le), first.payload_eq box inUse]

end Changes

end BoxLang.Heap
