import Mathlib.Logic.Relation
import BoxLang.Proofs.Heap.Retention

/-!
# References between boxes

A box refers to the values of its variables and to the boxes in its payload.  The boxes of
the kinds and the boxes with a payload are made whole, so they refer to older boxes of the
same sort.  The other boxes are filled after they were made; a heap whose boxes are filled
with younger ones of their sort only has no cycles.
-/

namespace BoxLang

/-- A box with these contents refers to another box. -/
def Cell.Refers (cell : Cell) (other : BoxId) : Prop :=
  (∃ name, cell.bindings.find? name = some other) ∨
    ∃ payload, cell.payload = some payload ∧ other ∈ payload.boxes

theorem Cell.not_refers_empty (other : BoxId) : ¬Cell.empty.Refers other := by
  rintro (⟨name, found⟩ | ⟨payload, impossible, -⟩)
  · cases found
  · cases impossible

namespace Heap

def Refers (heap : Heap) (box other : BoxId) : Prop :=
  (heap.cell box).Refers other

/-- A box leads to another by any number of references. -/
def Reaches (heap : Heap) : BoxId → BoxId → Prop :=
  Relation.ReflTransGen heap.Refers

/-- No box leads back to itself. -/
def IsAcyclic (heap : Heap) : Prop :=
  ∀ box, ¬Relation.TransGen heap.Refers box box

/-- A box that no program writes to: that of a kind, or one with a payload. -/
def IsFixed (heap : Heap) (box : BoxId) : Prop :=
  box < Kind.all.length ∨ (heap.payload? box).isSome = true

/-- A box that programs may write to. -/
structure IsScope (heap : Heap) (box : BoxId) : Prop where
  inUse : box < heap.size
  not_fixed : ¬heap.IsFixed box

/-- A value is fixed or younger than the box it is put into. -/
structure MayHold (heap : Heap) (box value : BoxId) : Prop where
  inUse : value < heap.size
  fixed_or_younger : heap.IsFixed value ∨ box < value

/-- All references go from fixed boxes to older fixed ones, or from other boxes to fixed or
to younger ones. -/
structure Ordered (heap : Heap) : Prop where
  kinds : Kind.all.length ≤ heap.size
  mayHold : ∀ {box other}, heap.Refers box other → heap.MayHold box other
  fixed : ∀ {box other}, heap.Refers box other → heap.IsFixed box →
    heap.IsFixed other ∧ other < box

section Paths

variable {heap : Heap} {box other : BoxId}

/-- What is behind a box is fixed, and older than a fixed box, or younger than a box that is
not fixed. -/
theorem Ordered.of_path (ordered : heap.Ordered)
    (path : Relation.TransGen heap.Refers box other) :
    (heap.IsFixed other ∧ (heap.IsFixed box → other < box)) ∨
      (¬heap.IsFixed box ∧ box < other) := by
  induction path with
  | single refers =>
      by_cases fixed : heap.IsFixed box
      · obtain ⟨fixedOther, older⟩ := ordered.fixed refers fixed
        exact Or.inl ⟨fixedOther, fun _ => older⟩
      · rcases (ordered.mayHold refers).fixed_or_younger with fixedOther | younger
        · exact Or.inl ⟨fixedOther, fun fixedBox => absurd fixedBox fixed⟩
        · exact Or.inr ⟨fixed, younger⟩
  | tail _ refers inductionHypothesis =>
      rcases inductionHypothesis with ⟨fixedMiddle, older⟩ | ⟨notFixed, younger⟩
      · obtain ⟨fixedOther, olderOther⟩ := ordered.fixed refers fixedMiddle
        exact Or.inl ⟨fixedOther, fun fixed => Nat.lt_trans olderOther (older fixed)⟩
      · rcases (ordered.mayHold refers).fixed_or_younger with fixedOther | youngerOther
        · exact Or.inl ⟨fixedOther, fun fixed => absurd fixed notFixed⟩
        · exact Or.inr ⟨notFixed, Nat.lt_trans younger youngerOther⟩

theorem Ordered.isAcyclic (ordered : heap.Ordered) : heap.IsAcyclic := by
  intro box cycle
  rcases ordered.of_path cycle with ⟨fixed, older⟩ | ⟨-, younger⟩
  · exact Nat.lt_irrefl box (older fixed)
  · exact Nat.lt_irrefl box younger

/-- A box that is not fixed is reached only from older boxes that are not fixed either. -/
theorem Ordered.not_reaches (ordered : heap.Ordered) (notFixed : ¬heap.IsFixed other)
    (apart : heap.IsFixed box ∨ other < box) : ¬heap.Reaches box other := by
  intro reaches
  rcases Relation.reflTransGen_iff_eq_or_transGen.mp reaches with rfl | path
  · rcases apart with fixed | younger
    · exact notFixed fixed
    · exact Nat.lt_irrefl _ younger
  · rcases ordered.of_path path with ⟨fixed, -⟩ | ⟨notFixedBox, younger⟩
    · exact notFixed fixed
    · rcases apart with fixed | younger'
      · exact notFixedBox fixed
      · exact Nat.lt_asymm younger younger'

end Paths

/-- A heap has grown into another one: no box is gone, and the same boxes are fixed. -/
structure Grows (heap later : Heap) : Prop where
  size_le : heap.size ≤ later.size
  fixed_iff : ∀ box < heap.size, later.IsFixed box ↔ heap.IsFixed box

section Growth

variable {heap later : Heap} {box value : BoxId}

theorem Grows.mayHold (grows : heap.Grows later) (mayHold : heap.MayHold box value) :
    later.MayHold box value := by
  refine ⟨Nat.lt_of_lt_of_le mayHold.inUse grows.size_le, ?_⟩
  rw [grows.fixed_iff value mayHold.inUse]
  exact mayHold.fixed_or_younger

theorem Grows.isScope (grows : heap.Grows later) (isScope : heap.IsScope box) :
    later.IsScope box := by
  refine ⟨Nat.lt_of_lt_of_le isScope.inUse grows.size_le, ?_⟩
  rw [grows.fixed_iff box isScope.inUse]
  exact isScope.not_fixed

theorem Grows.refl (heap : Heap) : heap.Grows heap :=
  ⟨Nat.le_refl _, fun _ _ => Iff.rfl⟩

theorem Grows.trans {middle : Heap} (first : heap.Grows middle) (second : middle.Grows later) :
    heap.Grows later := by
  refine ⟨Nat.le_trans first.size_le second.size_le, ?_⟩
  intro box inUse
  rw [second.fixed_iff box (Nat.lt_of_lt_of_le inUse first.size_le), first.fixed_iff box inUse]

theorem MayHold.outer {scope : BoxId} (mayHold : heap.MayHold scope value)
    (ordered : box ≤ scope) : heap.MayHold box value :=
  ⟨mayHold.inUse, mayHold.fixed_or_younger.imp_right (Nat.lt_of_le_of_lt ordered)⟩

theorem isFixed_kind (heap : Heap) (kind : Kind) : heap.IsFixed kind.box :=
  Or.inl kind.box_lt

theorem Ordered.mayHold_kind (ordered : heap.Ordered) (kind : Kind) (box : BoxId) :
    heap.MayHold box kind.box :=
  ⟨Nat.lt_of_lt_of_le kind.box_lt ordered.kinds, Or.inl (heap.isFixed_kind kind)⟩

end Growth

/-- Only boxes in use refer to others. -/
theorem Refers.inUse {heap : Heap} {box other : BoxId} (refers : heap.Refers box other) :
    box < heap.size := by
  apply Nat.lt_of_not_le
  intro unused
  rw [Refers, cell_eq_empty unused] at refers
  exact Cell.not_refers_empty other refers

theorem cell_initial (box : BoxId) : initial.cell box = .empty := by
  match box with
  | 0 | 1 | 2 | 3 | 4 | 5 | 6 => rfl
  | _ + 7 => rfl

theorem ordered_initial : initial.Ordered := by
  have empty : ∀ box other, ¬initial.Refers box other := by
    intro box other refers
    rw [Refers, cell_initial] at refers
    exact Cell.not_refers_empty other refers
  exact ⟨Nat.le_refl 7, fun refers => absurd refers (empty _ _),
    fun refers => absurd refers (empty _ _)⟩

section Allocation

variable {heap : Heap} {cell : Cell}

theorem grows_alloc (heap : Heap) (cell : Cell) : heap.Grows (heap.alloc cell).1 := by
  refine ⟨by simp, ?_⟩
  intro box inUse
  rw [IsFixed, payload?, cell_alloc, if_neg (Nat.ne_of_lt inUse)]
  rfl

theorem cell_alloc_new (heap : Heap) (cell : Cell) :
    (heap.alloc cell).1.cell (heap.alloc cell).2 = cell := by
  rw [cell_alloc]
  exact if_pos rfl

/-- A new box with a payload is fixed. -/
theorem mayHold_alloc (heap : Heap) {cell : Cell} (carries : cell.payload.isSome = true)
    (box : BoxId) : (heap.alloc cell).1.MayHold box (heap.alloc cell).2 := by
  refine ⟨?_, Or.inl (Or.inr ?_)⟩
  · rw [size_alloc]
    exact Nat.lt_succ_self heap.size
  · rw [payload?, cell_alloc_new]
    exact carries

theorem refers_alloc {box other : BoxId} (refers : (heap.alloc cell).1.Refers box other) :
    (box = heap.size ∧ cell.Refers other) ∨ heap.Refers box other := by
  rw [Refers, cell_alloc] at refers
  split at refers
  case isTrue new => exact Or.inl ⟨new, refers⟩
  case isFalse => exact Or.inr refers

/-- A new box may refer to fixed boxes. -/
theorem Ordered.alloc (ordered : heap.Ordered)
    (fixed : ∀ other, cell.Refers other → other < heap.size ∧ heap.IsFixed other) :
    (heap.alloc cell).1.Ordered := by
  have grows := grows_alloc heap cell
  refine ⟨Nat.le_trans ordered.kinds grows.size_le, ?_, ?_⟩
  · intro box other refers
    apply grows.mayHold
    rcases refers_alloc refers with ⟨-, refersNew⟩ | refersOld
    · obtain ⟨inUse, fixedOther⟩ := fixed other refersNew
      exact ⟨inUse, Or.inl fixedOther⟩
    · exact ordered.mayHold refersOld
  · intro box other refers fixedBox
    rcases refers_alloc refers with ⟨rfl, refersNew⟩ | refersOld
    · obtain ⟨inUse, fixedOther⟩ := fixed other refersNew
      exact ⟨(grows.fixed_iff other inUse).mpr fixedOther, inUse⟩
    · have inUse := (ordered.mayHold refersOld).inUse
      rw [grows.fixed_iff box refersOld.inUse] at fixedBox
      rw [grows.fixed_iff other inUse]
      exact ordered.fixed refersOld fixedBox

theorem Ordered.newBox (ordered : heap.Ordered) : heap.newBox.1.Ordered :=
  ordered.alloc fun other refers => absurd refers (Cell.not_refers_empty other)

theorem Ordered.isScope_newBox (ordered : heap.Ordered) : heap.newBox.1.IsScope heap.newBox.2 := by
  refine ⟨heap.newBox_lt_size, ?_⟩
  rintro (kind | carried)
  · exact absurd ordered.kinds (Nat.not_le_of_lt kind)
  · rw [payload?, Heap.newBox, cell_alloc_new] at carried
    cases carried

/-- A box that is made of fixed parts. -/
theorem Ordered.newFromParts (ordered : heap.Ordered) {components : BoxId} {method : Method}
    {payload : Payload} (inUse : components < heap.size) (fixed : heap.IsFixed components)
    (carried : ∀ other ∈ payload.boxes, other < heap.size ∧ heap.IsFixed other) :
    (heap.newFromParts components method (some payload)).1.Ordered := by
  apply ordered.alloc
  rintro other (⟨name, found⟩ | ⟨content, present, member⟩)
  · rw [Bindings.find?_insert] at found
    split at found
    · cases found
      exact ⟨inUse, fixed⟩
    · cases found
  · cases present
    exact carried other member

/-- A literal is a box with a payload that has a new list of its kind as components. -/
theorem Ordered.newOfKind (ordered : heap.Ordered) {payload : Payload}
    (boxless : payload.boxes = []) : (heap.newOfKind payload).1.Ordered := by
  have kind_fixed (kind : Kind) : kind.box < heap.size ∧ heap.IsFixed kind.box :=
    ⟨(ordered.mayHold_kind kind kind.box).inUse, heap.isFixed_kind kind⟩
  have list : (heap.newList [payload.kind.box]).1.Ordered := by
    refine ordered.newFromParts (kind_fixed .list).1 (kind_fixed .list).2 ?_
    intro other member
    cases List.mem_singleton.mp member
    exact kind_fixed payload.kind
  have components : (heap.newList [payload.kind.box]).1.MayHold heap.size heap.size :=
    mayHold_alloc heap rfl heap.size
  have fixed := components.fixed_or_younger.resolve_right (Nat.lt_irrefl _)
  refine list.newFromParts components.inUse fixed ?_
  intro other member
  rw [boxless] at member
  cases member

theorem grows_newOfKind (heap : Heap) (payload : Payload) :
    heap.Grows (heap.newOfKind payload).1 :=
  (grows_alloc heap _).trans (grows_alloc _ _)

theorem mayHold_newOfKind (heap : Heap) (payload : Payload) (box : BoxId) :
    (heap.newOfKind payload).1.MayHold box (heap.newOfKind payload).2 :=
  mayHold_alloc _ rfl box

end Allocation

section Assignment

theorem payload_setVariable (heap : Heap) (box : BoxId) (name : String) (value other : BoxId) :
    ((heap.setVariable box name value).cell other).payload = (heap.cell other).payload := by
  rw [setVariable, cell_modifyVariables]
  split <;> rfl

variable {heap : Heap} {scope value : BoxId}

theorem grows_setVariable (heap : Heap) (box : BoxId) (name : String) (value : BoxId) :
    heap.Grows (heap.setVariable box name value) := by
  refine ⟨by simp, ?_⟩
  intro other inUse
  rw [IsFixed, IsFixed, payload?, payload?, payload_setVariable]

theorem refers_setVariable {name : String} {box other : BoxId}
    (refers : (heap.setVariable scope name value).Refers box other) :
    (box = scope ∧ other = value) ∨ heap.Refers box other := by
  rcases refers with ⟨query, found⟩ | ⟨payload, carried, member⟩
  · rw [setVariable, cell_modifyVariables] at found
    split at found
    case isTrue same =>
      rw [Bindings.find?_insert] at found
      split at found
      · cases found
        exact Or.inl ⟨same.1, rfl⟩
      · exact Or.inr (Or.inl ⟨query, found⟩)
    case isFalse => exact Or.inr (Or.inl ⟨query, found⟩)
  · rw [payload_setVariable] at carried
    exact Or.inr (Or.inr ⟨payload, carried, member⟩)

/-- A box that is not fixed may be filled with what it may hold. -/
theorem Ordered.setVariable (ordered : heap.Ordered) (isScope : heap.IsScope scope)
    (mayHold : heap.MayHold scope value) (name : String) :
    (heap.setVariable scope name value).Ordered := by
  have grows := grows_setVariable heap scope name value
  refine ⟨Nat.le_trans ordered.kinds grows.size_le, ?_, ?_⟩
  · intro box other refers
    apply grows.mayHold
    rcases refers_setVariable refers with ⟨rfl, rfl⟩ | refersOld
    · exact mayHold
    · exact ordered.mayHold refersOld
  · intro box other refers fixedBox
    rcases refers_setVariable refers with ⟨rfl, rfl⟩ | refersOld
    · rw [grows.fixed_iff box isScope.inUse] at fixedBox
      exact absurd fixedBox isScope.not_fixed
    · have inUse := (ordered.mayHold refersOld).inUse
      rw [grows.fixed_iff box refersOld.inUse] at fixedBox
      rw [grows.fixed_iff other inUse]
      exact ordered.fixed refersOld fixedBox

end Assignment

end Heap

end BoxLang
