import Mathlib.Data.List.Sort
import BoxLang.Heap.Values
import BoxLang.Proofs.Heap.References

/-!
# Heaps that correspond

Two heaps correspond when some of their boxes are paired, one to one, and paired boxes have
the same contents up to the pairing.  New boxes can be paired when they are made alike, and a
pairing survives when both sides set the same variable to paired values.
-/

namespace BoxLang

/-- Payloads are the same up to a pairing of boxes. -/
inductive Payload.Matches (Paired : BoxId → BoxId → Prop) : Payload → Payload → Prop
  | boolean (value : Bool) : Matches Paired (.boolean value) (.boolean value)
  | integer (value : Int64) : Matches Paired (.integer value) (.integer value)
  | real (value : Binary64) : Matches Paired (.real value) (.real value)
  | string (bytes : List UInt8) : Matches Paired (.string bytes) (.string bytes)
  | list {items items' : List BoxId} :
      List.Forall₂ Paired items items' → Matches Paired (.list items) (.list items')
  | dictionary {entries entries' : List (BoxId × BoxId)} :
      List.Forall₂ (fun entry entry' => Paired entry.1 entry'.1 ∧ Paired entry.2 entry'.2)
        entries entries' →
      Matches Paired (.dictionary entries) (.dictionary entries')

/-- The contents of boxes are the same up to a pairing of boxes. -/
structure Cell.Matches (Paired : BoxId → BoxId → Prop) (cell cell' : Cell) : Prop where
  bindings : ∀ name, Option.Rel Paired (cell.bindings.find? name) (cell'.bindings.find? name)
  method : cell.method = cell'.method
  payload : Option.Rel (Payload.Matches Paired) cell.payload cell'.payload

/-- Boxes of two heaps are paired, one to one and each kind with itself, so that paired boxes
have the same contents up to the pairing. The contents of sealed boxes are left out. -/
structure Heap.Corresponds (Sealed : BoxId → Prop) (Paired : BoxId → BoxId → Prop)
    (heap heap' : Heap) : Prop where
  kinds : ∀ kind : Kind, Paired kind.box kind.box
  inUse : ∀ {box box'}, Paired box box' → box < heap.size ∧ box' < heap'.size
  unique : ∀ {first first' second second'}, Paired first first' → Paired second second' →
    (first = second ↔ first' = second')
  cells : ∀ {box box'}, Paired box box' → ¬Sealed box →
    (heap.cell box).Matches Paired (heap'.cell box')

/-- What can be reached from a box of one heap is the same graph as what can be reached from a
box of another. -/
def Heap.Isomorphic (heap : Heap) (box : BoxId) (heap' : Heap) (box' : BoxId) : Prop :=
  ∃ Paired : BoxId → BoxId → Prop,
    heap.Corresponds (fun _ => False) Paired heap' ∧ Paired box box'

/-- A pairing with one more pair. -/
def PairedWith (Paired : BoxId → BoxId → Prop) (new new' box box' : BoxId) : Prop :=
  Paired box box' ∨ box = new ∧ box' = new'

section Contents

variable {Paired Paired' : BoxId → BoxId → Prop}

theorem optionRel_mono {α β : Type} {Rel Rel' : α → β → Prop} {first : Option α}
    {second : Option β} (related : Option.Rel Rel first second)
    (imp : ∀ a b, Rel a b → Rel' a b) : Option.Rel Rel' first second := by
  cases related with
  | some related => exact .some (imp _ _ related)
  | none => exact .none

theorem optionRel_isSome {α β : Type} {Rel : α → β → Prop} {first : Option α}
    {second : Option β} (related : Option.Rel Rel first second) :
    first.isSome = second.isSome := by
  cases related <;> rfl

theorem map_eq_of_forall₂ {α β γ : Type} {Rel : α → β → Prop} {first : α → γ} {second : β → γ}
    {list : List α} {list' : List β} (related : List.Forall₂ Rel list list')
    (alike : ∀ a b, Rel a b → first a = second b) : list.map first = list'.map second := by
  rw [← List.forall₂_eq_eq_eq, List.forall₂_map_left_iff, List.forall₂_map_right_iff]
  exact related.imp alike

/-- Names are listed in one order. -/
theorem Bindings.names_eq_of_mem_iff {first second : Bindings BoxId}
    (same : ∀ name, name ∈ first.names ↔ name ∈ second.names) : first.names = second.names := by
  have ascending (bindings : Bindings BoxId) : bindings.names.Pairwise (· < ·) :=
    List.pairwise_map.mpr bindings.ascending
  exact (ascending first).eq_of_mem_iff (ascending second) same

theorem Payload.Matches.mono {payload payload' : Payload}
    (matched : payload.Matches Paired payload')
    (imp : ∀ box box', Paired box box' → Paired' box box') :
    payload.Matches Paired' payload' := by
  cases matched with
  | boolean => exact .boolean _
  | integer => exact .integer _
  | real => exact .real _
  | string => exact .string _
  | list items => exact .list (items.imp imp)
  | dictionary entries =>
      exact .dictionary (entries.imp fun _ _ paired => paired.imp (imp _ _) (imp _ _))

/-- A payload is the same up to a pairing of the boxes that it holds with themselves. -/
theorem Payload.matches_self {payload : Payload} (paired : ∀ box ∈ payload.boxes, Paired box box) :
    payload.Matches Paired payload := by
  cases payload with
  | boolean => exact .boolean _
  | integer => exact .integer _
  | real => exact .real _
  | string => exact .string _
  | list items => exact .list (List.forall₂_same.mpr paired)
  | dictionary entries =>
      refine .dictionary (List.forall₂_same.mpr ?_)
      intro entry member
      have held : ∀ box ∈ [entry.1, entry.2], Paired box box := fun box memberBox =>
        paired box (List.mem_flatMap.mpr ⟨entry, member, memberBox⟩)
      simpa using held

theorem Cell.Matches.mono {cell cell' : Cell} (matched : cell.Matches Paired cell')
    (imp : ∀ box box', Paired box box' → Paired' box box') : cell.Matches Paired' cell' :=
  ⟨fun name => optionRel_mono (matched.bindings name) imp, matched.method,
    optionRel_mono matched.payload fun _ _ payload => payload.mono imp⟩

theorem Cell.matches_self {cell : Cell} (paired : ∀ box, cell.Refers box → Paired box box) :
    cell.Matches Paired cell := by
  refine ⟨?_, rfl, ?_⟩
  · intro name
    cases found : cell.bindings.find? name with
    | none => exact .none
    | some value => exact .some (paired value (Or.inl ⟨name, found⟩))
  · cases carried : cell.payload with
    | none => exact .none
    | some payload =>
        exact .some (Payload.matches_self fun box member =>
          paired box (Or.inr ⟨payload, carried, member⟩))

theorem Cell.matches_empty : Cell.empty.Matches Paired .empty :=
  ⟨fun _ => .none, rfl, .none⟩

theorem Cell.Matches.insert {cell cell' : Cell} (matched : cell.Matches Paired cell')
    (name : String) {value value' : BoxId} (paired : Paired value value') :
    Cell.Matches Paired { cell with bindings := cell.bindings.insert name value }
      { cell' with bindings := cell'.bindings.insert name value' } := by
  refine ⟨?_, matched.method, matched.payload⟩
  intro query
  simp only [Bindings.find?_insert]
  split
  · exact .some paired
  · exact matched.bindings query

theorem Cell.matches_fromParts {components components' : BoxId} {payload payload' : Payload}
    (method : Method) (paired : Paired components components')
    (matched : payload.Matches Paired payload') :
    Cell.Matches Paired
      ⟨Bindings.empty.insert componentsName components, method, some payload⟩
      ⟨Bindings.empty.insert componentsName components', method, some payload'⟩ := by
  refine ⟨?_, rfl, .some matched⟩
  intro query
  simp only [Bindings.find?_insert]
  split
  · exact .some paired
  · exact .none

theorem Cell.Matches.names_eq {cell cell' : Cell} (matched : cell.Matches Paired cell') :
    cell.bindings.names = cell'.bindings.names := by
  apply Bindings.names_eq_of_mem_iff
  intro name
  rw [Bindings.mem_names_iff, Bindings.mem_names_iff, optionRel_isSome (matched.bindings name)]

end Contents

namespace Heap.Corresponds

variable {Sealed : BoxId → Prop} {Paired : BoxId → BoxId → Prop} {heap heap' : Heap}
  {box box' : BoxId}

/-- Paired boxes are of the same kind, if of any. -/
theorem ofBox?_eq (corresponds : heap.Corresponds Sealed Paired heap') (paired : Paired box box') :
    Kind.ofBox? box = Kind.ofBox? box' := by
  apply Option.ext
  intro kind
  rw [Kind.ofBox?_eq_some_iff, Kind.ofBox?_eq_some_iff]
  exact corresponds.unique paired (corresponds.kinds kind)

/-- Boxes that are made alike can be paired. -/
theorem alloc (corresponds : heap.Corresponds Sealed Paired heap') {cell cell' : Cell}
    (matched : cell.Matches Paired cell') :
    (heap.alloc cell).1.Corresponds Sealed (PairedWith Paired heap.size heap'.size)
      (heap'.alloc cell').1 where
  kinds kind := Or.inl (corresponds.kinds kind)
  inUse := by
    rintro box box' (paired | ⟨rfl, rfl⟩)
    · obtain ⟨inUse, inUse'⟩ := corresponds.inUse paired
      rw [size_alloc, size_alloc]
      exact ⟨Nat.lt_succ_of_lt inUse, Nat.lt_succ_of_lt inUse'⟩
    · simp
  unique := by
    rintro first first' second second' (paired | ⟨rfl, rfl⟩) (paired' | ⟨rfl, rfl⟩)
    · exact corresponds.unique paired paired'
    · obtain ⟨inUse, inUse'⟩ := corresponds.inUse paired
      exact iff_of_false (Nat.ne_of_lt inUse) (Nat.ne_of_lt inUse')
    · obtain ⟨inUse, inUse'⟩ := corresponds.inUse paired'
      exact iff_of_false (Nat.ne_of_gt inUse) (Nat.ne_of_gt inUse')
    · simp
  cells := by
    rintro box box' (paired | ⟨rfl, rfl⟩) unsealed
    · obtain ⟨inUse, inUse'⟩ := corresponds.inUse paired
      rw [cell_alloc, if_neg (Nat.ne_of_lt inUse), cell_alloc, if_neg (Nat.ne_of_lt inUse')]
      exact (corresponds.cells paired unsealed).mono fun _ _ => Or.inl
    · rw [cell_alloc, if_pos rfl, cell_alloc, if_pos rfl]
      exact matched.mono fun _ _ => Or.inl

/-- Both heaps may set a variable of boxes that are paired with no others. -/
theorem setVariable (corresponds : heap.Corresponds Sealed Paired heap') {scope scope' : BoxId}
    (scopes : ∀ {box box'}, Paired box box' → (box = scope ↔ box' = scope'))
    (inUse : scope < heap.size) (inUse' : scope' < heap'.size) (name : String)
    {value value' : BoxId} (paired : Paired value value') :
    (heap.setVariable scope name value).Corresponds Sealed Paired
      (heap'.setVariable scope' name value') where
  kinds := corresponds.kinds
  inUse paired := by
    simp only [size_setVariable]
    exact corresponds.inUse paired
  unique := corresponds.unique
  cells := by
    intro box box' pairedBox unsealed
    have matched := corresponds.cells pairedBox unsealed
    simp only [Heap.setVariable, cell_modifyVariables]
    by_cases same : box = scope
    · rw [if_pos ⟨same, inUse⟩, if_pos ⟨(scopes pairedBox).mp same, inUse'⟩]
      exact matched.insert name paired
    · have different : box' ≠ scope' := fun same' => same ((scopes pairedBox).mpr same')
      rw [if_neg fun both => same both.1, if_neg fun both => different both.1]
      exact matched

/-- Heaps still correspond when one of them has changed in boxes that are not paired. -/
theorem retained (corresponds : heap.Corresponds Sealed Paired heap') {Kept : BoxId → Prop}
    {later : Heap} (retains : Retains Kept heap later)
    (kept : ∀ {box box'}, Paired box box' → Kept box) :
    later.Corresponds Sealed Paired heap' where
  kinds := corresponds.kinds
  inUse := by
    intro box box' paired
    obtain ⟨inUse, inUse'⟩ := corresponds.inUse paired
    exact ⟨Nat.lt_of_lt_of_le inUse retains.size_le, inUse'⟩
  unique := corresponds.unique
  cells := by
    intro box box' paired unsealed
    rw [retains.cell_eq box (corresponds.inUse paired).1 (kept paired)]
    exact corresponds.cells paired unsealed

end Heap.Corresponds

namespace Heap

/-- The kinds are boxes of the heap, and payloads only hold boxes that are older than the box
that carries them. -/
structure Founded (heap : Heap) : Prop where
  kinds : Kind.all.length ≤ heap.size
  older : ∀ {box payload}, heap.payload? box = some payload →
    ∀ other ∈ payload.boxes, other < box

/-- A heap with boxes that only refer to boxes of the heap. -/
structure WellFormed (heap : Heap) : Prop extends heap.Founded where
  inUse : ∀ {box other}, heap.Refers box other → other < heap.size

section Founded

variable {heap : Heap}

theorem Founded.alloc (founded : heap.Founded) {cell : Cell}
    (older : ∀ payload, cell.payload = some payload → ∀ other ∈ payload.boxes, other < heap.size) :
    (heap.alloc cell).1.Founded := by
  refine ⟨Nat.le_trans founded.kinds (grows_alloc heap cell).size_le, ?_⟩
  intro box payload carried
  rw [payload?, cell_alloc] at carried
  split at carried
  case isTrue new =>
    rw [new]
    exact older payload carried
  case isFalse => exact founded.older carried

theorem Founded.newBox (founded : heap.Founded) : heap.newBox.1.Founded :=
  founded.alloc fun _ carried => nomatch carried

theorem Founded.newOfKind (founded : heap.Founded) {payload : Payload}
    (boxless : payload.boxes = []) : (heap.newOfKind payload).1.Founded := by
  have list : (heap.newList [payload.kind.box]).1.Founded := by
    apply founded.alloc
    rintro _ ⟨⟩ other member
    cases List.mem_singleton.mp member
    exact Nat.lt_of_lt_of_le payload.kind.box_lt founded.kinds
  apply list.alloc
  rintro _ ⟨⟩ other member
  rw [boxless] at member
  cases member

theorem Founded.setVariable (founded : heap.Founded) (scope : BoxId) (name : String)
    (value : BoxId) : (heap.setVariable scope name value).Founded := by
  refine ⟨Nat.le_trans founded.kinds (grows_setVariable heap scope name value).size_le, ?_⟩
  intro box payload carried
  rw [payload?, payload_setVariable] at carried
  exact founded.older carried

/-- Every box of a heap corresponds to itself, and still does when boxes have been added. -/
theorem WellFormed.corresponds (wellFormed : heap.WellFormed) {first second : Heap}
    (retains : Retains (fun _ => True) heap first)
    (retains' : Retains (fun _ => True) heap second) :
    first.Corresponds (fun _ => False) (fun box box' => box = box' ∧ box < heap.size) second where
  kinds kind := ⟨rfl, Nat.lt_of_lt_of_le kind.box_lt wellFormed.kinds⟩
  inUse := by
    rintro box _ ⟨rfl, inUse⟩
    exact ⟨Nat.lt_of_lt_of_le inUse retains.size_le, Nat.lt_of_lt_of_le inUse retains'.size_le⟩
  unique := by
    rintro first _ second _ ⟨rfl, -⟩ ⟨rfl, -⟩
    exact Iff.rfl
  cells := by
    rintro box _ ⟨rfl, inUse⟩ -
    rw [retains.cell_eq box inUse trivial, retains'.cell_eq box inUse trivial]
    exact Cell.matches_self fun other refers => ⟨rfl, wellFormed.inUse refers⟩

end Founded

/-- Heaps that keep the order of references are well-formed. -/
theorem Ordered.wellFormed {heap : Heap} (ordered : heap.Ordered) : heap.WellFormed where
  kinds := ordered.kinds
  older carried other member :=
    (ordered.fixed (Or.inr ⟨_, carried, member⟩) (Or.inr (by rw [carried]; rfl))).2
  inUse refers := (ordered.mayHold refers).inUse

end Heap

end BoxLang
