import BoxLang.Proofs.Heap.Printing
import BoxLang.Proofs.Machine.CallScopes

/-!
# Heaps that arise

A heap arises from the one with the kinds alone by making boxes, setting and removing their
variables and evaluating trees.  Whatever the trees, all that boxes refer to and all values at
hand are boxes of the heap, so a payload, which is never changed, holds older boxes only.  Hence
payloads have no cycles, although variables may, and boxes can be shown.
-/

namespace BoxLang

namespace Heap

section Operations

variable {heap : Heap}

theorem WellFormed.kind_inUse (wellFormed : heap.WellFormed) (kind : Kind) :
    kind.box < heap.size :=
  Nat.lt_of_lt_of_le kind.box_lt wellFormed.kinds

theorem WellFormed.value_inUse (wellFormed : heap.WellFormed) {box value : BoxId} {name : String}
    (found : heap.lookup? box name = some value) : value < heap.size :=
  wellFormed.inUse (Or.inl ⟨name, found⟩)

theorem WellFormed.item_inUse (wellFormed : heap.WellFormed) {box item : BoxId}
    {items : List BoxId} (listed : heap.list? box = some items) (member : item ∈ items) :
    item < heap.size := by
  rw [list?] at listed
  split at listed
  case h_1 carried =>
    cases listed
    exact wellFormed.inUse (Or.inr ⟨_, carried, member⟩)
  case h_2 => cases listed

/-- A new box may refer to all boxes that there are. -/
theorem WellFormed.alloc (wellFormed : heap.WellFormed) {cell : Cell}
    (inUse : ∀ other, cell.Refers other → other < heap.size) : (heap.alloc cell).1.WellFormed where
  toFounded := by
    apply wellFormed.toFounded.alloc
    intro payload carried other member
    exact inUse other (Or.inr ⟨payload, carried, member⟩)
  inUse := by
    intro box other refers
    rw [size_alloc]
    apply Nat.lt_succ_of_lt
    rcases refers_alloc refers with ⟨-, refersNew⟩ | refersOld
    · exact inUse other refersNew
    · exact wellFormed.inUse refersOld

/-- The variables of a box may be changed to any boxes that there are. -/
theorem WellFormed.modifyVariables (wellFormed : heap.WellFormed) (box : BoxId)
    {change : Bindings BoxId → Bindings BoxId}
    (inUse : ∀ bindings name value, (change bindings).find? name = some value →
      bindings.find? name = some value ∨ value < heap.size) :
    (heap.modifyVariables box change).WellFormed := by
  have payload_eq (query : BoxId) :
      ((heap.modifyVariables box change).cell query).payload = (heap.cell query).payload := by
    rw [cell_modifyVariables]
    split <;> rfl
  refine ⟨⟨?_, ?_⟩, ?_⟩
  · rw [size_modifyVariables]
    exact wellFormed.kinds
  · intro query payload carried
    rw [payload?, payload_eq] at carried
    exact wellFormed.older carried
  · rintro query other (⟨name, found⟩ | ⟨payload, carried, member⟩)
    · rw [size_modifyVariables]
      rw [cell_modifyVariables] at found
      split at found
      · rcases inUse _ name other found with kept | bounded
        · exact wellFormed.inUse (Or.inl ⟨name, kept⟩)
        · exact bounded
      · exact wellFormed.inUse (Or.inl ⟨name, found⟩)
    · rw [size_modifyVariables]
      rw [payload_eq] at carried
      exact wellFormed.inUse (Or.inr ⟨payload, carried, member⟩)

theorem WellFormed.setVariable (wellFormed : heap.WellFormed) (box : BoxId) (name : String)
    {value : BoxId} (bounded : value < heap.size) :
    (heap.setVariable box name value).WellFormed := by
  apply wellFormed.modifyVariables
  intro bindings query other found
  rw [Bindings.find?_insert] at found
  split at found
  · cases found
    exact Or.inr bounded
  · exact Or.inl found

theorem WellFormed.removeVariable (wellFormed : heap.WellFormed) (box : BoxId) (name : String) :
    (heap.removeVariable box name).WellFormed := by
  apply wellFormed.modifyVariables
  intro bindings query other found
  rw [Bindings.find?_erase] at found
  split at found
  · cases found
  · exact Or.inl found

theorem WellFormed.newBox (wellFormed : heap.WellFormed) : heap.newBox.1.WellFormed :=
  wellFormed.alloc fun other refers => absurd refers (Cell.not_refers_empty other)

theorem WellFormed.newMethod (wellFormed : heap.WellFormed) (method : Method) :
    (heap.newMethod method).1.WellFormed :=
  wellFormed.alloc fun other refers => absurd refers (Cell.not_refers_empty other)

theorem WellFormed.newFromParts (wellFormed : heap.WellFormed) {components : BoxId}
    (bounded : components < heap.size) (method : Method) {payload : Option Payload}
    (held : ∀ content, payload = some content → ∀ box ∈ content.boxes, box < heap.size) :
    (heap.newFromParts components method payload).1.WellFormed := by
  apply wellFormed.alloc
  rintro other (⟨name, found⟩ | ⟨content, carried, member⟩)
  · rw [Bindings.find?_insert] at found
    split at found <;> cases found
    exact bounded
  · exact held content carried other member

theorem WellFormed.newList (wellFormed : heap.WellFormed) {items : List BoxId}
    (bounded : ∀ item ∈ items, item < heap.size) : (heap.newList items).1.WellFormed := by
  apply wellFormed.newFromParts (wellFormed.kind_inUse .list)
  rintro _ ⟨⟩
  exact bounded

theorem newList_lt_size (heap : Heap) (items : List BoxId) :
    (heap.newList items).2 < (heap.newList items).1.size := by
  rw [newList, newFromParts, size_alloc]
  exact Nat.lt_succ_self heap.size

theorem WellFormed.newOfKind (wellFormed : heap.WellFormed) {payload : Payload}
    (held : ∀ box ∈ payload.boxes, box < heap.size) : (heap.newOfKind payload).1.WellFormed := by
  have list : (heap.newList [payload.kind.box]).1.WellFormed :=
    wellFormed.newList (List.forall_mem_singleton.mpr (wellFormed.kind_inUse _))
  apply list.newFromParts (heap.newList_lt_size _)
  rintro _ ⟨⟩ box member
  exact Nat.lt_of_lt_of_le (held box member) (grows_alloc heap _).size_le

theorem WellFormed.newValue (wellFormed : heap.WellFormed) {payload : Payload}
    (held : ∀ box ∈ payload.boxes, box < heap.size) : (heap.newValue payload).1.WellFormed := by
  cases payload with
  | list items => exact wellFormed.newList held
  | _ => exact wellFormed.newOfKind held

theorem WellFormed.setComponents (wellFormed : heap.WellFormed) (box : BoxId)
    {items : List BoxId} (bounded : ∀ item ∈ items, item < heap.size) :
    (heap.setComponents box items).WellFormed :=
  (wellFormed.newList bounded).setVariable box componentsName (heap.newList_lt_size items)

/-- What a call binds is its argument or in the payload of it. -/
theorem WellFormed.argument_inUse (wellFormed : heap.WellFormed) {parameters : List String}
    {argument value : BoxId} (bounded : argument < heap.size) {name : String}
    (binds : heap.BindsArgument parameters argument name value) : value < heap.size := by
  cases binds with
  | item position listed _ found _ =>
      exact wellFormed.item_inUse listed (List.mem_of_getElem? found)
  | whole _ _ same => exact same ▸ bounded

theorem WellFormed.callScope (wellFormed : heap.WellFormed) {target argument : BoxId}
    (bounded : target < heap.size) (method : Method) (bounded' : argument < heap.size) :
    (heap.callScope target method argument).1.WellFormed := by
  have list : (heap.newList [target]).1.WellFormed :=
    wellFormed.newList (List.forall_mem_singleton.mpr bounded)
  have size_le := (grows_alloc heap
    ⟨Bindings.empty.insert componentsName Kind.list.box, .none, some (.list [target])⟩).size_le
  apply list.alloc
  rintro other (⟨name, found⟩ | ⟨payload, carried, -⟩)
  · rw [find?_callVariables, Option.or_eq_some_iff, search?_boundArguments] at found
    rcases found with binds | ⟨-, components⟩
    · exact Nat.lt_of_lt_of_le (wellFormed.argument_inUse bounded' binds) size_le
    · split at components <;> cases components
      exact heap.newList_lt_size [target]
  · cases carried

end Operations

end Heap

namespace Machine

/-- All that boxes refer to and all values at hand are boxes of the heap. -/
structure Grounded (heap : Heap) (values : Stack BoxId) : Prop where
  wellFormed : heap.WellFormed
  inUse : ∀ value ∈ values.items, value < heap.size

namespace Grounded

variable {heap later : Heap} {values : Stack BoxId}

/-- The values are still at hand when there are more boxes. -/
theorem grown (grounded : Grounded heap values) (wellFormed : later.WellFormed)
    (size_le : heap.size ≤ later.size) : Grounded later values :=
  ⟨wellFormed, fun value member => Nat.lt_of_lt_of_le (grounded.inUse value member) size_le⟩

theorem push (grounded : Grounded heap values) {value : BoxId} (bounded : value < heap.size) :
    Grounded heap (values.push value) :=
  ⟨grounded.wellFormed, List.forall_mem_cons.mpr ⟨bounded, grounded.inUse⟩⟩

theorem truncate (grounded : Grounded heap values) (count : Nat) :
    Grounded heap (values.truncate count) := by
  refine ⟨grounded.wellFormed, ?_⟩
  intro value member
  exact grounded.inUse value (List.mem_of_mem_drop member)

theorem withValue (grounded : Grounded heap values) {act : Heap → Stack BoxId → BoxId → Effect}
    (acts : ∀ {values value}, Grounded heap values → value < heap.size →
      Grounded (act heap values value).heap (act heap values value).values) :
    Grounded (Effect.withValue heap values act).heap (Effect.withValue heap values act).values := by
  unfold Effect.withValue
  split
  case h_1 value below popped =>
    have items_eq : values.items = value :: below.items :=
      congrArg Stack.items ((Stack.pop?_eq_some_iff ..).mp popped)
    have inUse := grounded.inUse
    rw [items_eq] at inUse
    obtain ⟨bounded, lower⟩ := List.forall_mem_cons.mp inUse
    exact acts ⟨grounded.wellFormed, lower⟩ bounded
  case h_2 => exact grounded

theorem lookup (grounded : Grounded heap values) (box : BoxId) (name : String) :
    Grounded (Effect.lookup heap values box name).heap
      (Effect.lookup heap values box name).values := by
  unfold Effect.lookup
  split
  case h_1 value found => exact grounded.push (grounded.wellFormed.value_inUse found)
  case h_2 => exact grounded

theorem assign (grounded : Grounded heap values) (box : BoxId) (name : String) {value : BoxId}
    (bounded : value < heap.size) :
    Grounded (heap.setVariable box name value) (values.push value) := by
  have size_eq := heap.size_setVariable box name value
  have wellFormed := grounded.wellFormed.setVariable box name bounded
  exact (grounded.grown wellFormed (Nat.le_of_eq size_eq.symm)).push (size_eq.symm ▸ bounded)

theorem newBox (grounded : Grounded heap values) :
    Grounded heap.newBox.1 (values.push heap.newBox.2) :=
  (grounded.grown grounded.wellFormed.newBox (heap.grows_alloc _).size_le).push
    heap.newBox_lt_size

theorem literal (grounded : Grounded heap values) {payload : Payload}
    (boxless : payload.boxes = []) :
    Grounded (heap.newOfKind payload).1 (values.push (heap.newOfKind payload).2) := by
  have wellFormed : (heap.newOfKind payload).1.WellFormed := by
    apply grounded.wellFormed.newOfKind
    rw [boxless]
    exact fun _ member => nomatch member
  exact (grounded.grown wellFormed (heap.grows_newOfKind payload).size_le).push
    (heap.mayHold_newOfKind payload 0).inUse

theorem call (grounded : Grounded heap values) {target argument : BoxId}
    (bounded : target < heap.size) (bounded' : argument < heap.size) :
    Grounded (Effect.call heap values target argument).heap
      (Effect.call heap values target argument).values := by
  unfold Effect.call
  split
  case h_1 => exact grounded
  case h_2 method _ =>
    split
    case h_1 => exact grounded
    case h_2 =>
      exact grounded.grown (grounded.wellFormed.callScope bounded method bounded')
        (heap.isCallScope_callScope target method argument).retains.size_le

end Grounded

/-- A step of any frame makes use of boxes of the heap only. -/
theorem Grounded.step {heap : Heap} {values : Stack BoxId} (grounded : Grounded heap values)
    (frame : Frame) :
    Grounded (frame.step heap values).heap (frame.step heap values).values := by
  obtain ⟨scope, expr, phase, baseline⟩ := frame
  have null := grounded.push (grounded.wellFormed.kind_inUse .null)
  cases expr with
  | sequence items =>
      simp only [Frame.step]
      split
      · exact grounded.truncate baseline
      · split
        · exact null
        · exact grounded
  | get name =>
      rcases phase with _ | phase
      · exact grounded.lookup scope name
      · exact grounded
  | getFrom target name =>
      rcases phase with _ | _ | phase
      · exact grounded
      · exact grounded.withValue fun lower _ => lower.lookup _ name
      · exact grounded
  | assign name value =>
      rcases phase with _ | _ | phase
      · exact grounded
      · exact grounded.withValue fun lower bounded => lower.assign scope name bounded
      · exact grounded
  | assignTo target name value =>
      rcases phase with _ | _ | _ | phase
      · exact grounded
      · exact grounded
      · apply grounded.withValue
        intro _ value lower bounded
        exact lower.withValue fun lowest _ => lowest.assign _ name bounded
      · exact grounded
  | call target argument =>
      rcases phase with _ | _ | _ | phase
      · exact grounded
      · exact grounded
      · apply grounded.withValue
        intro _ argument lower bounded
        exact lower.withValue fun lowest boundedTarget => lowest.call boundedTarget bounded
      · exact grounded
  | emptyBox =>
      rcases phase with _ | _ | phase
      · exact grounded.newBox
      · exact grounded.truncate (baseline + 1)
      · exact grounded
  | box body =>
      rcases phase with _ | _ | phase
      · exact grounded.newBox
      · exact grounded.truncate (baseline + 1)
      · exact grounded
  | text bytes =>
      rcases phase with _ | phase
      · exact grounded.literal rfl
      · exact grounded
  | integer number =>
      rcases phase with _ | phase
      · exact grounded.literal rfl
      · exact grounded
  | real number =>
      rcases phase with _ | phase
      · exact grounded.literal rfl
      · exact grounded
  | external function => exact grounded

theorem Grounded.next {limits : Limits} {machine later : Machine}
    (grounded : Grounded machine.heap machine.values)
    (stepped : machine.next limits = .running later) : Grounded later.heap later.values := by
  obtain ⟨frame, below, -, followed⟩ := next_eq_running stepped
  have effect := grounded.step frame
  rcases follow_eq_running followed with ⟨-, rfl⟩ | ⟨scope, expr, -, -, rfl⟩ | ⟨-, rfl⟩
  · exact effect
  · exact effect
  · exact effect

/-- Every evaluation keeps a heap well-formed, at each of its steps and however it ends. -/
theorem wellFormed_of_evaluate {heap : Heap} (wellFormed : heap.WellFormed) (limits : Limits)
    (count : Nat) (scope : BoxId) (expr : Expr) :
    (evaluate limits count heap scope expr).heap.WellFormed := by
  refine heap_of_invariant wellFormed ?_ (fun _ _ => Grounded.next)
    (fun _ grounded => grounded.wellFormed)
    (fun _ frame _ grounded _ => (grounded.step frame).wellFormed) count
  intro machine started
  rw [(start_eq_running started).2]
  exact ⟨wellFormed, List.forall_mem_singleton.mpr (wellFormed.kind_inUse .null)⟩

end Machine

namespace Heap

/-- A heap comes from the one with the kinds alone by making boxes of boxes that there are,
changing variables and evaluating trees, to the end or not. -/
inductive Arises : Heap → Prop
  | initial : Arises initial
  | newBox {heap : Heap} : Arises heap → Arises heap.newBox.1
  | newMethod {heap : Heap} (method : Method) : Arises heap → Arises (heap.newMethod method).1
  | newFromParts {heap : Heap} {components : BoxId} (method : Method) {payload : Option Payload} :
      Arises heap → components < heap.size →
      (∀ content, payload = some content → ∀ box ∈ content.boxes, box < heap.size) →
      Arises (heap.newFromParts components method payload).1
  | newValue {heap : Heap} {payload : Payload} : Arises heap →
      (∀ box ∈ payload.boxes, box < heap.size) → Arises (heap.newValue payload).1
  | setVariable {heap : Heap} (box : BoxId) (name : String) {value : BoxId} : Arises heap →
      value < heap.size → Arises (heap.setVariable box name value)
  | removeVariable {heap : Heap} (box : BoxId) (name : String) : Arises heap →
      Arises (heap.removeVariable box name)
  | setComponents {heap : Heap} (box : BoxId) {items : List BoxId} : Arises heap →
      (∀ item ∈ items, item < heap.size) → Arises (heap.setComponents box items)
  | evaluate {heap : Heap} (limits : Limits) (count : Nat) (scope : BoxId) (expr : Expr) :
      Arises heap → Arises (Machine.evaluate limits count heap scope expr).heap

theorem Arises.wellFormed {heap : Heap} (arises : heap.Arises) : heap.WellFormed := by
  induction arises with
  | initial => exact ordered_initial.wellFormed
  | newBox _ wellFormed => exact wellFormed.newBox
  | newMethod method _ wellFormed => exact wellFormed.newMethod method
  | newFromParts method _ bounded held wellFormed =>
      exact wellFormed.newFromParts bounded method held
  | newValue _ held wellFormed => exact wellFormed.newValue held
  | setVariable box name _ bounded wellFormed => exact wellFormed.setVariable box name bounded
  | removeVariable box name _ wellFormed => exact wellFormed.removeVariable box name
  | setComponents box _ bounded wellFormed => exact wellFormed.setComponents box bounded
  | evaluate limits count scope expr _ wellFormed =>
      exact Machine.wellFormed_of_evaluate wellFormed limits count scope expr

/-- In every heap that arises, no box is in its own payload, however deep, and both ways of
showing a box come to an end with one result.  Boxes with the same kind, names of variables and
payload that can both or neither be called, and that only hold such boxes, are shown alike, in
one heap or in two.  So no text changes with the value of a variable. -/
theorem printing_follows_payloads {heap : Heap} (arises : heap.Arises) :
    (∀ box, ¬Relation.TransGen heap.Contains box box) ∧
    (∀ box text, displayPrinter.Prints heap box text ↔ text = heap.display box) ∧
    (∀ box outline, outlinePrinter.Prints heap box outline ↔ outline = heap.outline box) ∧
    (∀ box heap' box', heap'.Arises → heap.Resembles box heap' box' →
      heap.display box = heap'.display box' ∧ heap.outline box = heap'.outline box') ∧
    ∀ scope name value box, (heap.lookup? scope name).isSome = true →
      (heap.setVariable scope name value).display box = heap.display box ∧
      (heap.setVariable scope name value).outline box = heap.outline box := by
  have founded := arises.wellFormed.toFounded
  refine ⟨founded.not_contains_self, fun _ _ => Printer.prints_iff founded,
    fun _ _ => Printer.prints_iff founded, ?_, ?_⟩
  · intro box heap' box' arises' resembles
    have founded' := arises'.wellFormed.toFounded
    exact ⟨displayPrinter.shown_eq_of_resembles founded founded' resembles,
      outlinePrinter.shown_eq_of_resembles founded founded' resembles⟩
  · intro scope name value box bound
    have founded' := founded.setVariable scope name value
    have resembles := resembles_setVariable bound value box
    exact ⟨(displayPrinter.shown_eq_of_resembles founded founded' resembles).symm,
      (outlinePrinter.shown_eq_of_resembles founded founded' resembles).symm⟩

/-- A box that refers to itself and to a list that holds it, filled in part by an evaluation. -/
theorem printing_follows_payloads_cycle :
    ∃ heap : Heap, heap.Arises ∧ heap.lookup? 7 "self" = some 7 ∧
      heap.lookup? 7 "items" = some 8 ∧ heap.list? 8 = some [7, Kind.null.box] ∧
      displayPrinter.Prints heap 8 "[\x7bitems, self, x\x7d, null]" ∧
      (heap.setVariable 7 "self" 8).display 8 = heap.display 8 := by
  let start := (initial.newBox.1.newValue (.list [7, Kind.null.box])).1
  let filled := (start.setVariable 7 "self" 7).setVariable 7 "items" 8
  let heap := (Machine.evaluate .unlimited 6 filled 7 (.assign "x" (.get "self"))).heap
  have arises : heap.Arises := by
    refine .evaluate _ _ _ _ (.setVariable _ _ (.setVariable _ _ (.newValue (.newBox .initial) ?_)
      ?_) ?_)
    · decide
    · decide
    · decide
  obtain ⟨-, prints, -, -, unchanged⟩ := printing_follows_payloads arises
  refine ⟨heap, arises, ?_, ?_, ?_, (prints 8 _).mpr ?_, (unchanged 7 "self" 8 8 ?_).1⟩
  · decide +kernel
  · decide +kernel
  · decide +kernel
  · decide +kernel
  · decide +kernel

end Heap

end BoxLang
