import BoxLang.Expr.Basic
import BoxLang.Heap.Bindings
import BoxLang.Heap.Kind

/-!
# The heap

A box has variables, which may be changed, and a method and a payload, which may
not.  The heap holds the boxes by number, and new boxes get the next number.
-/

namespace BoxLang

/-- What a box does when it is called. Without a body it cannot be called. -/
structure Method where
  parameters : List String
  body : Option Expr

/-- The built-in value that a box carries. -/
inductive Payload
  | boolean (value : Bool)
  | integer (value : Int64)
  | real (value : Binary64)
  | string (bytes : List UInt8)
  | list (items : List BoxId)
  | dictionary (entries : List (BoxId × BoxId))

/-- The contents of a box. -/
structure Cell where
  bindings : Bindings BoxId
  method : Method
  payload : Option Payload

structure Heap where
  cells : Array Cell

namespace Method

def none : Method :=
  ⟨[], .none⟩

def isCallable (method : Method) : Bool :=
  method.body.isSome

/-- Whether two methods have the same parameters and bodies that agree. -/
def agrees (first second : Method) : Bool :=
  first.parameters == second.parameters &&
    match first.body, second.body with
    | .none, .none => true
    | .some body, .some body' => body.agrees body'
    | _, _ => false

end Method

namespace Payload

def kind : Payload → Kind
  | .boolean _ => .boolean
  | .integer _ => .integer
  | .real _ => .real
  | .string _ => .string
  | .list _ => .list
  | .dictionary _ => .dictionary

/-- The boxes that a payload holds, in order. -/
def boxes : Payload → List BoxId
  | .list items => items
  | .dictionary entries => entries.flatMap fun (key, value) => [key, value]
  | _ => []

/-- Whether two payloads are the same, with reals compared as numbers and boxes
by identity. -/
def agrees : Payload → Payload → Bool
  | .boolean value, .boolean value' => value == value'
  | .integer value, .integer value' => value == value'
  | .real value, .real value' => value.sameNumber value'
  | .string bytes, .string bytes' => bytes == bytes'
  | .list items, .list items' => items == items'
  | .dictionary entries, .dictionary entries' => entries == entries'
  | _, _ => false

end Payload

namespace Cell

def empty : Cell :=
  ⟨.empty, .none, .none⟩

end Cell

namespace Heap

/-- The heap that holds the boxes of the kinds and nothing else. -/
def initial : Heap :=
  ⟨#[.empty, .empty, .empty, .empty, .empty, .empty, .empty]⟩

def size (heap : Heap) : Nat :=
  heap.cells.size

/-- The contents of a box; a number that is not in use is an empty box. -/
def cell (heap : Heap) (box : BoxId) : Cell :=
  heap.cells[box]?.getD .empty

def method (heap : Heap) (box : BoxId) : Method :=
  (heap.cell box).method

def payload? (heap : Heap) (box : BoxId) : Option Payload :=
  (heap.cell box).payload

/-- A variable of the box itself. -/
def lookup? (heap : Heap) (box : BoxId) (name : String) : Option BoxId :=
  (heap.cell box).bindings.find? name

/-- The names of the variables of a box, ascending. -/
def variableNames (heap : Heap) (box : BoxId) : List String :=
  (heap.cell box).bindings.names

/-- The items of a box that carries a list. -/
def list? (heap : Heap) (box : BoxId) : Option (List BoxId) :=
  match heap.payload? box with
  | some (.list items) => some items
  | _ => none

/-- Adds a box. -/
def alloc (heap : Heap) (cell : Cell) : Heap × BoxId :=
  let box := heap.cells.size
  (⟨heap.cells.push cell⟩, box)

def modifyVariables (heap : Heap) (box : BoxId)
    (change : Bindings BoxId → Bindings BoxId) : Heap :=
  ⟨heap.cells.modify box fun cell => { cell with bindings := change cell.bindings }⟩

def setVariable (heap : Heap) (box : BoxId) (name : String) (value : BoxId) : Heap :=
  heap.modifyVariables box fun bindings => bindings.insert name value

def removeVariable (heap : Heap) (box : BoxId) (name : String) : Heap :=
  heap.modifyVariables box fun bindings => bindings.erase name

@[simp] theorem size_alloc (heap : Heap) (cell : Cell) :
    (heap.alloc cell).1.size = heap.size + 1 := by
  simp [alloc, size]

@[simp] theorem size_modifyVariables (heap : Heap) (box : BoxId)
    (change : Bindings BoxId → Bindings BoxId) :
    (heap.modifyVariables box change).size = heap.size := by
  simp [modifyVariables, size]

@[simp] theorem size_setVariable (heap : Heap) (box : BoxId) (name : String) (value : BoxId) :
    (heap.setVariable box name value).size = heap.size := by
  simp [setVariable]

theorem cell_alloc (heap : Heap) (cell : Cell) (box : BoxId) :
    (heap.alloc cell).1.cell box = if box = heap.size then cell else heap.cell box := by
  simp only [alloc, Heap.cell, size, Array.getElem?_push]
  by_cases new : box = heap.cells.size <;> simp [new]

theorem cell_modifyVariables (heap : Heap) (box : BoxId)
    (change : Bindings BoxId → Bindings BoxId) (query : BoxId) :
    (heap.modifyVariables box change).cell query =
      if query = box ∧ box < heap.size then
        { heap.cell query with bindings := change (heap.cell query).bindings }
      else heap.cell query := by
  by_cases inUse : query < heap.cells.size
  · by_cases same : query = box
    · subst same
      simp [modifyVariables, Heap.cell, size, inUse, Array.getElem_modify]
    · have different : ¬box = query := fun equal => same equal.symm
      simp [modifyVariables, Heap.cell, inUse, Array.getElem_modify, same, different]
  · have absent : ¬(query = box ∧ box < heap.size) := by
      rintro ⟨rfl, bound⟩
      exact inUse bound
    rw [if_neg absent]
    simp [modifyVariables, Heap.cell, inUse]

theorem lookup?_setVariable (heap : Heap) (box : BoxId) (name : String) (value : BoxId)
    (query : BoxId) (queryName : String) (inUse : box < heap.size) :
    (heap.setVariable box name value).lookup? query queryName =
      if query = box ∧ queryName = name then some value
      else heap.lookup? query queryName := by
  simp only [setVariable, lookup?, cell_modifyVariables]
  by_cases same : query = box
  · subst same
    by_cases sameName : queryName = name <;> simp [inUse, sameName]
  · simp [same]

end Heap

end BoxLang
