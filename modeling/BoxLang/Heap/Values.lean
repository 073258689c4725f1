import BoxLang.Heap.Basic

/-!
# Values

Boxes that carry a built-in value.  What a box is made of stands in its variable
`components`, a list of boxes; for a list it is the box of the list kind itself.
-/

namespace BoxLang

/-- The variable that lists what a box is made of. -/
def componentsName : String :=
  "components"

/-- The variable that names the box whose method is called instead. -/
def callName : String :=
  "call"

namespace Heap

/-- A new box without variables, method and payload. -/
def newBox (heap : Heap) : Heap × BoxId :=
  heap.alloc .empty

/-- A new box that only has a method. -/
def newMethod (heap : Heap) (method : Method) : Heap × BoxId :=
  heap.alloc ⟨.empty, method, none⟩

/-- A new box with the given components. -/
def newFromParts (heap : Heap) (components : BoxId) (method : Method)
    (payload : Option Payload) : Heap × BoxId :=
  heap.alloc ⟨Bindings.empty.insert componentsName components, method, payload⟩

def newList (heap : Heap) (items : List BoxId) : Heap × BoxId :=
  heap.newFromParts Kind.list.box .none (some (.list items))

/-- A new box that carries a payload and has its kind as only component. -/
def newOfKind (heap : Heap) (payload : Payload) : Heap × BoxId :=
  let (heap, components) := heap.newList [payload.kind.box]
  heap.newFromParts components .none (some payload)

/-- A new box that carries a payload. -/
def newValue (heap : Heap) : Payload → Heap × BoxId
  | .list items => heap.newList items
  | payload => heap.newOfKind payload

/-- The items of the list that the components of a box are. -/
def components? (heap : Heap) (box : BoxId) : Option (List BoxId) :=
  (heap.lookup? box componentsName).bind heap.list?

/-- Gives a box a new list of components. -/
def setComponents (heap : Heap) (box : BoxId) (items : List BoxId) : Heap :=
  let (heap, components) := heap.newList items
  heap.setVariable box componentsName components

/-- Whether the components of a box are, or list, the box of a kind. -/
def isKind (heap : Heap) (box : BoxId) (kind : Kind) : Bool :=
  match heap.lookup? box componentsName with
  | none => false
  | some components =>
      components == kind.box ||
        match heap.list? components with
        | none => false
        | some items => items.contains kind.box

/-- The kinds of a box. -/
def kinds (heap : Heap) (box : BoxId) : List Kind :=
  Kind.all.filter (heap.isKind box)

/-- Whether two boxes carry the same payload, or none. -/
def samePayload (heap : Heap) (first second : BoxId) : Bool :=
  match heap.payload? first, heap.payload? second with
  | none, none => true
  | some payload, some payload' => payload.agrees payload'
  | _, _ => false

end Heap

end BoxLang
