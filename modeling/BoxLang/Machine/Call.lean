import BoxLang.Heap.Delegation

/-!
# Call scopes

The body of a method runs in a new box whose only component is the box that was
called.  The items of a list argument are bound to the parameters in order; any
other argument is bound as a whole to the first parameter.
-/

namespace BoxLang.Heap

/-- The parameters of a method with the boxes bound to them. -/
def boundArguments (heap : Heap) (parameters : List String) (argument : BoxId) :
    List (String × BoxId) :=
  match heap.list? argument with
  | some items => parameters.zip items
  | none => parameters.take 1 |>.map fun parameter => (parameter, argument)

/-- The variables of a call scope. A later binding of a name replaces an earlier one. -/
def callVariables (components : BoxId) (arguments : List (String × BoxId)) : Bindings BoxId :=
  arguments.foldl (fun bindings (parameter, value) => bindings.insert parameter value)
    (Bindings.empty.insert componentsName components)

/-- The scope that the body of a method runs in. -/
def callScope (heap : Heap) (target : BoxId) (method : Method) (argument : BoxId) :
    Heap × BoxId :=
  let arguments := heap.boundArguments method.parameters argument
  let (heap, components) := heap.newList [target]
  heap.alloc ⟨callVariables components arguments, method, none⟩

end BoxLang.Heap
