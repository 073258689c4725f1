import Mathlib.Data.List.Induction
import BoxLang.Proofs.Heap.Delegation
import BoxLang.Proofs.Heap.References
import BoxLang.Proofs.Machine.Discipline
import BoxLang.Proofs.Machine.Simulation

/-!
# The scopes of calls

A call runs the body of the method that its target delegates to, in a new box with that method.
The parameters are bound one after the other, so of several items for one name the last one
counts, and a parameter may take the name of the components.  The box is made before anything
is bound in it, and nothing else is written to.
-/

namespace BoxLang

namespace Bindings

variable {α : Type}

theorem find?_foldl_insert (entries : List (String × α)) (bindings : Bindings α) (name : String) :
    (entries.foldl (fun bindings (entry : String × α) => bindings.insert entry.1 entry.2)
      bindings).find? name = (search? name entries.reverse).or (bindings.find? name) := by
  induction entries using List.reverseRecOn with
  | nil => rfl
  | append_singleton entries entry inductionHypothesis =>
      rw [List.foldl_append, List.foldl_cons, List.foldl_nil, find?_insert, inductionHypothesis,
        List.reverse_append, List.reverse_singleton, List.singleton_append, search?]
      split <;> rfl

/-- A search from the end finds the last entry with a name. -/
theorem search?_reverse_eq_some_iff {entries : List (String × α)} {name : String} {value : α} :
    search? name entries.reverse = some value ↔
      ∃ position : Nat, entries[position]? = some (name, value) ∧
        ∀ (later : Nat) (other : α), position < later → entries[later]? ≠ some (name, other) := by
  induction entries using List.reverseRecOn with
  | nil => simp [search?]
  | append_singleton entries entry inductionHypothesis =>
      rw [List.reverse_append, List.reverse_singleton, List.singleton_append, search?]
      by_cases same : name = entry.1
      · have last : (entries ++ [entry])[entries.length]? = some (name, entry.2) := by
          rw [List.getElem?_concat_length, same]
        rw [if_pos same, Option.some.injEq]
        constructor
        · rintro rfl
          refine ⟨entries.length, last, ?_⟩
          intro later other past
          rw [List.getElem?_eq_none (by rw [List.length_append]; exact past)]
          exact (Option.some_ne_none _).symm
        · rintro ⟨position, found, latest⟩
          have inside := (List.getElem?_eq_some_iff.mp found).1
          rw [List.length_append, List.length_singleton] at inside
          rcases Nat.lt_or_eq_of_le (Nat.le_of_lt_succ inside) with earlier | rfl
          · exact absurd last (latest _ _ earlier)
          · cases last.symm.trans found
            rfl
      · have kept (position : Nat) (other : α) :
            (entries ++ [entry])[position]? = some (name, other) ↔
              entries[position]? = some (name, other) := by
          grind
        rw [if_neg same, inductionHypothesis]
        simp only [ne_eq, kept]

end Bindings

namespace Heap

/-- A name is bound to a value when parameters are given an argument: to the item at the place
of the last parameter of that name that there is an item for, or to the argument as a whole if
it is no list and the name is that of the first parameter. -/
inductive BindsArgument (heap : Heap) (parameters : List String) (argument : BoxId)
    (name : String) (value : BoxId) : Prop
  | item {items : List BoxId} (position : Nat) :
      heap.list? argument = some items → parameters[position]? = some name →
      items[position]? = some value →
      (∀ later, position < later → later < items.length → parameters[later]? ≠ some name) →
      BindsArgument heap parameters argument name value
  | whole : heap.list? argument = none → parameters.head? = some name → value = argument →
      BindsArgument heap parameters argument name value

/-- A later heap differs from a heap by the new scope of a call and the list in its components,
which holds the target of the call.  An argument takes the place of the components if it has
their name. -/
structure IsCallScope (heap : Heap) (target : BoxId) (method : Method) (argument : BoxId)
    (later : Heap) (scope : BoxId) : Prop where
  isNew : heap.size ≤ scope ∧ scope < later.size
  method_eq : later.method scope = method
  payload_eq : later.payload? scope = none
  binds : ∃ components, heap.size ≤ components ∧ components < later.size ∧
    components ≠ scope ∧
    later.cell components =
      ⟨Bindings.empty.insert componentsName Kind.list.box, .none, some (.list [target])⟩ ∧
    ∀ name value, later.lookup? scope name = some value ↔
      heap.BindsArgument method.parameters argument name value ∨
        (∀ other, ¬heap.BindsArgument method.parameters argument name other) ∧
          name = componentsName ∧ value = components
  retains : Retains (fun _ => True) heap later

section Scopes

variable {heap : Heap} {parameters : List String} {argument value : BoxId} {name : String}

theorem search?_boundArguments :
    Bindings.search? name (heap.boundArguments parameters argument).reverse = some value ↔
      heap.BindsArgument parameters argument name value := by
  unfold boundArguments
  cases listed : heap.list? argument with
  | some items =>
      simp only [Bindings.search?_reverse_eq_some_iff]
      constructor
      · rintro ⟨position, found, latest⟩
        obtain ⟨parameter, item⟩ := List.getElem?_zip_eq_some.mp found
        refine .item position listed parameter item ?_
        intro later past inside named
        exact latest later items[later] past
          (List.getElem?_zip_eq_some.mpr ⟨named, List.getElem?_eq_getElem inside⟩)
      · intro binds
        cases binds with
        | whole unlisted => cases listed.symm.trans unlisted
        | item position listed' parameter item latest =>
            cases listed.symm.trans listed'
            refine ⟨position, List.getElem?_zip_eq_some.mpr ⟨parameter, item⟩, ?_⟩
            intro later other past found
            obtain ⟨named, item'⟩ := List.getElem?_zip_eq_some.mp found
            exact latest later past (List.getElem?_eq_some_iff.mp item').1 named
  | none =>
      have whole : heap.BindsArgument parameters argument name value ↔
          parameters.head? = some name ∧ value = argument := by
        constructor
        · intro binds
          cases binds with
          | item _ listed' => cases listed.symm.trans listed'
          | whole _ first same => exact ⟨first, same⟩
        · rintro ⟨first, same⟩
          exact .whole listed first same
      rw [whole]
      cases parameters with
      | nil => simp [Bindings.search?]
      | cons parameter rest => simp [Bindings.search?, eq_comm]

theorem cell_callScope (heap : Heap) (target : BoxId) (method : Method) (argument : BoxId) :
    (heap.callScope target method argument).1.cell (heap.callScope target method argument).2 =
      ⟨callVariables heap.size (heap.boundArguments method.parameters argument), method, none⟩ :=
  cell_alloc_new _ _

theorem find?_callVariables (components : BoxId) (arguments : List (String × BoxId))
    (name : String) :
    (callVariables components arguments).find? name =
      (Bindings.search? name arguments.reverse).or
        (if name = componentsName then some components else none) := by
  refine (Bindings.find?_foldl_insert arguments _ name).trans ?_
  rw [Bindings.find?_insert, Bindings.find?_empty]

theorem lookup?_callScope_eq_some_iff (target : BoxId) (method : Method) :
    (heap.callScope target method argument).1.lookup? (heap.callScope target method argument).2
        name = some value ↔
      heap.BindsArgument method.parameters argument name value ∨
        (∀ other, ¬heap.BindsArgument method.parameters argument name other) ∧
          name = componentsName ∧ value = heap.size := by
  have unbound : Bindings.search? name
      (heap.boundArguments method.parameters argument).reverse = none ↔
        ∀ other, ¬heap.BindsArgument method.parameters argument name other := by
    simp only [← search?_boundArguments, Option.eq_none_iff_forall_ne_some]
  rw [lookup?, cell_callScope, find?_callVariables, Option.or_eq_some_iff, search?_boundArguments,
    unbound, Option.ite_none_right_eq_some, Option.some.injEq, eq_comm (a := value)]

/-- The scope that a call is given is the documented one. -/
theorem isCallScope_callScope (heap : Heap) (target : BoxId) (method : Method)
    (argument : BoxId) :
    heap.IsCallScope target method argument (heap.callScope target method argument).1
      (heap.callScope target method argument).2 := by
  have scope_eq : (heap.callScope target method argument).2 = heap.size + 1 := size_alloc heap _
  have size_eq : (heap.callScope target method argument).1.size = heap.size + 2 := by
    rw [callScope, size_alloc, newList, newFromParts, size_alloc]
  refine ⟨?_, ?_, ?_, ⟨heap.size, Nat.le_refl _, by omega, ?_, ?_, ?_⟩, ?_⟩
  · rw [scope_eq, size_eq]
    exact ⟨Nat.le_succ _, Nat.lt_succ_self _⟩
  · rw [Heap.method, cell_callScope]
  · rw [payload?, cell_callScope]
  · rw [scope_eq]
    exact Nat.ne_of_lt (Nat.lt_succ_self _)
  · rw [callScope, cell_alloc, if_neg]
    · exact cell_alloc_new heap _
    · rw [newList, newFromParts, size_alloc]
      exact Nat.ne_of_lt (Nat.lt_succ_self _)
  · intro name value
    exact lookup?_callScope_eq_some_iff target method
  · exact (retains_alloc heap _).trans (retains_alloc _ _)

end Scopes

end Heap

namespace Machine

variable {limits : Limits} {count : Nat} {heap : Heap} {root scope : BoxId}
  {expr callee given : Expr} {baseline : Nat} {machine later : Machine} {below : Stack Frame}

/-- A call with its target and its argument on top of the values enters the scope of the method
that the target delegates to, if it goes on. -/
theorem exists_isCallScope_of_follow {base : Stack BoxId} {target argument : BoxId} {steps : Nat}
    {frame : Frame}
    (followed : follow limits frame below steps (.call heap base target argument) =
      .running later) :
    ∃ last body inner, heap.DelegationEnds target last ∧
      (heap.method last).body = some body ∧
      heap.IsCallScope target (heap.method last) argument later.heap inner ∧
      later.values = base ∧
      later.frames = (below.push { frame with phase := frame.phase + 1 }).push
        ⟨inner, body, 0, base.size⟩ := by
  cases resolved : heap.resolve? target with
  | none =>
      rw [Effect.call_of_cycle resolved] at followed
      cases followed
  | some method =>
      obtain ⟨last, ends, rfl⟩ := Heap.resolve?_eq_some_iff.mp resolved
      cases bodied : (heap.method last).body with
      | none =>
          rw [Effect.call_of_bodiless resolved bodied] at followed
          cases followed
      | some body =>
          rw [Effect.call_of_body resolved bodied] at followed
          rcases follow_eq_running followed with
            ⟨moved, -⟩ | ⟨inner, entered, moved, -, rfl⟩ | ⟨moved, -⟩
          · cases moved
          · cases moved
            exact ⟨last, body, _, ends, bodied, heap.isCallScope_callScope _ _ _, rfl, rfl⟩
          · cases moved

/-- The values of a call that has its target and its argument. -/
theorem exists_values_of_call
    (ran : evaluate limits count heap root expr = .running machine)
    (frames_eq : machine.frames = below.push ⟨scope, .call callee given, 2, baseline⟩) :
    ∃ (base : Stack BoxId) (target argument : BoxId),
      machine.values = (base.push target).push argument ∧ base.size = baseline := by
  have balanced := (steady_of_evaluate ran).balanced
  rw [frames_eq] at balanced
  cases balanced with
  | top sits _ =>
      obtain ⟨lower, argument, values_eq, large⟩ := Stack.exists_push_of_size sits.size_eq
      obtain ⟨base, target, rfl, size_eq⟩ := Stack.exists_push_of_size large
      exact ⟨base, target, argument, values_eq, size_eq⟩

/-- Whenever a call comes to run a body, in whatever evaluation, this is the body of the method
at the end of the chain of delegates of its target.  It runs in a new box that has this method,
no payload, the arguments bound to its parameters, and the target as only component unless a
parameter has taken that name.  All boxes that were there are as they were. -/
theorem call_enters_scope
    (ran : evaluate limits count heap root expr = .running machine)
    (frames_eq : machine.frames = below.push ⟨scope, .call callee given, 2, baseline⟩)
    (stepped : machine.next limits = .running later) :
    ∃ (base : Stack BoxId) (target argument last : BoxId) (body : Expr) (inner : BoxId),
      machine.values = (base.push target).push argument ∧ base.size = baseline ∧
      machine.heap.DelegationEnds target last ∧
      (machine.heap.method last).body = some body ∧
      machine.heap.IsCallScope target (machine.heap.method last) argument later.heap inner ∧
      later.values = base ∧
      later.frames = (below.push ⟨scope, .call callee given, 3, baseline⟩).push
        ⟨inner, body, 0, baseline⟩ := by
  obtain ⟨base, target, argument, values_eq, size_eq⟩ := exists_values_of_call ran frames_eq
  obtain ⟨frame, below', pushed, followed⟩ := next_eq_running stepped
  have same : some (⟨scope, .call callee given, 2, baseline⟩, below) = some (frame, below') := by
    rw [← Stack.pop?_push, ← Stack.pop?_push, ← frames_eq, pushed]
  cases same
  have called : follow limits ⟨scope, .call callee given, 2, baseline⟩ below (machine.steps + 1)
      (.call machine.heap base target argument) = .running later := by
    rw [values_eq] at followed
    exact followed
  obtain ⟨last, body, inner, ends, bodied, isCallScope, values, frames⟩ :=
    exists_isCallScope_of_follow called
  rw [size_eq] at frames
  exact ⟨base, target, argument, last, body, inner, values_eq, size_eq, ends, bodied,
    isCallScope, values, frames⟩

/-- A call of a box that delegates to a method with a repeated parameter and one that has the
name of the components.  The list has an item for the first two parameters only. -/
theorem call_enters_scope_repeated_parameter :
    ∃ (heap : Heap) (machine later : Machine) (inner : BoxId),
      (heap.method 8).parameters = ["x", componentsName, "x"] ∧ heap.list? 10 = some [1, 2] ∧
      evaluate .unlimited 6 heap 7 (.call (.get "f") (.get "l")) = .running machine ∧
      machine.values = ((Stack.empty.push Kind.null.box).push 9).push 10 ∧
      machine.next .unlimited = .running later ∧
      later.heap.method inner = heap.method 8 ∧
      later.heap.lookup? inner "x" = some 1 ∧ later.heap.lookup? inner componentsName = some 2 ∧
      later.heap.lookup? inner "y" = none := by
  let root : Cell := ⟨⟨[("f", 9), ("l", 10)], by decide⟩, .none, none⟩
  let delegate : Cell := ⟨.empty, ⟨["x", componentsName, "x"], some (.get "x")⟩, none⟩
  let target : Cell := ⟨⟨[(callName, 8)], by decide⟩, .none, none⟩
  let argument : Cell := ⟨.empty, .none, some (.list [1, 2])⟩
  let heap : Heap := ⟨Heap.initial.cells ++ #[root, delegate, target, argument]⟩
  have delegates : heap.Delegates 9 8 := ⟨by decide +kernel, by decide⟩
  have ends : heap.DelegationEnds 9 8 := by
    refine ⟨.single delegates, ?_⟩
    rintro next ⟨found, -⟩
    have missing : heap.lookup? 8 callName = none := by decide +kernel
    cases missing.symm.trans found
  have resolved : heap.resolve? 9 = some (heap.method 8) :=
    Heap.resolve?_eq_some_iff.mpr ⟨8, ends, rfl⟩
  let sentinel : Stack BoxId := Stack.empty.push Kind.null.box
  let frame : Frame := ⟨7, .call (.get "f") (.get "l"), 2, 1⟩
  let machine : Machine := ⟨heap, (sentinel.push 9).push 10, Stack.empty.push frame, 6⟩
  have ran : evaluate .unlimited 6 heap 7 (.call (.get "f") (.get "l")) = .running machine := rfl
  obtain ⟨later, called⟩ : ∃ later,
      follow .unlimited frame .empty 7 (.call heap sentinel 9 10) = .running later :=
    ⟨_, congrArg (follow .unlimited frame .empty 7) (Effect.call_of_body resolved rfl _ _)⟩
  have stepped := (@next_push .unlimited rfl heap machine.values frame .empty 6).trans called
  obtain ⟨base, _, _, last, body, inner, values_eq, -, ends', -, isCallScope, -⟩ :=
    call_enters_scope ran rfl stepped
  obtain ⟨rfl, rest⟩ := List.cons.inj (congrArg Stack.items values_eq)
  obtain ⟨rfl, -⟩ := List.cons.inj rest
  cases ends.unique ends'
  obtain ⟨components, -, -, -, -, binds⟩ := isCallScope.binds
  have listed : heap.list? 10 = some [1, 2] := rfl
  refine ⟨heap, machine, later, inner, rfl, listed, ran, rfl, stepped, isCallScope.method_eq,
    (binds "x" 1).mpr (Or.inl (.item 0 listed rfl rfl ?_)),
    (binds componentsName 2).mpr (Or.inl (.item 1 listed rfl rfl ?_)), ?_⟩
  · intro later first last
    have second : later = 1 := by
      simp at last
      omega
    subst second
    decide
  · intro later second last
    simp at last
    omega
  · apply Option.eq_none_iff_forall_ne_some.mpr
    intro value found
    rcases (binds "y" value).mp found with bound | ⟨-, named, -⟩
    · cases bound with
      | item _ _ parameter => exact absurd (List.mem_of_getElem? parameter) (by decide)
      | whole unlisted => cases listed.symm.trans unlisted
    · exact absurd named (by decide)

end Machine

end BoxLang
